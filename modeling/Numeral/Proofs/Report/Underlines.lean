import Numeral.Proofs.Grammar.Endings
import Numeral.Proofs.Report.Cropping
import Numeral.Proofs.Search.Totality

set_option autoImplicit false

namespace Numeral

open Grammar

/-- Where a numeral can go wrong: at one of its characters, behind its last one, or at the word
that its unit runs on into. -/
inductive Text.Excerpt.GoesWrong (cut : Text.Excerpt) : Range → Prop where
  | inside {front back : Text} {c : Char} (split : cut.inside = front ++ c :: back) :
      GoesWrong cut ⟨cut.start + Text.byteLength front,
        cut.start + Text.byteLength front + c.utf8Size⟩
  | behind : GoesWrong cut ⟨cut.stop, cut.stop⟩
  | word {c : Char} {rest : Text} (follows : cut.after = c :: rest)
      (goesOn : Unicode.isWord c = true) (unit : cut.inside.getLast? = some 'i') :
      GoesWrong cut ⟨cut.stop, cut.stop + c.utf8Size⟩

namespace Miss

theorem explain_goesWrong {cut : Text.Excerpt} {miss : Miss} (within : miss.read <+: cut.inside)
    (obstructed : miss.Obstructed cut.inside (cut.after.head?.any Unicode.isWord)) :
    cut.GoesWrong (miss.explain cut cut.start).range := by
  obtain ⟨ahead, same⟩ := within
  have rest : cut.inside.drop miss.read.length = ahead := by rw [← same, List.drop_left]
  rw [range_explain]
  cases ahead with
  | cons c back =>
    have found : miss.found? cut = some c := by
      unfold found?
      rw [rest]
      split <;> rfl
    rw [found]
    exact .inside same.symm
  | nil =>
    rw [List.append_nil] at same
    have here : cut.start + Text.byteLength miss.read = cut.stop := by
      rw [same, Text.Excerpt.start, Text.Excerpt.stop, Text.byteLength_append]
    rw [here]
    cases found : miss.found? cut with
    | none => exact .behind
    | some c =>
      -- behind the numeral only its end can be looked for
      unfold found? at found
      rw [rest] at found
      split at found
      next ends =>
        obtain ⟨later, follows⟩ := List.head?_eq_some_iff.1 found
        rw [List.nil_append] at follows
        obtain ⟨unit, goesOn⟩ := obstructed ends same
        rw [follows] at goesOn
        exact .word follows goesOn unit
      next => simp at found

end Miss

theorem Text.Excerpt.outcome_eq_invalid {cut : Text.Excerpt}
    (invalid : cut.outcome.1.kind.isInvalid = true) : cut.outcome.1 = .invalid cut.range := by
  unfold outcome Grammar.outcome at invalid ⊢
  split at invalid
  next => simp [Tree.ofReading, Kind.isInvalid_ofForm] at invalid
  next => rfl

theorem Text.Excerpt.outcome_goesWrong {cut : Text.Excerpt}
    (invalid : cut.outcome.1.kind.isInvalid = true) :
    ∃ miss, cut.outcome.2 = some miss ∧ miss.read <+: cut.inside ∧
      cut.GoesWrong (miss.explain cut cut.start).range := by
  obtain ⟨miss, furthest, within⟩ := outcome_invalid invalid
  refine ⟨miss, furthest, within, Miss.explain_goesWrong within ?_⟩
  unfold outcome Grammar.outcome at furthest
  split at furthest
  next => simp at furthest
  next => exact parse_obstructed productions _ _ miss (Miss.furthest_mem furthest)

theorem Candidate.exists_last {text : Text} {cut : Text.Excerpt} (whole : cut.whole = text)
    (found : scan text cut.start = some cut.stop) :
    ∃ front c, cut.inside = front ++ [c] ∧ c.utf8Size = 1 := by
  obtain ⟨same, ends, around, chars⟩ := cut_of_scan found
  obtain ⟨start, stop⟩ := Prod.mk.inj ends
  have here : Text.excerpt? text cut.start cut.stop = some same :=
    Text.excerpt?_eq_some_iff.2 ⟨around.symm, start.symm, stop.symm⟩
  rw [← whole, Text.excerpt?_whole] at here
  obtain rfl := Option.some.inj here
  have nonempty : cut.inside ≠ [] := by
    intro empty
    have order := scan_lt found
    simp [Text.Excerpt.start, Text.Excerpt.stop, empty] at order
  have last := chars _ (List.getLast_mem nonempty)
  refine ⟨_, _, (List.dropLast_concat_getLast nonempty).symm, ?_⟩
  exact last.elim asciiOnly_isInterior.utf8Size_eq asciiOnly_isSign.utf8Size_eq

namespace Text.Excerpt

variable {cut : Text.Excerpt} {front : Text} {d : Char} (last : cut.inside = front ++ [d])

include last

theorem start_lt_stop : cut.start < cut.stop := by
  have positive := d.utf8Size_pos
  simp only [start, stop, last, byteLength_append, byteLength]
  omega

omit last in
theorem GoesWrong.order {range : Range} (wrong : cut.GoesWrong range) :
    range.start ≤ range.stop := by
  cases wrong with
  | inside => exact Nat.le_add_right ..
  | behind => exact Nat.le_refl _
  | word => exact Nat.le_add_right ..

theorem GoesWrong.widen_char {range : Range} (wrong : cut.GoesWrong range)
    (narrow : d.utf8Size = 1) :
    ∃ ahead c behind, cut.inside ++ cut.after = ahead ++ c :: behind ∧
      Passage.CoversChar (Passage.widen (byteLength cut.whole) range)
        (byteLength (cut.before ++ ahead)) c := by
  cases wrong with
  | @inside front back c split =>
    refine ⟨front, c, back ++ cut.after, by rw [split, List.append_assoc, List.cons_append], ?_⟩
    rw [start, ← byteLength_append]
    exact Passage.widen_char _ _ c
  | behind =>
    cases follows : cut.after with
    | nil =>
      -- the last byte of the text is the last character of the numeral
      refine ⟨front, d, [], by rw [last, List.append_nil], ?_⟩
      have whole : byteLength cut.whole = byteLength (cut.before ++ front) + 1 := by
        rw [Excerpt.whole, follows, last, List.append_nil, ← List.append_assoc,
          byteLength_concat narrow]
      have ends : cut.stop = byteLength cut.whole := by
        rw [stop, Excerpt.whole, follows, List.append_nil]
      rw [ends, whole]
      exact Passage.widen_end _ d
    | cons c rest =>
      refine ⟨cut.inside, c, rest, rfl, ?_⟩
      apply Passage.widen_empty
      rw [Excerpt.whole, follows, byteLength_append _ (c :: rest)]
      exact Nat.lt_add_of_pos_right (byteLength_pos (by simp))
  | @word c rest follows goesOn unit =>
    refine ⟨cut.inside, c, rest, by rw [follows], ?_⟩
    exact Passage.widen_char _ _ c

end Text.Excerpt

structure Text.Excerpt.Labels (cut : Text.Excerpt) (index : Nat) (numeral help : Label) :
    Prop where
  numeral_file : numeral.file = index
  numeral_range : numeral.range = cut.range
  help_file : help.file = index
  help_range : cut.GoesWrong help.range

/-- The slice is of the text around a numeral, from the line on which the numeral begins. It
underlines all of the numeral, and for help the one character that is meant. -/
structure Slice.Shows (slice : Slice) (cut : Text.Excerpt) (numeral help : Label)
    (skipped line : Text) : Prop where
  before_eq : cut.before = skipped ++ line
  line_single : Text.newline ∉ line
  firstLine_eq : slice.firstLine = cut.before.count Text.newline + 1
  source_eq : slice.source = line ++ cut.inside ++ cut.after
  underlines_eq : ∃ ahead c behind, slice.source = ahead ++ c :: behind ∧
    Passage.CoversChar (Passage.widen (Text.byteLength cut.whole) help.range)
      (Text.byteLength (skipped ++ ahead)) c ∧
    slice.underlines =
      [⟨line.length, (line ++ cut.inside).length, numeral.severity, numeral.message⟩,
        ⟨ahead.length, ahead.length + 1, help.severity, help.message⟩]

section

variable {file : SourceFile} {cut : Text.Excerpt} (whole : cut.whole = file.text)
  {front : Text} {d : Char} (last : cut.inside = front ++ [d]) (narrow : d.utf8Size = 1)

include whole last narrow

theorem crop_shows {index : Nat} {numeral help : Label} (labels : cut.Labels index numeral help) :
    ∃ slice skipped line, Passage.crop ⟨index, file, [numeral, help]⟩ = .ok slice ∧
      slice.path = file.path ∧ slice.Shows cut numeral help skipped line := by
  obtain ⟨ahead, c, behind, split, covers⟩ := labels.help_range.widen_char last narrow
  have length : Text.byteLength cut.whole = file.length := by rw [whole, SourceFile.length]
  have plain : Passage.widen file.length numeral.range = ⟨cut.start, cut.stop⟩ := by
    rw [labels.numeral_range]
    exact Passage.widen_of_lt _ (Text.Excerpt.start_lt_stop last)
  -- help is never earlier than the numeral, so the numeral's line comes first
  have earliest : Passage.earliest ⟨index, file, [numeral, help]⟩ =
      Text.byteLength cut.before := by
    have later := covers.start_eq
    rw [length, Text.byteLength_append] at later
    simp only [Passage.earliest, Passage.shownRange, List.map_cons, List.map_nil, plain, later]
    simp [List.min?, Text.Excerpt.start]
  have around : file.text = cut.before ++ (cut.inside ++ cut.after) := by
    rw [← whole, Text.Excerpt.whole, List.append_assoc]
  obtain ⟨skipped, before, cropped⟩ :=
    Passage.crop_at ⟨index, file, [numeral, help]⟩ around earliest
  have single := Text.newline_notMem_lastLine cut.before
  generalize Text.lastLine cut.before = line at before cropped single
  rw [before, List.append_assoc] at covers
  have source : line ++ (cut.inside ++ cut.after) = line ++ ahead ++ c :: behind := by
    rw [split, List.append_assoc]
  have first : Passage.underline (line ++ (cut.inside ++ cut.after)) (Text.byteLength skipped)
      numeral ⟨cut.start, cut.stop⟩ =
        ⟨line.length, (line ++ cut.inside).length, numeral.severity, numeral.message⟩ := by
    rw [← List.append_assoc]
    apply Passage.underline_chars
    next => rw [← before, Text.Excerpt.start]
    next => rw [← before, Text.Excerpt.stop]
  have second := Passage.underline_char skipped (line ++ ahead) help c behind covers
  rw [← source, length] at second
  refine ⟨_, skipped, line, cropped, rfl, before, single, rfl, (List.append_assoc ..).symm,
    line ++ ahead, c, behind, source, covers, ?_⟩
  simp only [Passage.shownRange, List.map_cons, List.map_nil, plain, first, second]

end

theorem Diagnostic.labels_explainedBy (index : Nat) (range : Range) (located : Bool)
    (why : Explanation) :
    ((invalidLiteral index range located).explainedBy index why).labels =
      [⟨index, range, .error, displayed "this is not a valid number"⟩,
        ⟨index, why.range, .help, displayed why.message⟩] :=
  (foldl_note why.notes ((invalidLiteral index range located).remark index why.range
    why.message)).1

theorem Diagnostic.snippet_of_slices {files : List SourceFile} {diagnostic : Diagnostic}
    {slices : List Slice} (made : diagnostic.slices files = .ok slices) (showsPlaces : Bool) :
    ∃ notes, diagnostic.snippet files showsPlaces =
      .ok ⟨diagnostic.severity, diagnostic.title, slices, notes⟩ := by
  rw [snippet, made]
  exact ⟨_, rfl⟩

def Diagnostic.ExplainsIn (files : List SourceFile) (index : Nat) (file : SourceFile)
    (cut : Text.Excerpt) (diagnostic : Diagnostic) : Prop :=
  ∃ numeral help, diagnostic.labels = [numeral, help] ∧ cut.Labels index numeral help ∧
    -- no look, no cut and no difference on the way to these fails
    Search.explained file.text cut.start cut.stop =
      .ok ((Tree.invalid cut.range).entries, some help.range) ∧
    ∃ slice skipped line, slice.path = file.path ∧ slice.Shows cut numeral help skipped line ∧
      diagnostic.prepare files = .ok [slice] ∧
      ∀ showsPlaces, ∃ notes, diagnostic.snippet files showsPlaces =
        .ok ⟨diagnostic.severity, diagnostic.title, [slice], notes⟩

def ExplainedIn (files : List SourceFile) (index : Nat) (file : SourceFile)
    (found : Literal × Option Diagnostic) : Prop :=
  found.1.tree.kind.isInvalid = true → ∃ cut diagnostic, cut.whole = file.text ∧
    found.1.tree.range = cut.range ∧ found.2 = some diagnostic ∧
    diagnostic.ExplainsIn files index file cut

section

variable {file : SourceFile} (fits : file.length ≤ Range.largestBound)
  {files : List SourceFile} {index : Nat} (stored : files[index]? = some file) (located : Bool)

include fits stored

theorem diagnose_explainsIn {cut : Text.Excerpt} (whole : cut.whole = file.text)
    (found : Candidate.scan file.text cut.start = some cut.stop)
    (invalid : cut.outcome.1.kind.isInvalid = true) :
    ∃ diagnostic, diagnose true located index file cut.range cut.outcome.2 = .ok diagnostic ∧
      diagnostic.ExplainsIn files index file cut := by
  obtain ⟨front, d, last, narrow⟩ := Candidate.exists_last whole found
  obtain ⟨miss, furthest, within, wrong⟩ := Text.Excerpt.outcome_goesWrong invalid
  rw [furthest]
  have labels := Diagnostic.labels_explainedBy index cut.range located (miss.explain cut cut.start)
  have places : cut.Labels index ⟨index, cut.range, .error, displayed "this is not a valid number"⟩
      ⟨index, (miss.explain cut cut.start).range, .help,
        displayed (miss.explain cut cut.start).message⟩ := ⟨rfl, rfl, rfl, wrong⟩
  obtain ⟨slice, skipped, line, cropped, path, shows⟩ := crop_shows whole last narrow places
  have told : Search.explained file.text cut.start cut.stop =
      .ok ((Tree.invalid cut.range).entries, some (miss.explain cut cut.start).range) := by
    have explained := Search.explained_whole cut (whole ▸ fits)
    rw [furthest, Text.Excerpt.outcome_eq_invalid invalid] at explained
    exact whole ▸ explained
  let shown := (Diagnostic.invalidLiteral index cut.range located).explainedBy index
    (miss.explain cut cut.start)
  have sliced : shown.slices files = .ok [slice] := by
    rw [Diagnostic.slices, labels, Passage.gather_eq stored _ _ (by simp)]
    simp [bind, Except.bind, cropped, pure, Except.pure]
  have order : ∀ label ∈ shown.labels, label.range.start ≤ label.range.stop := by
    rw [labels]
    simp only [List.forall_mem_cons, List.not_mem_nil, false_imp_iff, implies_true, and_true]
    exact ⟨cut.start_le_stop, wrong.order⟩
  exact ⟨shown, diagnose_explained whole fits located index within, _, _, labels, places, told,
    slice, skipped, line, path, shows, (Diagnostic.prepare_eq order).trans sliced,
    Diagnostic.snippet_of_slices sliced⟩

theorem literalBetween_explainedIn {start stop : Nat}
    (found : Candidate.scan file.text start = some stop) :
    ∃ result, file.literalBetween true located index start stop = .ok result ∧
      ExplainedIn files index file result := by
  obtain ⟨cut, ends, whole, -⟩ := Candidate.cut_of_scan found
  obtain ⟨rfl, rfl⟩ := Prod.mk.inj ends
  have bound : cut.stop ≤ Range.largestBound := by
    have inside := cut.stop_le_length
    rw [whole] at inside
    exact Nat.le_trans inside fits
  have examined : examine file.text cut.start cut.stop = .ok (cut.outcome.1, cut.outcome.2) :=
    whole ▸ examine_whole cut bound
  unfold SourceFile.literalBetween ExplainedIn
  rw [examined]
  simp only [bind, Except.bind]
  cases invalid : cut.outcome.1.kind.isInvalid with
  | false => exact ⟨_, rfl, fun wrong => absurd (invalid.symm.trans wrong) (by decide)⟩
  | true =>
    obtain ⟨diagnostic, made, explains⟩ :=
      diagnose_explainsIn fits stored located whole found invalid
    rw [if_pos rfl, cut.outcome_range, made]
    exact ⟨_, rfl, fun _ => ⟨cut, diagnostic, whole, cut.outcome_range, rfl, explains⟩⟩

end

/-- Looking for the numerals of a file always comes to an end, and each invalid one can be shown:
it is underlined whole, and for help one character, where it goes wrong. -/
theorem literals_underlined {file : SourceFile} (fits : file.length ≤ Range.largestBound)
    {files : List SourceFile} {index : Nat} (stored : files[index]? = some file)
    (located : Bool) :
    (∃ results, file.literals true located index = .ok results ∧
      ∀ found ∈ results, ExplainedIn files index file found) ∧
    ∀ offset, ∃ result, file.literalAt true located index offset = .ok result ∧
      ∀ found ∈ result, ExplainedIn files index file found := by
  constructor
  next =>
    have each : ∀ ends ∈ Candidate.all file.text, ∃ found,
        file.literalBetween true located index ends.1 ends.2 = .ok found ∧
          ExplainedIn files index file found := by
      intro ends member
      exact literalBetween_explainedIn fits stored located
        (Candidate.after_scan [] file.text ends member).1
    rw [SourceFile.literals, ← List.map_id (Candidate.all file.text)]
    obtain ⟨results, made, explained⟩ := mapM_forall₂
      (f := fun ends : Nat × Nat => file.literalBetween true located index ends.1 ends.2) each
    exact ⟨results, made, forall_right explained⟩
  next =>
    intro offset
    unfold SourceFile.literalAt
    cases scanned : Candidate.scan file.text offset with
    | none => exact ⟨none, rfl, by simp⟩
    | some stop =>
      obtain ⟨found, made, explained⟩ :=
        literalBetween_explainedIn fits stored located scanned
      exact ⟨some found, by simp only [made, Except.map], by simpa using explained⟩

def runningOn : SourceFile :=
  ⟨"running on", ['é', ' ', '1', 'i', 'é']⟩

theorem literals_underlined_unit :
    ∃ cut diagnostic, cut.whole = runningOn.text ∧ cut.range = ⟨3, 5⟩ ∧
      runningOn.literalAt true false 0 3 =
        .ok (some (⟨runningOn, .invalid ⟨3, 5⟩⟩, some diagnostic)) ∧
      diagnostic.ExplainsIn [runningOn] 0 runningOn cut := by
  have stored : [runningOn][0]? = some runningOn := rfl
  obtain ⟨found, made, explained⟩ := (literals_underlined (by decide) stored false).2 3
  have invalid : found.map (fun one => one.1) = some ⟨runningOn, .invalid ⟨3, 5⟩⟩ := by
    have computed : (runningOn.literalAt true false 0 3).map (Option.map fun one => one.1) =
        .ok (some ⟨runningOn, .invalid ⟨3, 5⟩⟩) := rfl
    rw [made] at computed
    exact Except.ok.inj computed
  obtain ⟨⟨literal, told⟩, rfl, rfl⟩ := Option.map_eq_some_iff.1 invalid
  obtain ⟨cut, diagnostic, whole, range, rfl, explains⟩ := explained _ rfl rfl
  exact ⟨cut, diagnostic, whole, range.symm, made, explains⟩

end Numeral
