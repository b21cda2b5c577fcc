import Numeral.Proofs.Candidate.Found
import Numeral.Workspace.Action

set_option autoImplicit false

namespace Numeral

open Grammar

theorem Kind.isInvalid_ofForm (form : Form) (imaginary : Bool) :
    (ofForm form imaginary).isInvalid = false := by
  cases form <;> rfl

theorem Text.Excerpt.outcome_invalid {cut : Text.Excerpt}
    (invalid : cut.outcome.1.kind.isInvalid = true) :
    ∃ miss, cut.outcome.2 = some miss ∧ miss.read <+: cut.inside := by
  unfold outcome Grammar.outcome at invalid ⊢
  cases failed : (parseExcerpt productions cut).result with
  | some reading => simp [failed, Tree.ofReading, Kind.isInvalid_ofForm] at invalid
  | none =>
    have missed : (parseExcerpt productions cut).misses ≠ [] :=
      parse_blames (by decide) _ _ failed
    obtain ⟨miss, furthest⟩ := Option.ne_none_iff_exists'.1 (mt Miss.furthest_eq_none_iff.1 missed)
    refine ⟨miss, furthest, ?_⟩
    exact parse_within productions _ _ miss (Miss.furthest_mem furthest)

namespace Miss

theorem range_explain (cut : Text.Excerpt) (start : Nat) (miss : Miss) :
    (miss.explain cut start).range =
      ⟨start + Text.byteLength miss.read,
        start + Text.byteLength miss.read + ((miss.found? cut).map Char.utf8Size).getD 0⟩ := by
  unfold explain
  cases miss.found? cut with
  | none => rfl
  | some c =>
    simp only
    split_ifs <;> rfl

variable {cut : Text.Excerpt} {miss : Miss} (within : miss.read <+: cut.inside)

include within

theorem found?_next {c : Char} (found : miss.found? cut = some c) :
    ∃ rest, cut.whole = cut.before ++ miss.read ++ c :: rest := by
  obtain ⟨ahead, same⟩ := within
  have rest : cut.inside.drop miss.read.length = ahead := by rw [← same, List.drop_left]
  have whole : cut.whole = cut.before ++ miss.read ++ (ahead ++ cut.after) := by
    simp [Text.Excerpt.whole, ← same]
  have next : (ahead ++ cut.after).head? = some c := by
    unfold found? at found
    rw [rest] at found
    split at found
    next => exact found
    next => rw [List.head?_append, found, Option.some_or]
  obtain ⟨later, following⟩ := List.head?_eq_some_iff.1 next
  exact ⟨later, by rw [whole, following]⟩

theorem explain_range :
    (miss.explain cut cut.start).range.start ≤ (miss.explain cut cut.start).range.stop ∧
      (miss.explain cut cut.start).range.stop ≤ Text.byteLength cut.whole := by
  cases found : miss.found? cut with
  | none =>
    obtain ⟨ahead, same⟩ := within
    simp [explain, found, Text.Excerpt.start, Text.Excerpt.whole, ← same]
  | some c =>
    obtain ⟨rest, whole⟩ := found?_next within found
    have width : cut.start + Text.byteLength miss.read + c.utf8Size ≤
        Text.byteLength cut.whole := by
      simp only [whole, Text.byteLength_append, Text.byteLength, Text.Excerpt.start]
      omega
    simp only [explain, found]
    split_ifs <;> exact ⟨Nat.le_add_right _ _, width⟩

end Miss

/-- The error for an invalid numeral: it points at the numeral first, and at something that helps
exactly if it is to explain. -/
structure Diagnostic.Rejects (explains : Bool) (index : Nat) (range : Range)
    (diagnostic : Diagnostic) : Prop where
  severity_eq : diagnostic.severity = .error
  labels_eq : ∃ label helps, diagnostic.labels = label :: helps ∧
    label.file = index ∧ label.range = range ∧ helps.length = (if explains then 1 else 0) ∧
    ∀ help ∈ helps, help.severity = .help
  unexplained : explains = false → diagnostic.notes = []

def Diagnostic.explainedBy (index : Nat) (why : Explanation) (diagnostic : Diagnostic) :
    Diagnostic :=
  why.notes.foldl (fun longer text => longer.note text)
    (diagnostic.remark index why.range why.message)

theorem Diagnostic.foldl_note (texts : List String) (diagnostic : Diagnostic) :
    (texts.foldl (fun longer text => longer.note text) diagnostic).labels = diagnostic.labels ∧
      (texts.foldl (fun longer text => longer.note text) diagnostic).severity =
        diagnostic.severity := by
  induction texts generalizing diagnostic with
  | nil => exact ⟨rfl, rfl⟩
  | cons text texts ih => exact ih (diagnostic.note text)

theorem Diagnostic.rejects_plain (index : Nat) (range : Range) (located : Bool) :
    (invalidLiteral index range located).Rejects false index range :=
  ⟨rfl, ⟨_, [], rfl, rfl, rfl, rfl, by simp⟩, fun _ => rfl⟩

theorem Diagnostic.rejects_explained (index : Nat) (range : Range) (located : Bool)
    (why : Explanation) :
    ((invalidLiteral index range located).explainedBy index why).Rejects true index range := by
  obtain ⟨labels, severity⟩ :=
    foldl_note why.notes ((invalidLiteral index range located).remark index why.range why.message)
  exact ⟨severity, ⟨_, _, labels, rfl, rfl, rfl, by simp⟩, by simp⟩

theorem forall_right {α β : Type} {good : β → Prop} {sources : List α} {results : List β}
    (each : List.Forall₂ (fun _ => good) sources results) : ∀ result ∈ results, good result := by
  induction each with
  | nil => simp
  | cons first _ ih => exact List.forall_mem_cons.2 ⟨first, ih⟩

theorem Diagnostic.errors_of_rejects {explains : Bool} {index : Nat} {trees : List Tree}
    {diagnostics : List Diagnostic}
    (rejects : List.Forall₂
      (fun tree diagnostic => diagnostic.Rejects explains index tree.range) trees diagnostics) :
    ∀ diagnostic ∈ diagnostics, diagnostic.severity = .error :=
  forall_right (rejects.imp fun _ _ rejected => rejected.severity_eq)

def Tree.Judged (explains : Bool) (index : Nat) (tree : Tree) (diagnostic? : Option Diagnostic) :
    Prop :=
  if tree.kind.isInvalid then
    ∃ diagnostic, diagnostic? = some diagnostic ∧ diagnostic.Rejects explains index tree.range
  else diagnostic? = none

section

variable {file : SourceFile} {cut : Text.Excerpt} (whole : cut.whole = file.text)
  (fits : file.length ≤ Range.largestBound) (explains located : Bool) (index : Nat)

include whole fits

theorem diagnose_explained {miss : Miss} (within : miss.read <+: cut.inside) :
    diagnose true located index file cut.range (some miss) =
      .ok ((Diagnostic.invalidLiteral index cut.range located).explainedBy index
        (miss.explain cut cut.start)) := by
  obtain ⟨order, inside⟩ := Miss.explain_range within
  rw [whole] at inside
  have place : file.span _ = _ := Range.resolve_between order inside (Nat.le_trans inside fits)
  have around : Text.excerpt? file.text cut.range.start cut.range.stop = some cut :=
    whole ▸ Text.excerpt?_whole cut
  unfold diagnose
  rw [around]
  simp only [show cut.range.start = cut.start from rfl, place]
  rfl

theorem diagnose_rejects {miss : Miss} (within : miss.read <+: cut.inside) :
    ∃ diagnostic, diagnose explains located index file cut.range (some miss) = .ok diagnostic ∧
      diagnostic.Rejects explains index cut.range := by
  cases explains with
  | false => exact ⟨_, rfl, Diagnostic.rejects_plain index cut.range located⟩
  | true =>
    exact ⟨_, diagnose_explained whole fits located index within,
      Diagnostic.rejects_explained index cut.range located (miss.explain cut cut.start)⟩

theorem literalBetween_judged :
    ∃ found, file.literalBetween explains located index cut.start cut.stop = .ok found ∧
      found.1 = ⟨file, cut.outcome.1⟩ ∧ cut.outcome.1.Judged explains index found.2 := by
  have bound : cut.stop ≤ Range.largestBound := by
    have inside := cut.stop_le_length
    rw [whole] at inside
    exact Nat.le_trans inside fits
  have examined : examine file.text cut.start cut.stop = .ok (cut.outcome.1, cut.outcome.2) :=
    whole ▸ examine_whole cut bound
  unfold SourceFile.literalBetween Tree.Judged
  rw [examined]
  simp only [bind, Except.bind]
  cases invalid : cut.outcome.1.kind.isInvalid with
  | false => exact ⟨_, rfl, rfl, rfl⟩
  | true =>
    obtain ⟨miss, furthest, within⟩ := Text.Excerpt.outcome_invalid invalid
    obtain ⟨diagnostic, made, rejects⟩ :=
      diagnose_rejects whole fits explains located index within
    rw [← cut.outcome_range] at made rejects
    rw [furthest, if_pos rfl, made]
    exact ⟨_, rfl, rfl, _, rfl, rejects⟩

end

def Reports (explains : Bool) (index : Nat) (file : SourceFile) (tree : Tree)
    (found : Literal × Option Diagnostic) : Prop :=
  found.1 = ⟨file, tree⟩ ∧ tree.Judged explains index found.2

theorem literals_judged {file : SourceFile} (fits : file.length ≤ Range.largestBound)
    (explains located : Bool) (index : Nat) :
    ∃ trees results, findAll file.text = .ok trees ∧
      file.literals explains located index = .ok results ∧
      List.Forall₂ (Reports explains index file) trees results := by
  obtain ⟨cuts, known⟩ := Candidate.exists_cuts file.text
  have each : ∀ cut ∈ cuts, ∃ found,
      file.literalBetween explains located index cut.ends.1 cut.ends.2 = .ok found ∧
        Reports explains index file cut.outcome.1 found := by
    intro cut member
    exact literalBetween_judged (known.whole_eq cut member) fits explains located index
  obtain ⟨results, made, judged⟩ := mapM_forall₂
    (f := fun ends : Nat × Nat => file.literalBetween explains located index ends.1 ends.2) each
  refine ⟨_, results, findAll_cuts known fits, ?_, List.forall₂_map_left_iff.2 judged⟩
  rw [SourceFile.literals, ← known.ends_eq, made]

theorem literalAt_judged {file : SourceFile} (fits : file.length ≤ Range.largestBound)
    (explains located : Bool) (index offset : Nat) :
    ∃ tree? result, recognize file.text offset = .ok tree? ∧
      file.literalAt explains located index offset = .ok result ∧
      List.Forall₂ (Reports explains index file) tree?.toList result.toList := by
  unfold recognize SourceFile.literalAt
  cases scanned : Candidate.scan file.text offset with
  | none => exact ⟨none, none, rfl, rfl, .nil⟩
  | some stop =>
    obtain ⟨cut, ends, whole, -⟩ := Candidate.cut_of_scan scanned
    obtain ⟨rfl, rfl⟩ := Prod.mk.inj ends
    obtain ⟨found, made, judged⟩ :=
      literalBetween_judged whole fits explains located index
    have bound : cut.stop ≤ Range.largestBound := by
      have inside := cut.stop_le_length
      rw [whole] at inside
      exact Nat.le_trans inside fits
    have classified : classify file.text cut.start cut.stop = .ok cut.outcome.1 :=
      whole ▸ classify_whole cut bound
    refine ⟨some cut.outcome.1, some found, ?_, ?_, .cons judged .nil⟩
    next => simp only [classified, Except.map]
    next => simp only [made, Except.map]

section

variable {explains : Bool} {index : Nat} {file : SourceFile} {trees : List Tree}
  {results : List (Literal × Option Diagnostic)}
  (judged : List.Forall₂ (Reports explains index file) trees results)

include judged

theorem literals_of_judged : results.map Prod.fst = trees.map (Literal.mk file) := by
  induction judged with
  | nil => rfl
  | cons first _ ih => rw [List.map_cons, List.map_cons, first.1, ih]

theorem diagnostics_of_judged :
    List.Forall₂ (fun tree diagnostic => diagnostic.Rejects explains index tree.range)
      (trees.filter fun tree => tree.kind.isInvalid) (results.filterMap Prod.snd) := by
  induction judged with
  | nil => exact .nil
  | @cons tree found trees results first _ ih =>
    have judgement := first.2
    unfold Tree.Judged at judgement
    cases invalid : tree.kind.isInvalid with
    | false =>
      rw [invalid, if_neg (by decide)] at judgement
      simpa [invalid, judgement] using ih
    | true =>
      rw [invalid, if_pos rfl] at judgement
      obtain ⟨diagnostic, same, rejects⟩ := judgement
      simpa [invalid, same] using ⟨rejects, ih⟩

end

namespace Report

def append (diagnostics : List Diagnostic) (report : Report) : Report :=
  { report with diagnostics := report.diagnostics ++ diagnostics }

theorem errorCount_append {diagnostics : List Diagnostic} (report : Report)
    (errors : ∀ diagnostic ∈ diagnostics, diagnostic.severity = .error) :
    (report.append diagnostics).errorCount = report.errorCount + diagnostics.length := by
  have all : diagnostics.countP (fun diagnostic => diagnostic.severity = .error) =
      diagnostics.length := List.countP_eq_length.2 (by simpa using errors)
  rw [errorCount, append, List.countP_append, all, errorCount]

end Report

namespace Workspace

theorem insertAll_eq (journal : Nat) (diagnostics : List Diagnostic) (workspace : Workspace) :
    workspace.insertAll journal diagnostics =
      { workspace with
        journals := workspace.journals.modify journal fun entry =>
          { entry with report := entry.report.append diagnostics } } := by
  induction diagnostics generalizing workspace with
  | nil =>
    have same : (fun entry : Journal => { entry with report := entry.report.append [] }) = id := by
      funext entry
      simp [Report.append]
    rw [same, List.modify_id]
    rfl
  | cons diagnostic rest ih =>
    rw [insertAll, List.foldl_cons]
    refine (ih (workspace.insert journal diagnostic)).trans ?_
    simp [insert, List.modify_modify_eq, Report.insert, Report.append, Function.comp_def]

/-- What looking for numerals does to a workspace: one journal gains an error for each tree that
is invalid, in order, and nothing else changes. -/
structure Gains (before : Workspace) (journal : Nat) (entry : Journal) (index : Nat)
    (trees : List Tree) (after : Workspace) : Prop where
  journal_eq : ∃ diagnostics,
    after.journals[journal]? = some { entry with report := entry.report.append diagnostics } ∧
    List.Forall₂
      (fun tree diagnostic =>
        diagnostic.Rejects entry.report.options.explains index tree.range)
      (trees.filter fun tree => tree.kind.isInvalid) diagnostics
  errorCount_eq : ∀ last, after.journals[journal]? = some last →
    last.report.errorCount =
      entry.report.errorCount + trees.countP fun tree => tree.kind.isInvalid
  others_eq : ∀ other, other ≠ journal → after.journals[other]? = before.journals[other]?
  rest_eq : after = { before with journals := after.journals }

theorem gains_insertAll {workspace : Workspace} {journal : Nat} {entry : Journal}
    (kept : workspace.journals[journal]? = some entry) {index : Nat} {trees : List Tree}
    {diagnostics : List Diagnostic}
    (rejects : List.Forall₂
      (fun tree diagnostic => diagnostic.Rejects entry.report.options.explains index tree.range)
      (trees.filter fun tree => tree.kind.isInvalid) diagnostics) :
    workspace.Gains journal entry index trees (workspace.insertAll journal diagnostics) := by
  have mine : (workspace.insertAll journal diagnostics).journals[journal]? =
      some { entry with report := entry.report.append diagnostics } := by
    simp [insertAll_eq, kept]
  refine ⟨⟨diagnostics, mine, rejects⟩, ?_, ?_, ?_⟩
  next =>
    intro last found
    obtain rfl := Option.some.inj (mine.symm.trans found)
    rw [Report.errorCount_append _ (Diagnostic.errors_of_rejects rejects), ← rejects.length_eq,
      List.countP_eq_length_filter]
  next =>
    intro other different
    simp [insertAll_eq, Ne.symm different]
  next => rw [insertAll_eq]

section

variable {workspace : Workspace} {file report journal : Nat} {ref : FileRef}
  {source : SourceFile} {entry : Journal} (named : workspace.files[file]? = some ref)
  (stored : workspace.deref? ref = some source)
  (handle : workspace.reports[report]? = some journal)
  (kept : workspace.journals[journal]? = some entry)

include named stored handle kept

theorem apply_literals {results : List (Literal × Option Diagnostic)}
    (found : source.literals entry.report.options.explains entry.report.options.showsLocations
      ref.index = .ok results) :
    workspace.apply (.literals file report) =
      some (workspace.insertAll journal (results.filterMap Prod.snd),
        .literals (results.map Prod.fst)) := by
  simp [apply, named, stored, handle, kept, found]

theorem apply_literalAt {offset : Nat} {result : Option (Literal × Option Diagnostic)}
    (found : source.literalAt entry.report.options.explains entry.report.options.showsLocations
      ref.index offset = .ok result) :
    workspace.apply (.literalAt file report offset) =
      some (workspace.insertAll journal (result.toList.filterMap Prod.snd),
        .literal (result.map Prod.fst)) := by
  rcases result with _ | ⟨literal, _ | diagnostic⟩ <;>
    simp [apply, named, stored, handle, kept, found, insertAll]

theorem literals_of_file (fits : source.length ≤ Range.largestBound) :
    (∃ trees next, findAll source.text = .ok trees ∧
      workspace.apply (.literals file report) =
        some (next, .literals (trees.map (Literal.mk source))) ∧
      workspace.Gains journal entry ref.index trees next) ∧
    ∀ offset, ∃ tree? next, recognize source.text offset = .ok tree? ∧
      workspace.apply (.literalAt file report offset) =
        some (next, .literal (tree?.map (Literal.mk source))) ∧
      workspace.Gains journal entry ref.index tree?.toList next := by
  constructor
  next =>
    obtain ⟨trees, results, plain, made, judged⟩ := literals_judged fits
      entry.report.options.explains entry.report.options.showsLocations ref.index
    refine ⟨trees, _, plain, ?_, gains_insertAll kept (diagnostics_of_judged judged)⟩
    rw [apply_literals named stored handle kept made, literals_of_judged judged]
  next =>
    intro offset
    obtain ⟨tree?, result, plain, made, judged⟩ := literalAt_judged fits
      entry.report.options.explains entry.report.options.showsLocations ref.index offset
    refine ⟨tree?, _, plain, ?_, gains_insertAll kept (diagnostics_of_judged judged)⟩
    have same : result.map Prod.fst = tree?.map (Literal.mk source) := by
      simpa using congrArg List.head? (literals_of_judged judged)
    rw [apply_literalAt named stored handle kept made, same]

end

def single (source : SourceFile) : Workspace :=
  ⟨[[source]], [⟨0, ⟨⟨true, true, true⟩, []⟩⟩], [0], [0], [⟨0, 0⟩], []⟩

theorem literals_of_file_octal :
    ∃ next, (single ⟨"octal", ['0', '8']⟩).apply (.literalAt 0 0 0) =
        some (next, .literal (some ⟨⟨"octal", ['0', '8']⟩, .invalid ⟨0, 2⟩⟩)) ∧
      ∀ last, next.journals[0]? = some last → last.report.errorCount = 1 := by
  have named : (single ⟨"octal", ['0', '8']⟩).files[0]? = some ⟨0, 0⟩ := rfl
  have stored : (single ⟨"octal", ['0', '8']⟩).deref? ⟨0, 0⟩ = some ⟨"octal", ['0', '8']⟩ := rfl
  have handle : (single ⟨"octal", ['0', '8']⟩).reports[0]? = some 0 := rfl
  obtain ⟨tree?, next, found, applied, gains⟩ :=
    (literals_of_file named stored handle rfl (by decide)).2 0
  have invalid : recognize ['0', '8'] 0 = .ok (some (.invalid ⟨0, 2⟩)) := rfl
  obtain rfl := Except.ok.inj (found.symm.trans invalid)
  exact ⟨next, applied, gains.errorCount_eq⟩

end Workspace

end Numeral
