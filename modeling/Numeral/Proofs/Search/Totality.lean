import Numeral.Proofs.Report.Literals
import Numeral.Proofs.Search.Survey

set_option autoImplicit false

namespace Numeral

open Grammar

def Text.IsBoundary (text : Text) (offset : Nat) : Prop :=
  ∃ front back, text = front ++ back ∧ byteLength front = offset

/-- The first check that a range of a text fails. -/
inductive Range.Flaw (text : Text) (start stop : Nat) : Fault → Prop where
  | start (large : largestBound < start) : Flaw text start stop (.boundTooLarge start)
  | stop (first : start ≤ largestBound) (large : largestBound < stop) :
      Flaw text start stop (.boundTooLarge stop)
  | order (first : start ≤ largestBound) (last : stop ≤ largestBound) (backward : stop < start) :
      Flaw text start stop (.outOfOrder start stop)
  | bounds (last : stop ≤ largestBound) (forward : start ≤ stop)
      (outside : Text.byteLength text < stop) :
      Flaw text start stop (.outOfBounds stop (Text.byteLength text))
  | boundary (last : stop ≤ largestBound) (forward : start ≤ stop)
      (inside : stop ≤ Text.byteLength text)
      (apart : ¬(text.IsBoundary start ∧ text.IsBoundary stop)) :
      Flaw text start stop (.offBoundary start stop)

namespace Text

theorem isBoundary_iff {text : Text} {offset : Nat} :
    text.IsBoundary offset ↔ (splitAt? text offset).isSome = true := by
  simp only [IsBoundary, Option.isSome_iff_exists, Prod.exists, splitAt?_eq_some_iff]

theorem exists_excerpt {text : Text} {start stop : Nat} (forward : start ≤ stop)
    (first : text.IsBoundary start) (last : text.IsBoundary stop) :
    ∃ cut : Excerpt, cut.whole = text ∧ cut.start = start ∧ cut.stop = stop := by
  obtain ⟨front, back, rfl, rfl⟩ := first
  obtain ⟨longer, after, same, rfl⟩ := last
  obtain ⟨inside, rfl, rfl⟩ := append_of_byteLength_le same forward
  exact ⟨⟨front, inside, after⟩, List.append_assoc .., rfl, rfl⟩

theorem Excerpt.isBoundary_start (cut : Excerpt) : cut.whole.IsBoundary cut.start :=
  ⟨cut.before, cut.inside ++ cut.after, List.append_assoc .., rfl⟩

theorem Excerpt.isBoundary_stop (cut : Excerpt) : cut.whole.IsBoundary cut.stop :=
  ⟨cut.before ++ cut.inside, cut.after, rfl, rfl⟩

end Text

theorem flaw_or_cut (text : Text) (start stop : Nat) :
    (∃ fault, Range.Flaw text start stop fault) ∨
      ∃ cut : Text.Excerpt, cut.whole = text ∧ cut.start = start ∧ cut.stop = stop ∧
        cut.stop ≤ Range.largestBound := by
  by_cases first : start ≤ Range.largestBound
  next =>
    by_cases last : stop ≤ Range.largestBound
    next =>
      by_cases forward : start ≤ stop
      next =>
        by_cases inside : stop ≤ Text.byteLength text
        next =>
          by_cases apart : text.IsBoundary start ∧ text.IsBoundary stop
          next =>
            obtain ⟨cut, whole, starts, stops⟩ := Text.exists_excerpt forward apart.1 apart.2
            exact .inr ⟨cut, whole, starts, stops, stops ▸ last⟩
          next => exact .inl ⟨_, .boundary last forward inside apart⟩
        next => exact .inl ⟨_, .bounds last forward (Nat.not_le.1 inside)⟩
      next => exact .inl ⟨_, .order first last (Nat.not_le.1 forward)⟩
    next => exact .inl ⟨_, .stop first (Nat.not_le.1 last)⟩
  next => exact .inl ⟨_, .start (Nat.not_le.1 first)⟩

/-- The operation fails exactly where the range has a flaw, and tells that flaw. -/
def Range.Decides {α : Type} (text : Text) (start stop : Nat) (outcome : Except Fault α) : Prop :=
  ∀ fault, outcome = .error fault ↔ Flaw text start stop fault

namespace Range

variable {α : Type} {text : Text} {start stop : Nat} {fault : Fault} {outcome : Except Fault α}

theorem decides_of (bad : ∀ fault, Flaw text start stop fault → outcome = .error fault)
    (good : ∀ cut : Text.Excerpt, cut.whole = text → cut.start = start → cut.stop = stop →
      cut.stop ≤ largestBound → ∃ value, outcome = .ok value) :
    Decides text start stop outcome := by
  refine fun fault => ⟨fun failed => ?_, bad fault⟩
  rcases flaw_or_cut text start stop with ⟨other, flaw⟩ | ⟨cut, whole, first, last, fits⟩
  next =>
    obtain rfl := Except.error.inj (failed.symm.trans (bad other flaw))
    exact flaw
  next =>
    obtain ⟨value, succeeded⟩ := good cut whole first last fits
    cases failed.symm.trans succeeded

theorem Flaw.resolve (flaw : Flaw text start stop fault) :
    resolve (between start stop) (Text.byteLength text) = .error fault ∨
      resolve (between start stop) (Text.byteLength text) = .ok ⟨start, stop⟩ ∧
        check ⟨start, stop⟩ (Text.byteLength text) = .ok ⟨start, stop⟩ ∧
        fault = .offBoundary start stop ∧
        ¬(text.IsBoundary start ∧ text.IsBoundary stop) := by
  have small {n : Nat} (fits : n ≤ largestBound) : boundOf (n : Int) = .ok n := by
    simp [boundOf, fits]
  have big {n : Nat} (large : largestBound < n) :
      boundOf (n : Int) = .error (.boundTooLarge n) := by
    simp [boundOf, large]
  cases flaw with
  | start large =>
    left
    simp [Range.resolve, ofInts, between, Bound.asStart, big large, bind, Except.bind]
  | stop first large =>
    left
    simp [Range.resolve, ofInts, between, Bound.asStart, Bound.asStop, small first, big large,
      bind, Except.bind]
  | order first last backward =>
    left
    simp [Range.resolve, ofInts, between, Bound.asStart, Bound.asStop, small first, small last,
      bind, Except.bind, pure, Except.pure, check, backward]
  | bounds last forward outside =>
    left
    simp [Range.resolve, ofInts, between, Bound.asStart, Bound.asStop,
      small (Nat.le_trans forward last), small last, bind, Except.bind, pure, Except.pure, check,
      Nat.not_lt.2 forward, outside]
  | boundary last forward inside apart =>
    have passes : check ⟨start, stop⟩ (Text.byteLength text) = .ok ⟨start, stop⟩ := by
      simp [check, Nat.not_lt.2 forward, Nat.not_lt.2 inside]
    exact .inr ⟨resolve_between forward inside last, passes, rfl, apart⟩

theorem exists_flaw_iff :
    (∃ fault, Flaw text start stop fault) ↔
      largestBound < start ∨ largestBound < stop ∨ stop < start ∨ Text.byteLength text < stop ∨
        ¬text.IsBoundary start ∨ ¬text.IsBoundary stop := by
  constructor
  next =>
    rintro ⟨fault, flaw⟩
    cases flaw with
    | start large => exact .inl large
    | stop _ large => exact .inr (.inl large)
    | order _ _ backward => exact .inr (.inr (.inl backward))
    | bounds _ _ outside => exact .inr (.inr (.inr (.inl outside)))
    | boundary _ _ _ apart => exact .inr (.inr (.inr (.inr (not_and_or.1 apart))))
  next =>
    intro bad
    rcases flaw_or_cut text start stop with flaw | ⟨cut, rfl, rfl, rfl, fits⟩
    next => exact flaw
    next =>
      have forward := cut.start_le_stop
      have inside := cut.stop_le_length
      rcases bad with large | large | backward | outside | apart | apart
      next => omega
      next => omega
      next => omega
      next => omega
      next => exact absurd cut.isBoundary_start apart
      next => exact absurd cut.isBoundary_stop apart

end Range

section

variable {text : Text} {start stop : Nat} {fault : Fault}

theorem excerptAt_flaw (flaw : Range.Flaw text start stop fault) :
    excerptAt text start stop = .error fault := by
  unfold excerptAt
  rcases flaw.resolve with failed | ⟨resolved, -, rfl, apart⟩
  next =>
    rw [failed]
    rfl
  next =>
    rw [resolved]
    simp only [bind, Except.bind]
    cases taken : Text.excerpt? text start stop with
    | none => rfl
    | some cut =>
      obtain ⟨rfl, rfl, rfl⟩ := Text.excerpt?_eq_some_iff.1 taken
      exact absurd ⟨cut.isBoundary_start, cut.isBoundary_stop⟩ apart

namespace Search

theorem new_flaw (flaw : Range.Flaw text start stop fault) :
    (Range.resolve (Range.between start stop) (Text.byteLength text) >>= new text) =
      .error fault := by
  rcases flaw.resolve with failed | ⟨resolved, passes, rfl, apart⟩
  next =>
    rw [failed]
    rfl
  next =>
    rw [Text.isBoundary_iff, Text.isBoundary_iff] at apart
    rw [resolved]
    simp only [bind, Except.bind, new, passes]
    rw [if_neg apart]
    rfl

theorem classifyBetween_flaw (flaw : Range.Flaw text start stop fault) :
    classifyBetween text start stop = .error fault := by
  unfold classifyBetween classify
  rw [← bind_assoc, new_flaw flaw]
  rfl

theorem classifyAsBetween_flaw (flaw : Range.Flaw text start stop fault) (form : Form) :
    classifyAsBetween text start stop form = .error fault := by
  unfold classifyAsBetween classifyAs
  rw [← bind_assoc, new_flaw flaw]
  rfl

variable (cut : Text.Excerpt)

section

variable (fits : cut.stop ≤ Range.largestBound)

include fits

theorem classifyBetween_whole :
    classifyBetween cut.whole cut.start cut.stop =
      .ok (cut.outcome.1.entries, cut.outcome.2.map (Miss.obstacle cut.start)) := by
  rw [classifyBetween, Range.resolve_between cut.start_le_stop cut.stop_le_length fits]
  exact classify_eq cut fits

theorem classifyAsBetween_whole (form : Form) :
    classifyAsBetween cut.whole cut.start cut.stop form =
      .ok ((parseExcerpt (productionsOf form) cut).result.map fun reading =>
        (Tree.ofReading cut.range reading).entries) := by
  rw [classifyAsBetween, Range.resolve_between cut.start_le_stop cut.stop_le_length fits]
  exact classifyAs_eq cut fits form

end

end Search

end

section

variable {cut : Text.Excerpt} {miss : Miss} (within : miss.read <+: cut.inside)

include within

theorem Miss.found?_obstacle :
    (miss.obstacle cut.start).found? cut.whole cut.stop = .ok (miss.found? cut) := by
  obtain ⟨ahead, same⟩ := within
  have left : cut.inside.drop miss.read.length = ahead := by rw [← same, List.drop_left]
  have toStop := Range.text_whole ⟨cut.before ++ miss.read, ahead, cut.after⟩
  have toEnd := Range.text_whole ⟨cut.before ++ miss.read, ahead ++ cut.after, []⟩
  have whole : cut.whole = cut.before ++ miss.read ++ ahead ++ cut.after := by
    simp [Text.Excerpt.whole, ← same]
  have stop : cut.stop = Text.byteLength (cut.before ++ miss.read ++ ahead) := by
    simp [Text.Excerpt.stop, ← same]
  have start : cut.start + Text.byteLength miss.read = Text.byteLength (cut.before ++ miss.read) :=
    (Text.byteLength_append _ _).symm
  simp only [Text.Excerpt.range, Text.Excerpt.whole, Text.Excerpt.start, Text.Excerpt.stop,
    ← List.append_assoc, List.append_nil] at toStop toEnd
  unfold Obstacle.found? found? obstacle Bounds.text
  rw [whole, stop, start, left]
  cases miss.want with
  | finish => exact congrArg (Except.map List.head?) toEnd
  | _ => exact congrArg (Except.map List.head?) toStop

end

theorem Text.Excerpt.outcome_within {cut : Text.Excerpt} {miss : Miss}
    (furthest : cut.outcome.2 = some miss) : miss.read <+: cut.inside := by
  unfold outcome Grammar.outcome at furthest
  split at furthest
  next => simp at furthest
  next => exact parse_within productions _ _ miss (Miss.furthest_mem furthest)

namespace Search

theorem explained_whole (cut : Text.Excerpt)
    (fits : Text.byteLength cut.whole ≤ Range.largestBound) :
    explained cut.whole cut.start cut.stop =
      .ok (cut.outcome.1.entries,
        cut.outcome.2.map fun miss => (miss.explain cut cut.start).range) := by
  have bound : cut.stop ≤ Range.largestBound := Nat.le_trans cut.stop_le_length fits
  have span := Range.resolve_between cut.start_le_stop cut.stop_le_length bound
  have classified := classifyBetween_whole cut bound
  rw [classifyBetween, span] at classified
  have ints : Range.ofInts cut.start cut.stop = .ok cut.range := by
    have small {n : Nat} (least : n ≤ Range.largestBound) : Range.boundOf (n : Int) = .ok n := by
      simp [Range.boundOf, least]
    rw [Range.ofInts, small (Nat.le_trans cut.start_le_stop bound), small bound]
    rfl
  have searched : classify cut.whole cut.range = _ := classified
  unfold explained
  rw [ints, span]
  simp only [bind, Except.bind, searched]
  cases furthest : cut.outcome.2 with
  | none => rfl
  | some miss =>
    have within := Text.Excerpt.outcome_within furthest
    obtain ⟨order, inside⟩ := Miss.explain_range within
    rw [Miss.range_explain] at order inside
    have room : Range.largestBound ≤ Bound.largestOffset := by decide
    have last := plus_eq_ok (Nat.le_trans (Nat.le_trans inside fits) room)
    have place := Range.resolve_between order inside (Nat.le_trans inside fits)
    simp only [Option.map_some, Miss.found?_obstacle within, Miss.range_explain]
    rw [show (miss.obstacle cut.start).offset = cut.start + Text.byteLength miss.read from rfl,
      last]
    simp only [place]
    rfl

section

variable {text : Text} (fits : Text.byteLength text ≤ Range.largestBound)

include fits

theorem recognize_eq (offset : Nat) :
    recognize text offset = (Numeral.recognize text offset).map (Option.map Tree.entries) := by
  unfold recognize Numeral.recognize
  rw [scan_eq text offset fits]
  simp only [bind, Except.bind]
  cases scanned : Candidate.scan text offset with
  | none => rfl
  | some stop =>
    obtain ⟨cut, ends, rfl, -⟩ := Candidate.cut_of_scan scanned
    obtain ⟨rfl, rfl⟩ := Prod.mk.inj ends
    have bound := Nat.le_trans cut.stop_le_length fits
    simp only [classifyBetween_whole cut bound, classify_whole cut bound]
    rfl

theorem findAll_eq {cuts : List Text.Excerpt} (known : Candidate.Cuts text cuts) :
    findAll text = .ok (cuts.map fun cut => cut.outcome.1.entries) := by
  unfold findAll
  rw [spans_eq text fits]
  simp only [bind, Except.bind]
  rw [← known.ends_eq]
  refine mapM_map_ok fun cut member => ?_
  rw [← known.whole_eq cut member]
  simp only [Text.Excerpt.ends, classifyBetween_whole cut (known.stop_le fits cut member)]
  rfl

theorem explainedAll_eq {cuts : List Text.Excerpt} (known : Candidate.Cuts text cuts) :
    explainedAll text =
      .ok (cuts.map fun cut => (cut.outcome.1.entries,
        cut.outcome.2.map fun miss => (miss.explain cut cut.start).range)) := by
  unfold explainedAll
  rw [spans_eq text fits]
  simp only [bind, Except.bind]
  rw [← known.ends_eq]
  refine mapM_map_ok fun cut member => ?_
  have whole := known.whole_eq cut member
  rw [← whole]
  exact explained_whole cut (whole ▸ fits)

end

end Search

section

variable {text : Text} (fits : Text.byteLength text ≤ Range.largestBound)

include fits

theorem recognize_isOk (offset : Nat) : (recognize text offset).isOk := by
  unfold recognize
  cases scanned : Candidate.scan text offset with
  | none => rfl
  | some stop =>
    obtain ⟨cut, ends, rfl, -⟩ := Candidate.cut_of_scan scanned
    obtain ⟨rfl, rfl⟩ := Prod.mk.inj ends
    simp only [classify_whole cut (Nat.le_trans cut.stop_le_length fits)]
    rfl

theorem findAll_isOk : (findAll text).isOk := by
  obtain ⟨cuts, known⟩ := Candidate.exists_cuts text
  rw [findAll_cuts known fits]
  rfl

theorem literals_isOk (path : String) (explains located : Bool) (index : Nat) :
    (SourceFile.literals explains located index ⟨path, text⟩).isOk := by
  obtain ⟨trees, results, -, made, -⟩ :=
    @literals_judged ⟨path, text⟩ fits explains located index
  rw [made]
  rfl

namespace Search

theorem scan_isOk (offset : Nat) : (scan text offset).isOk := by
  rw [scan_eq text offset fits]
  rfl

theorem recognize_isOk (offset : Nat) : (recognize text offset).isOk := by
  have recognized := Numeral.recognize_isOk fits offset
  rw [recognize_eq fits]
  cases found : Numeral.recognize text offset with
  | ok tree? => rfl
  | error fault =>
    rw [found] at recognized
    cases recognized

theorem findAll_isOk : (findAll text).isOk := by
  obtain ⟨cuts, known⟩ := Candidate.exists_cuts text
  rw [findAll_eq fits known]
  rfl

theorem explainedAll_isOk : (explainedAll text).isOk := by
  obtain ⟨cuts, known⟩ := Candidate.exists_cuts text
  rw [explainedAll_eq fits known]
  rfl

end Search

end

section

variable (text : Text) (start stop : Nat)

theorem classify_decides : Range.Decides text start stop (classify text start stop) := by
  refine Range.decides_of (fun fault flaw => ?_) ?_
  next =>
    rw [classify, examine, examineBy, excerptAt_flaw flaw]
    rfl
  next =>
    rintro cut rfl rfl rfl bound
    exact ⟨_, classify_whole cut bound⟩

theorem classifyAs_decides (form : Form) :
    Range.Decides text start stop (classifyAs text start stop form) := by
  refine Range.decides_of (fun fault flaw => ?_) ?_
  next =>
    rw [classifyAs, excerptAt_flaw flaw]
    rfl
  next =>
    rintro cut rfl rfl rfl bound
    exact ⟨_, classifyAs_whole cut bound form⟩

namespace Search

theorem classifyBetween_decides :
    Range.Decides text start stop (classifyBetween text start stop) := by
  refine Range.decides_of (fun fault => classifyBetween_flaw) ?_
  rintro cut rfl rfl rfl bound
  exact ⟨_, classifyBetween_whole cut bound⟩

theorem classifyAsBetween_decides (form : Form) :
    Range.Decides text start stop (classifyAsBetween text start stop form) := by
  refine Range.decides_of (fun fault flaw => classifyAsBetween_flaw flaw form) ?_
  rintro cut rfl rfl rfl bound
  exact ⟨_, classifyAsBetween_whole cut bound form⟩

end Search

theorem classify_fault_iff_flaw :
    Range.Decides text start stop (classify text start stop) ∧
      Range.Decides text start stop (Search.classifyBetween text start stop) ∧
      (∀ form, Range.Decides text start stop (classifyAs text start stop form) ∧
        Range.Decides text start stop (Search.classifyAsBetween text start stop form)) ∧
      ((∃ fault, Range.Flaw text start stop fault) ↔
        Range.largestBound < start ∨ Range.largestBound < stop ∨ stop < start ∨
          Text.byteLength text < stop ∨ ¬text.IsBoundary start ∨ ¬text.IsBoundary stop) ∧
      (Text.byteLength text ≤ Range.largestBound →
        (∀ offset, (recognize text offset).isOk ∧ (Search.scan text offset).isOk ∧
          (Search.recognize text offset).isOk) ∧
        (findAll text).isOk ∧ (Search.findAll text).isOk ∧ (Search.explainedAll text).isOk ∧
        ∀ path explains located index,
          (SourceFile.literals explains located index ⟨path, text⟩).isOk) := by
  refine ⟨classify_decides text start stop, Search.classifyBetween_decides text start stop,
    fun form => ⟨classifyAs_decides text start stop form,
      Search.classifyAsBetween_decides text start stop form⟩,
    Range.exists_flaw_iff, fun fits => ⟨fun offset => ?_, ?_⟩⟩
  next =>
    exact ⟨recognize_isOk fits offset, Search.scan_isOk fits offset,
      Search.recognize_isOk fits offset⟩
  next =>
    exact ⟨findAll_isOk fits, Search.findAll_isOk fits, Search.explainedAll_isOk fits,
      literals_isOk fits⟩

end

theorem classify_fault_iff_flaw_inside_character :
    Text.byteLength ['é', '1'] ≤ Range.largestBound ∧
      Search.classifyBetween ['é', '1'] 1 3 = .error (.offBoundary 1 3) ∧
      (Search.findAll ['é', '1']).isOk := by
  have short : Text.byteLength ['é', '1'] ≤ Range.largestBound := by decide
  have apart : ¬(Text.IsBoundary ['é', '1'] 1 ∧ Text.IsBoundary ['é', '1'] 3) := by
    rw [Text.isBoundary_iff]
    exact fun both => absurd both.1 (by decide)
  obtain ⟨-, refused, -, -, accepted⟩ := classify_fault_iff_flaw ['é', '1'] 1 3
  exact ⟨short, (refused _).2 (.boundary (by decide) (by decide) (by decide) apart),
    (accepted short).2.2.1⟩

end Numeral
