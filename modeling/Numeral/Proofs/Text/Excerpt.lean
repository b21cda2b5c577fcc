import Numeral.Classify

set_option autoImplicit false

namespace Numeral

namespace Text

namespace Excerpt

def whole (cut : Excerpt) : Text :=
  cut.before ++ cut.inside ++ cut.after

def start (cut : Excerpt) : Nat :=
  byteLength cut.before

def stop (cut : Excerpt) : Nat :=
  byteLength (cut.before ++ cut.inside)

theorem start_le_stop (cut : Excerpt) : cut.start ≤ cut.stop := by
  simp [start, stop]

theorem stop_le_length (cut : Excerpt) : cut.stop ≤ byteLength cut.whole := by
  simp [stop, whole]

end Excerpt

theorem excerpt?_eq_some_iff {text : Text} {start stop : Nat} {cut : Excerpt} :
    excerpt? text start stop = some cut ↔
      text = cut.whole ∧ start = cut.start ∧ stop = cut.stop := by
  constructor
  next =>
    intro taken
    by_cases order : start ≤ stop
    next =>
      rw [excerpt?, if_pos order] at taken
      obtain ⟨⟨before, behind⟩, first, taken⟩ := Option.bind_eq_some_iff.1 taken
      obtain ⟨⟨inside, after⟩, second, rfl⟩ := Option.map_eq_some_iff.1 taken
      obtain ⟨rfl, rfl⟩ := eq_of_splitAt? first
      obtain ⟨rfl, width⟩ := eq_of_splitAt? second
      refine ⟨(List.append_assoc ..).symm, rfl, ?_⟩
      change stop = byteLength (before ++ inside)
      rw [byteLength_append]
      omega
    next => simp [excerpt?, order] at taken
  next =>
    rintro ⟨rfl, rfl, rfl⟩
    have width : cut.stop - cut.start = byteLength cut.inside := by
      simp [Excerpt.stop, Excerpt.start]
    simp only [excerpt?, cut.start_le_stop, if_true, width]
    simp [Excerpt.whole, Excerpt.start, splitAt?_byteLength]

theorem excerpt?_whole (cut : Excerpt) : excerpt? cut.whole cut.start cut.stop = some cut :=
  excerpt?_eq_some_iff.2 ⟨rfl, rfl, rfl⟩

theorem byteLength_pos {text : Text} (nonempty : text ≠ []) : 0 < byteLength text := by
  cases text with
  | nil => exact absurd rfl nonempty
  | cons c cs =>
    have positive := c.utf8Size_pos
    rw [byteLength]
    omega

theorem append_of_byteLength_le {a b c d : Text} (same : a ++ b = c ++ d)
    (order : byteLength a ≤ byteLength c) : ∃ between, c = a ++ between ∧ b = between ++ d := by
  rcases List.append_eq_append_iff.1 same with split | ⟨between, rfl, rfl⟩
  next => exact split
  next =>
    cases between with
    | nil => exact ⟨[], by simp, by simp⟩
    | cons e between =>
      have positive : 0 < byteLength (e :: between) := byteLength_pos (by simp)
      rw [byteLength_append] at order
      omega

theorem cut_inside {a b front middle back : Text} (same : a ++ b = front ++ middle ++ back)
    (after : byteLength front ≤ byteLength a)
    (ahead : byteLength a ≤ byteLength (front ++ middle)) :
    ∃ left right, middle = left ++ right ∧ a = front ++ left ∧ b = right ++ back := by
  obtain ⟨right, whole, rfl⟩ := append_of_byteLength_le same ahead
  obtain ⟨left, rfl, rfl⟩ := append_of_byteLength_le whole after
  exact ⟨left, right, rfl, rfl, rfl⟩

def HasAt (text : Text) (c : Char) (offset : Nat) : Prop :=
  ∃ front back, text = front ++ c :: back ∧ byteLength front = offset

theorem HasAt.lt {text : Text} {c : Char} {offset : Nat} (found : text.HasAt c offset) :
    offset < byteLength text := by
  obtain ⟨front, back, rfl, rfl⟩ := found
  have behind : 0 < byteLength (c :: back) := byteLength_pos (by simp)
  rw [byteLength_append]
  omega

theorem hasAt_cons {c d : Char} {cs : Text} {offset : Nat} :
    HasAt (c :: cs) d offset ↔
      (c = d ∧ offset = 0) ∨ ∃ n, HasAt cs d n ∧ offset = c.utf8Size + n := by
  constructor
  next =>
    rintro ⟨front, back, same, rfl⟩
    cases front with
    | nil => exact .inl ⟨(List.cons.inj same).1, rfl⟩
    | cons e front =>
      obtain ⟨rfl, rfl⟩ := List.cons.inj same
      exact .inr ⟨_, ⟨front, back, rfl, rfl⟩, rfl⟩
  next =>
    rintro (⟨rfl, rfl⟩ | ⟨n, ⟨front, back, rfl, rfl⟩, rfl⟩)
    next => exact ⟨[], cs, rfl, rfl⟩
    next => exact ⟨c :: front, back, rfl, rfl⟩

theorem hasAt_append {front back : Text} {c : Char} {offset : Nat} :
    HasAt (front ++ back) c offset ↔
      HasAt front c offset ∨ ∃ n, HasAt back c n ∧ offset = byteLength front + n := by
  constructor
  next =>
    rintro ⟨before, behind, same, rfl⟩
    rcases List.append_eq_append_iff.1 same with ⟨between, rfl, tail⟩ | ⟨between, rfl, tail⟩
    next => exact .inr ⟨_, ⟨between, behind, tail, rfl⟩, by simp⟩
    next =>
      cases between with
      | nil => exact .inr ⟨0, ⟨[], behind, tail.symm, rfl⟩, by simp⟩
      | cons d between =>
        obtain ⟨rfl, -⟩ := List.cons.inj tail
        exact .inl ⟨before, between, rfl, rfl⟩
  next =>
    rintro (⟨before, behind, rfl, rfl⟩ | ⟨n, ⟨before, behind, rfl, rfl⟩, rfl⟩)
    next => exact ⟨before, behind ++ back, by simp, rfl⟩
    next => exact ⟨front ++ before, behind, by simp, by simp⟩

namespace Excerpt

theorem hasAt_inside (cut : Excerpt) (c : Char) (offset : Nat) :
    cut.whole.HasAt c offset ∧ cut.start ≤ offset ∧ offset < cut.stop ↔
      ∃ n, cut.inside.HasAt c n ∧ offset = cut.start + n := by
  simp only [whole, hasAt_append, start, stop]
  constructor
  next =>
    rintro ⟨(early | ⟨n, found, rfl⟩) | ⟨n, -, rfl⟩, after, before⟩
    next => exact absurd early.lt (by omega)
    next => exact ⟨n, found, rfl⟩
    next => omega
  next =>
    rintro ⟨n, found, rfl⟩
    have inner := found.lt
    rw [byteLength_append]
    exact ⟨.inl (.inr ⟨n, found, rfl⟩), by omega, by omega⟩

end Excerpt

end Text

namespace Range

theorem boundOf_eq_ok_iff {n m : Nat} :
    boundOf (n : Int) = .ok m ↔ m = n ∧ n ≤ largestBound := by
  by_cases small : n ≤ largestBound <;> simp [boundOf, small, eq_comm]

theorem check_eq_ok_iff {range other : Range} {limit : Nat} :
    range.check limit = .ok other ↔
      other = range ∧ range.start ≤ range.stop ∧ range.stop ≤ limit := by
  unfold check
  split
  next backward => simp [Nat.not_le.2 backward]
  next forward =>
    split
    next outside => simp [Nat.not_le.2 outside]
    next inside => simp [Nat.not_lt.1 forward, Nat.not_lt.1 inside, eq_comm]

theorem resolve_eq_ok_iff {bounds : Bounds} {limit : Nat} {range : Range} :
    resolve bounds limit = .ok range ↔
      range = ⟨bounds.start.asStart, bounds.stop.asStop limit⟩ ∧ range.start ≤ range.stop ∧
        range.stop ≤ limit ∧ range.stop ≤ largestBound := by
  constructor
  next =>
    intro resolved
    unfold resolve ofInts at resolved
    cases first : boundOf bounds.start.asStart with
    | error fault =>
      rw [first] at resolved
      cases resolved
    | ok start =>
      cases last : boundOf (bounds.stop.asStop limit) with
      | error fault =>
        rw [first, last] at resolved
        cases resolved
      | ok stop =>
        rw [first, last] at resolved
        obtain ⟨rfl, -⟩ := boundOf_eq_ok_iff.1 first
        obtain ⟨rfl, fits⟩ := boundOf_eq_ok_iff.1 last
        obtain ⟨rfl, order, inside⟩ := check_eq_ok_iff.1 resolved
        exact ⟨rfl, order, inside, fits⟩
  next =>
    rintro ⟨rfl, order, inside, fits⟩
    have first := boundOf_eq_ok_iff.2 ⟨rfl, Nat.le_trans order fits⟩
    have last := boundOf_eq_ok_iff.2 ⟨rfl, fits⟩
    unfold resolve ofInts
    rw [first, last]
    exact check_eq_ok_iff.2 ⟨rfl, order, inside⟩

theorem resolve_between {start stop limit : Nat} (order : start ≤ stop)
    (inside : stop ≤ limit) (fits : stop ≤ largestBound) :
    resolve (between start stop) limit = .ok ⟨start, stop⟩ :=
  resolve_eq_ok_iff.2 ⟨rfl, order, inside, fits⟩

end Range

def Text.Excerpt.range (cut : Text.Excerpt) : Range :=
  ⟨cut.start, cut.stop⟩

theorem Range.text_whole (cut : Text.Excerpt) : cut.range.text cut.whole = .ok cut.inside := by
  simp [Range.text, Text.slice?, Text.Excerpt.range, Text.excerpt?_whole]

section

variable (cut : Text.Excerpt) (fits : cut.stop ≤ Range.largestBound)

include fits

theorem excerptAt_whole : excerptAt cut.whole cut.start cut.stop = .ok (cut.range, cut) := by
  simp only [excerptAt, Range.resolve_between cut.start_le_stop cut.stop_le_length fits]
  simp [bind, Except.bind, pure, Except.pure, Text.excerpt?_whole, Text.Excerpt.range]

theorem examineBy_whole (table : List Grammar.Production) :
    (examineBy table cut.whole cut.start cut.stop).map Prod.fst =
      .ok (((parseExcerpt table cut).result.map (Tree.ofReading cut.range)).getD
        (.invalid cut.range)) := by
  simp only [examineBy, excerptAt_whole cut fits, bind, Except.bind]
  cases (parseExcerpt table cut).result <;> rfl

theorem classifyAs_whole (form : Form) :
    classifyAs cut.whole cut.start cut.stop form =
      .ok ((parseExcerpt (Grammar.productionsOf form) cut).result.map
        (Tree.ofReading cut.range)) := by
  simp [classifyAs, excerptAt_whole cut fits, bind, Except.bind, pure, Except.pure]

end

end Numeral
