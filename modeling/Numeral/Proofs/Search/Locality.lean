import Numeral.Proofs.Search.Forms

set_option autoImplicit false

namespace Numeral

open Grammar

def Obstacle.shift (gap : Nat) (obstacle : Obstacle) : Obstacle :=
  { obstacle with offset := gap + obstacle.offset }

theorem Miss.obstacle_shift (gap start : Nat) :
    Miss.obstacle (gap + start) = Obstacle.shift gap ∘ Miss.obstacle start := by
  funext miss
  simp [obstacle, Obstacle.shift, Nat.add_assoc]

theorem Search.classify_moved (cut other : Text.Excerpt) {gap : Nat}
    (fits : cut.stop ≤ Range.largestBound) (otherFits : other.stop ≤ Range.largestBound)
    (further : other.start = gap + cut.start)
    (moved : other.outcome = (cut.outcome.1.shift gap, cut.outcome.2)) :
    classify other.whole other.range =
      (classify cut.whole cut.range).map fun last =>
        (last.1.map (Entry.shift gap), last.2.map (Obstacle.shift gap)) := by
  rw [classify_eq cut fits, classify_eq other otherFits, moved, further, Except.map,
    Tree.entries_shift, Miss.obstacle_shift, Option.map_map]

/-- The text in front of a numeral moves its tree and its miss along, and does nothing else; the
text behind it counts by one bit, and only if the numeral ends in a unit. -/
theorem classify_local (pre text post other : Text)
    (fits : Text.byteLength (pre ++ text) ≤ Range.largestBound)
    (agree : text.getLast? = some 'i' →
      post.head?.any Unicode.isWord = other.head?.any Unicode.isWord) :
    ∃ tree miss? obstacle?,
      examine (text ++ other) 0 (Text.byteLength text) = .ok (tree, miss?) ∧
      Search.classify (text ++ other) ⟨0, Text.byteLength text⟩ = .ok (tree.entries, obstacle?) ∧
      examine (pre ++ text ++ post) (Text.byteLength pre) (Text.byteLength (pre ++ text)) =
        .ok (tree.shift (Text.byteLength pre), miss?) ∧
      Search.classify (pre ++ text ++ post)
          ⟨Text.byteLength pre, Text.byteLength (pre ++ text)⟩ =
        .ok ((tree.shift (Text.byteLength pre)).entries,
          obstacle?.map (Obstacle.shift (Text.byteLength pre))) := by
  have alone : Text.byteLength text ≤ Range.largestBound := by
    rw [Text.byteLength_append] at fits
    omega
  have further : Text.Excerpt.start ⟨pre, text, post⟩ =
      Text.byteLength pre + Text.Excerpt.start ⟨[], text, other⟩ := rfl
  have moved : Text.Excerpt.outcome ⟨pre, text, post⟩ =
      ((Text.Excerpt.outcome ⟨[], text, other⟩).1.shift (Text.byteLength pre),
        (Text.Excerpt.outcome ⟨[], text, other⟩).2) :=
    Text.Excerpt.outcome_moved further rfl agree
  have one := Search.classify_eq ⟨[], text, other⟩ alone
  have two := Search.classify_moved ⟨[], text, other⟩ ⟨pre, text, post⟩ alone fits further moved
  rw [one] at two
  have plain := examine_whole ⟨pre, text, post⟩ fits
  rw [moved] at plain
  refine ⟨(Text.Excerpt.outcome ⟨[], text, other⟩).1, (Text.Excerpt.outcome ⟨[], text, other⟩).2, _,
    examine_whole ⟨[], text, other⟩ alone, one, plain, ?_⟩
  rw [Tree.entries_shift]
  exact two

theorem classify_local_unit :
    Text.byteLength ['é', '1', 'i'] ≤ Range.largestBound ∧
      Option.any Unicode.isWord ['ñ'].head? = Option.any Unicode.isWord ['_'].head? ∧
      ∃ obstacle?, Search.classify ['é', '1', 'i', 'ñ'] ⟨2, 4⟩ =
        .ok ([⟨.literal .invalid, ⟨2, 4⟩, 0⟩], obstacle?) := by
  have agree : Option.any Unicode.isWord ['ñ'].head? = Option.any Unicode.isWord ['_'].head? := by
    decide
  obtain ⟨tree, miss?, obstacle?, plain, -, -, searched⟩ :=
    classify_local ['é'] ['1', 'i'] ['ñ'] ['_'] (by decide) fun _ => agree
  have invalid : (examine ['1', 'i', '_'] 0 2).map Prod.fst = .ok (.invalid ⟨0, 2⟩) := rfl
  have same : tree = .invalid ⟨0, 2⟩ :=
    Except.ok.inj ((congrArg (Except.map Prod.fst) plain).symm.trans invalid)
  subst same
  exact ⟨by decide, agree, _, searched⟩

end Numeral
