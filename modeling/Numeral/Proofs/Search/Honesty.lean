import Numeral.Proofs.Grammar.Honest
import Numeral.Proofs.Search.Obstacles

set_option autoImplicit false

namespace Numeral

open Grammar

theorem Text.Excerpt.slice?_front {cut : Text.Excerpt} {front : Text}
    (ahead : front <+: cut.inside) :
    Text.slice? cut.whole cut.start (cut.start + byteLength front) = some front := by
  obtain ⟨rest, same⟩ := ahead
  let shorter : Text.Excerpt := ⟨cut.before, front, rest ++ cut.after⟩
  have whole : shorter.whole = cut.whole := by simp [shorter, Excerpt.whole, ← same]
  have stop : shorter.stop = cut.start + byteLength front := byteLength_append _ _
  have taken := excerpt?_whole shorter
  rw [whole, stop] at taken
  exact congrArg (Option.map Excerpt.inside) taken

theorem classify_obstacle_honest {text : Text} {start stop : Nat} (forward : start ≤ stop)
    (first : text.IsBoundary start) (last : text.IsBoundary stop)
    (fits : stop ≤ Range.largestBound) :
    ∃ (tree : Tree) (miss? : Option Miss) (obstacle? : Option Obstacle),
      examine text start stop = .ok (tree, miss?) ∧
      Search.classifyBetween text start stop = .ok (tree.entries, obstacle?) ∧
      (tree.kind.isInvalid = true → ∃ obstacle read,
        obstacle? = some obstacle ∧ start ≤ obstacle.offset ∧ obstacle.offset ≤ stop ∧
          Text.slice? text start obstacle.offset = some read ∧
          miss? = some ⟨obstacle.form, read, obstacle.want⟩ ∧
          obstacle.want.MetBy (Begins obstacle.form) (IsNumeral obstacle.form) read) := by
  obtain ⟨cut, rfl, rfl, rfl⟩ := Text.exists_excerpt forward first last
  refine ⟨_, _, _, examine_whole cut fits, Search.classifyBetween_whole cut fits, fun invalid => ?_⟩
  obtain ⟨miss, found, within⟩ := Text.Excerpt.outcome_invalid invalid
  obtain ⟨failed, furthest⟩ := Text.Excerpt.parse_of_outcome found
  have inside : cut.start + Text.byteLength miss.read ≤ cut.stop := by
    rw [Text.Excerpt.stop, Text.byteLength_append]
    exact Nat.add_le_add_left (Text.byteLength_le_of_prefix within) _
  exact ⟨miss.obstacle cut.start, miss.read, by rw [found]; rfl, Nat.le_add_right _ _, inside,
    Text.Excerpt.slice?_front within, found, furthest_met failed furthest⟩

/-- The digit of a prefix and the end behind a zero are not wanted: a point is. -/
theorem classify_obstacle_honest_zero :
    Search.classifyBetween ['0', 'g'] 0 2 =
        .ok ((Tree.invalid ⟨0, 2⟩).entries, some ⟨1, .point, .decimalFloat⟩) ∧
      Begins .decimalFloat ['0', '.'] := by
  have searched : Search.classifyBetween ['0', 'g'] 0 2 =
      .ok ((Tree.invalid ⟨0, 2⟩).entries, some ⟨1, .point, .decimalFloat⟩) := by decide +kernel
  have examined : examine ['0', 'g'] 0 2 =
      .ok (Tree.invalid ⟨0, 2⟩, some ⟨.decimalFloat, ['0'], .point⟩) := by decide +kernel
  have first : Text.IsBoundary ['0', 'g'] 0 := Text.isBoundary_iff.2 rfl
  have last : Text.IsBoundary ['0', 'g'] 2 := Text.isBoundary_iff.2 rfl
  obtain ⟨tree, miss?, obstacle?, seen, same, stuck⟩ :=
    classify_obstacle_honest (by decide) first last (by decide)
  obtain ⟨rfl, rfl⟩ := Prod.mk.inj (Except.ok.inj (seen.symm.trans examined))
  obtain ⟨-, rfl⟩ := Prod.mk.inj (Except.ok.inj (same.symm.trans searched))
  obtain ⟨obstacle, read, found, -, -, -, missed, met⟩ := stuck rfl
  obtain rfl := Option.some.inj found
  obtain rfl : ['0'] = read := (Miss.mk.inj (Option.some.inj missed)).2.1
  exact ⟨searched, met⟩

end Numeral
