import Mathlib.Order.Bounds.Defs
import Numeral.Proofs.Grammar.Reach
import Numeral.Proofs.Search.Totality

set_option autoImplicit false

namespace Numeral

open Grammar

namespace Grammar

def viableLengths (chars : Text) : Set Nat :=
  {length | ∃ front, front <+: chars ∧ Viable front ∧ Text.byteLength front = length}

theorem isGreatest_viableLengths {chars longest : Text} (ahead : longest <+: chars)
    (viable : Viable longest) (most : ∀ front, front <+: chars → Viable front → front <+: longest) :
    IsGreatest (viableLengths chars) (Text.byteLength longest) := by
  refine ⟨⟨longest, ahead, viable, rfl⟩, ?_⟩
  rintro _ ⟨front, part, begins, rfl⟩
  exact Text.byteLength_le_of_prefix (most front part begins)

section

variable {wordAfter : Bool} {chars : Text} {miss : Miss}
  (failed : (parse productions chars wordAfter).result = none)
  (furthest : Miss.furthest (parse productions chars wordAfter).misses = some miss)

include failed furthest

theorem longest_viable :
    ∃ longest, longest <+: chars ∧ Viable longest ∧
      (∀ front, front <+: chars → Viable front → front <+: longest) ∧
      (longest = miss.read ∨ longest = miss.read ++ [separator] ∨
        longest = miss.read ++ [point]) := by
  have member := Miss.furthest_mem furthest
  have ahead : miss.read <+: chars := parse_within productions chars wordAfter miss member
  have viable : Viable miss.read := parse_viable chars wordAfter miss member
  have near {front : Text} (part : front <+: chars) (begins : Viable front) :
      Near front miss.read := furthest_near begins part failed furthest
  by_cases longer : ∃ front, front <+: chars ∧ Viable front ∧ miss.read.length < front.length
  next =>
    obtain ⟨longest, part, begins, further⟩ := longer
    obtain ⟨width, last⟩ := (near part begins).resolve_left (Nat.not_le.2 further)
    refine ⟨longest, part, begins, fun front other starts => ?_, .inr ?_⟩
    next =>
      refine List.prefix_of_prefix_length_le other part ?_
      rcases near other starts with all | ⟨same, -⟩ <;> omega
    next =>
      obtain ⟨more, rfl⟩ := List.prefix_of_prefix_length_le ahead part (Nat.le_of_lt further)
      obtain ⟨c, rfl⟩ : ∃ c, more = [c] := List.length_eq_one_iff.1 (by simpa using width)
      simpa using last
  next =>
    refine ⟨miss.read, ahead, viable, fun front part begins => ?_, .inl rfl⟩
    refine List.prefix_of_prefix_length_le part ahead (Nat.not_lt.1 fun further => ?_)
    exact longer ⟨front, part, begins, further⟩

end

end Grammar

theorem Text.Excerpt.parse_of_outcome {cut : Text.Excerpt} {miss : Miss}
    (furthest : cut.outcome.2 = some miss) :
    (parseExcerpt productions cut).result = none ∧
      Miss.furthest (parseExcerpt productions cut).misses = some miss := by
  unfold outcome Grammar.outcome at furthest
  split at furthest
  next => simp at furthest
  next failed => exact ⟨failed, furthest⟩

theorem Text.Excerpt.hasAt_read {cut : Text.Excerpt} {read : Text} {c : Char}
    (ahead : read ++ [c] <+: cut.inside) :
    cut.whole.HasAt c (cut.start + byteLength read) := by
  obtain ⟨rest, same⟩ := ahead
  refine ⟨cut.before ++ read, rest ++ cut.after, ?_, byteLength_append _ _⟩
  simp [whole, ← same]

/-- Over a sound range a search that finds no numeral says where it got stuck. Some numeral begins
with the text up to there, and none with more of it, but for one byte that is a separator or a
point. -/
theorem classify_obstacle_viable {text : Text} {start stop : Nat} (forward : start ≤ stop)
    (first : text.IsBoundary start) (last : text.IsBoundary stop)
    (fits : stop ≤ Range.largestBound) :
    ∃ (tree : Tree) (obstacle? : Option Obstacle),
      Search.classifyBetween text start stop = .ok (tree.entries, obstacle?) ∧
      (tree.kind.isInvalid = true → ∃ obstacle part length,
        obstacle? = some obstacle ∧ start ≤ obstacle.offset ∧ obstacle.offset ≤ stop ∧
          Text.slice? text start stop = some part ∧ IsGreatest (viableLengths part) length ∧
          obstacle.offset - start ≤ length ∧ length ≤ obstacle.offset - start + 1 ∧
          (length = obstacle.offset - start + 1 →
            text.HasAt separator obstacle.offset ∨ text.HasAt point obstacle.offset)) := by
  obtain ⟨cut, rfl, rfl, rfl⟩ := Text.exists_excerpt forward first last
  refine ⟨cut.outcome.1, _, Search.classifyBetween_whole cut fits, fun invalid => ?_⟩
  obtain ⟨miss, found, within⟩ := Text.Excerpt.outcome_invalid invalid
  obtain ⟨failed, furthest⟩ := Text.Excerpt.parse_of_outcome found
  obtain ⟨longest, ahead, viable, most, read⟩ := longest_viable failed furthest
  have place : (miss.obstacle cut.start).offset = cut.start + Text.byteLength miss.read := rfl
  have inside : cut.start + Text.byteLength miss.read ≤ cut.stop := by
    rw [Text.Excerpt.stop, Text.byteLength_append]
    exact Nat.add_le_add_left (Text.byteLength_le_of_prefix within) _
  have sliced : Text.slice? cut.whole cut.start cut.stop = some cut.inside := by
    simp [Text.slice?, Text.excerpt?_whole]
  refine ⟨miss.obstacle cut.start, cut.inside, Text.byteLength longest, by rw [found]; rfl, ?_,
    inside, sliced, isGreatest_viableLengths ahead viable most, ?_⟩
  next => exact Nat.le_add_right _ _
  next =>
    rw [place, Nat.add_sub_cancel_left]
    rcases read with rfl | rfl | rfl
    next => exact ⟨Nat.le_refl _, Nat.le_succ _, fun longer => by omega⟩
    next =>
      rw [Text.byteLength_concat (by decide)]
      exact ⟨Nat.le_succ _, Nat.le_refl _, fun _ => .inl (Text.Excerpt.hasAt_read ahead)⟩
    next =>
      rw [Text.byteLength_concat (by decide)]
      exact ⟨Nat.le_succ _, Nat.le_refl _, fun _ => .inr (Text.Excerpt.hasAt_read ahead)⟩

theorem classify_obstacle_viable_separator :
    Search.classifyBetween ['1', '_'] 0 2 =
        .ok ((Tree.invalid ⟨0, 2⟩).entries, some ⟨1, .point, .decimalFloat⟩) ∧
      IsGreatest (viableLengths ['1', '_']) 2 ∧
      (Text.HasAt ['1', '_'] separator 1 ∨ Text.HasAt ['1', '_'] point 1) := by
  have searched : Search.classifyBetween ['1', '_'] 0 2 =
      .ok ((Tree.invalid ⟨0, 2⟩).entries, some ⟨1, .point, .decimalFloat⟩) := by decide +kernel
  have first : Text.IsBoundary ['1', '_'] 0 := Text.isBoundary_iff.2 rfl
  have last : Text.IsBoundary ['1', '_'] 2 := Text.isBoundary_iff.2 rfl
  obtain ⟨tree, obstacle?, same, stuck⟩ :=
    classify_obstacle_viable (by decide) first last (by decide)
  obtain ⟨entries, rfl⟩ := Prod.mk.inj (Except.ok.inj (same.symm.trans searched))
  have kind : tree.kind = .invalid := by
    simp only [Tree.entries, Tree.invalid, List.cons.injEq, Entry.mk.injEq, Tag.literal.injEq]
      at entries
    exact entries.1.1
  obtain ⟨obstacle, part, length, found, -, -, sliced, greatest, -, most, longer⟩ :=
    stuck (kind ▸ rfl)
  obtain rfl := Option.some.inj found
  obtain rfl : ['1', '_'] = part := Option.some.inj sliced
  -- a digit may still come
  have parsed : (parse (productionsOf .decimalInt) ['1', '_', '0'] false).result =
      some ⟨.decimalInt, false, [⟨.digits .decimal, ['1', '_', '0']⟩]⟩ := rfl
  have viable : Viable ['1', '_'] := ⟨_, _, _, (parse_productionsOf_some parsed).2.1, ['0'], rfl⟩
  obtain rfl : length = 2 :=
    Nat.le_antisymm most (greatest.2 ⟨_, List.prefix_refl _, viable, rfl⟩)
  exact ⟨searched, greatest, longer rfl⟩

end Numeral
