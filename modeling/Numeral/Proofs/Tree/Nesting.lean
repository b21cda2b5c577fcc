import Numeral.Tree

set_option autoImplicit false

namespace Numeral

/-- Entries of siblings, one behind the other between two offsets, each with as many entries below
it as it counts, and these nested between its own ends. -/
inductive Nested : Nat → Nat → List Entry → Prop where
  | nil {start stop : Nat} (order : start ≤ stop) : Nested start stop []
  | cons {start stop : Nat} {entry : Entry} {below rest : List Entry}
      (after : start ≤ entry.range.start) (counted : entry.descendants = below.length)
      (inner : Nested entry.range.start entry.range.stop below)
      (outer : Nested entry.range.stop stop rest) : Nested start stop (entry :: (below ++ rest))

namespace Nested

variable {start stop : Nat} {entries : List Entry}

theorem order (nested : Nested start stop entries) : start ≤ stop := by
  induction nested with
  | nil order => exact order
  | cons after _ _ _ earlier later => exact Nat.le_trans after (Nat.le_trans earlier later)

theorem widen {earlier : Nat} (nested : Nested start stop entries) (before : earlier ≤ start) :
    Nested earlier stop entries := by
  cases nested with
  | nil order => exact .nil (Nat.le_trans before order)
  | cons after counted inner outer => exact .cons (Nat.le_trans before after) counted inner outer

theorem bounds (nested : Nested start stop entries) : ∀ entry ∈ entries,
    start ≤ entry.range.start ∧ entry.range.start ≤ entry.range.stop ∧
      entry.range.stop ≤ stop := by
  induction nested with
  | nil => simp
  | cons after counted inner outer below rest =>
    have first := inner.order
    have last := outer.order
    simp only [List.forall_mem_cons, List.forall_mem_append]
    refine ⟨⟨after, first, last⟩, fun entry member => ?_, fun entry member => ?_⟩
    next =>
      have := below entry member
      omega
    next =>
      have := rest entry member
      omega

theorem split {front behind : List Entry} {entry : Entry} (nested : Nested start stop entries)
    (here : entries = front ++ entry :: behind) :
    ∃ below rest, behind = below ++ rest ∧ entry.descendants = below.length ∧
      Nested entry.range.start entry.range.stop below ∧
      ∀ later ∈ rest, entry.range.stop ≤ later.range.start := by
  induction nested generalizing front behind with
  | nil => simp at here
  | @cons start stop first below rest after counted inner outer within beyond =>
    cases front with
    | nil =>
      obtain ⟨rfl, rfl⟩ := List.cons.inj here
      exact ⟨below, rest, rfl, counted, inner, fun later member => (outer.bounds later member).1⟩
    | cons other front =>
      rcases List.append_eq_append_iff.1 (List.cons.inj here).2 with
        ⟨between, rfl, same⟩ | ⟨between, same, same'⟩
      next => exact beyond same
      next =>
        cases between with
        | nil => exact beyond (show rest = [] ++ entry :: behind from same'.symm)
        | cons again between =>
          obtain ⟨rfl, rfl⟩ := List.cons.inj same'
          obtain ⟨deeper, others, rfl, counts, nests, ahead⟩ := within same
          refine ⟨deeper, others ++ rest, by simp, counts, nests, ?_⟩
          -- what follows the first entry follows all that is below it
          have inside := inner.bounds entry (same ▸ by simp)
          refine List.forall_mem_append.2 ⟨ahead, fun later member => ?_⟩
          exact Nat.le_trans inside.2.2 (outer.bounds later member).1

section

variable (nested : Nested start stop entries) {i j : Nat} {first second : Entry}

include nested

theorem split_at (here : entries[i]? = some first) :
    ∃ below rest, entries.drop (i + 1) = below ++ rest ∧ first.descendants = below.length ∧
      Nested first.range.start first.range.stop below ∧
      ∀ later ∈ rest, first.range.stop ≤ later.range.start := by
  obtain ⟨inside, same⟩ := List.getElem?_eq_some_iff.1 here
  have whole : entries = entries.take i ++ first :: entries.drop (i + 1) := by
    rw [← same, ← List.drop_eq_getElem_cons inside, List.take_append_drop]
  exact nested.split whole

theorem lt_length (here : entries[i]? = some first) : i + first.descendants < entries.length := by
  obtain ⟨below, rest, behind, counted, -⟩ := nested.split_at here
  obtain ⟨inside, -⟩ := List.getElem?_eq_some_iff.1 here
  have length := congrArg List.length behind
  simp only [List.length_drop, List.length_append] at length
  omega

theorem inside (here : entries[i]? = some first) (there : entries[j]? = some second)
    (after : i < j) (owned : j ≤ i + first.descendants) :
    j + second.descendants ≤ i + first.descendants ∧ first.range.contains second.range = true := by
  obtain ⟨below, rest, behind, counted, inner, -⟩ := nested.split_at here
  have found : below[j - (i + 1)]? = some second := by
    have moved := congrArg (fun list => list[j - (i + 1)]?) behind
    simp only [List.getElem?_drop, Nat.add_sub_cancel' after, there] at moved
    rw [moved, List.getElem?_append_left (by omega)]
  have shorter := inner.lt_length found
  have bounds := inner.bounds second (List.mem_of_getElem? found)
  exact ⟨by omega, by simp [Range.contains, bounds]⟩

theorem behind (here : entries[i]? = some first) (there : entries[j]? = some second)
    (apart : i + first.descendants < j) : first.range.stop ≤ second.range.start := by
  obtain ⟨below, rest, behind, counted, -, ahead⟩ := nested.split_at here
  have found : rest[j - (i + 1) - below.length]? = some second := by
    have moved := congrArg (fun list => list[j - (i + 1)]?) behind
    simp only [List.getElem?_drop, Nat.add_sub_cancel' (show i + 1 ≤ j by omega), there] at moved
    rw [moved, List.getElem?_append_right (by omega)]
  exact ahead second (List.mem_of_getElem? found)

end

end Nested

end Numeral
