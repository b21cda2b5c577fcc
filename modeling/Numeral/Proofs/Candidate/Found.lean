import Numeral.Proofs.Candidate.Walk
import Numeral.Proofs.Results
import Numeral.Proofs.Tree.Shift

set_option autoImplicit false

namespace Numeral

open Grammar

def Text.Excerpt.ends (cut : Text.Excerpt) : Nat × Nat :=
  (cut.start, cut.stop)

namespace Candidate

theorem run_chars (signed : Bool) (text : Text) :
    ∀ c ∈ run signed text, isInterior c = true ∨ isSign c = true := by
  induction text generalizing signed with
  | nil => simp [run]
  | cons d ds ih =>
    intro c inside
    by_cases taken : (isInterior d || (signed && isSign d)) = true
    next =>
      rw [run, if_pos taken] at inside
      rcases List.mem_cons.1 inside with rfl | later
      next =>
        simp only [Bool.or_eq_true, Bool.and_eq_true] at taken
        exact taken.imp_right And.right
      next => exact ih _ c later
    next => simp [run, taken] at inside

structure Cuts (text : Text) (cuts : List Text.Excerpt) : Prop where
  ends_eq : cuts.map Text.Excerpt.ends = all text
  whole_eq : ∀ cut ∈ cuts, cut.whole = text
  chars : ∀ cut ∈ cuts, ∀ c ∈ cut.inside, isInterior c = true ∨ isSign c = true

theorem cut_of_scan {text : Text} {start stop : Nat} (found : scan text start = some stop) :
    ∃ cut : Text.Excerpt, cut.ends = (start, stop) ∧ cut.whole = text ∧
      ∀ c ∈ cut.inside, isInterior c = true ∨ isSign c = true := by
  obtain ⟨before, back, rfl, rfl, -, rfl⟩ := scan_eq_some found
  obtain ⟨after, runs, -⟩ := run_rest false back
  refine ⟨⟨before, run false back, after⟩, ?_, ?_, run_chars false back⟩
  next => simp [Text.Excerpt.ends, Text.Excerpt.start, Text.Excerpt.stop]
  next => rw [Text.Excerpt.whole, List.append_assoc, ← runs]

theorem exists_map_eq {α β : Type} {f : α → β} {good : α → Prop} {values : List β}
    (each : ∀ value ∈ values, ∃ a, f a = value ∧ good a) :
    ∃ sources : List α, sources.map f = values ∧ ∀ a ∈ sources, good a := by
  induction values with
  | nil => exact ⟨[], rfl, by simp⟩
  | cons value values ih =>
    obtain ⟨⟨a, same, first⟩, later⟩ := List.forall_mem_cons.1 each
    obtain ⟨sources, sames, rest⟩ := ih later
    exact ⟨a :: sources, by rw [List.map_cons, same, sames], List.forall_mem_cons.2 ⟨first, rest⟩⟩

theorem exists_cuts (text : Text) : ∃ cuts, Cuts text cuts := by
  have each : ∀ ends ∈ all text, ∃ cut : Text.Excerpt, cut.ends = ends ∧ cut.whole = text ∧
      ∀ c ∈ cut.inside, isInterior c = true ∨ isSign c = true :=
    fun ends member => cut_of_scan (after_scan [] text ends member).1
  obtain ⟨cuts, ends, good⟩ := exists_map_eq each
  exact ⟨cuts, ends, fun cut member => (good cut member).1, fun cut member => (good cut member).2⟩

end Candidate

section

variable {text : Text} {cuts : List Text.Excerpt} (known : Candidate.Cuts text cuts)
  (fits : Text.byteLength text ≤ Range.largestBound)

include known fits

theorem Candidate.Cuts.stop_le : ∀ cut ∈ cuts, cut.stop ≤ Range.largestBound := by
  intro cut member
  have bound := cut.stop_le_length
  rw [known.whole_eq cut member] at bound
  exact Nat.le_trans bound fits

theorem findAll_cuts : findAll text = .ok (cuts.map fun cut => cut.outcome.1) := by
  rw [findAll, ← known.ends_eq]
  refine mapM_map_ok fun cut member => ?_
  rw [← known.whole_eq cut member]
  exact classify_whole cut (known.stop_le fits cut member)

end

end Numeral
