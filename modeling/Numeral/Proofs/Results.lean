import Mathlib.Data.List.Forall2

set_option autoImplicit false

namespace Numeral

variable {α β γ ε : Type}

theorem mapM_ok_iff (f : α → Except ε β) (sources : List α) (results : List β) :
    sources.mapM f = .ok results ↔
      List.Forall₂ (fun source result => f source = .ok result) sources results := by
  induction sources generalizing results with
  | nil => cases results <;> simp [pure, Except.pure]
  | cons source rest ih =>
    rw [List.mapM_cons, List.forall₂_cons_left_iff]
    cases first : f source with
    | error fault => simp [bind, Except.bind]
    | ok one =>
      cases others : rest.mapM f with
      | error fault => simp [bind, Except.bind, ← ih, others]
      | ok more => simp [bind, Except.bind, pure, Except.pure, ← ih, others, eq_comm]

theorem mapM_error {f : α → Except ε β} {sources : List α} {fault : ε}
    (failed : sources.mapM f = .error fault) : ∃ source ∈ sources, f source = .error fault := by
  induction sources with
  | nil => cases failed
  | cons source rest ih =>
    rw [List.mapM_cons] at failed
    cases first : f source with
    | error early =>
      rw [first] at failed
      cases failed
      exact ⟨source, List.mem_cons_self, first⟩
    | ok one =>
      cases others : rest.mapM f with
      | error late =>
        rw [first, others] at failed
        cases failed
        obtain ⟨other, member, found⟩ := ih others
        exact ⟨other, List.mem_cons_of_mem _ member, found⟩
      | ok more =>
        rw [first, others] at failed
        cases failed

theorem mapM_congr {f g : α → Except ε β} {sources : List α}
    (same : ∀ source ∈ sources, f source = g source) : sources.mapM f = sources.mapM g := by
  induction sources with
  | nil => rfl
  | cons source rest ih =>
    obtain ⟨first, others⟩ := List.forall_mem_cons.1 same
    rw [List.mapM_cons, List.mapM_cons, first, ih others]

theorem mapM_map_ok {f : β → Except ε γ} {back : α → β} {result : α → γ} {sources : List α}
    (each : ∀ a ∈ sources, f (back a) = .ok (result a)) :
    (sources.map back).mapM f = .ok (sources.map result) := by
  rw [mapM_ok_iff, List.forall₂_map_left_iff, List.forall₂_map_right_iff, List.forall₂_same]
  exact each

theorem exists_forall₂ {good : α → γ → Prop} {sources : List α}
    (each : ∀ a ∈ sources, ∃ result, good a result) :
    ∃ results, List.Forall₂ good sources results := by
  induction sources with
  | nil => exact ⟨[], .nil⟩
  | cons a sources ih =>
    obtain ⟨⟨result, first⟩, later⟩ := List.forall_mem_cons.1 each
    obtain ⟨results, rest⟩ := ih later
    exact ⟨result :: results, .cons first rest⟩

theorem mapM_forall₂ {f : β → Except ε γ} {back : α → β} {good : α → γ → Prop}
    {sources : List α} (each : ∀ a ∈ sources, ∃ result, f (back a) = .ok result ∧ good a result) :
    ∃ results, (sources.map back).mapM f = .ok results ∧ List.Forall₂ good sources results := by
  obtain ⟨results, related⟩ := exists_forall₂ each
  refine ⟨results, ?_, related.imp fun _ _ both => both.2⟩
  rw [mapM_ok_iff, List.forall₂_map_left_iff]
  exact related.imp fun _ _ both => both.1

theorem mapM_map_result (f : α → Except ε β) (g : β → γ) (sources : List α) :
    (sources.mapM fun source => (f source).map g) = (sources.mapM f).map (List.map g) := by
  induction sources with
  | nil => rfl
  | cons source rest ih =>
    rw [List.mapM_cons, List.mapM_cons, ih]
    cases f source with
    | error fault => rfl
    | ok one => cases rest.mapM f <;> rfl

theorem mapM_map_id (f : α → Except ε β) (sources : List α) (last : List β) :
    (sources.map f ++ last.map Except.ok).mapM id = (sources.mapM f).map (· ++ last) := by
  have closed : (last.map Except.ok).mapM id = (.ok last : Except ε (List β)) := by
    rw [List.mapM_map]
    exact (mapM_ok_iff _ _ _).2 (List.forall₂_same.2 fun _ _ => rfl)
  rw [List.mapM_append, List.mapM_map, closed, Function.id_comp]
  cases sources.mapM f <;> rfl

end Numeral
