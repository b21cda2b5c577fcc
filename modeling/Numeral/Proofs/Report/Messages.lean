import Mathlib.Data.List.Infix
import Numeral.Report.Diagnostic

set_option autoImplicit false

namespace Numeral

def zeroWidthSpace : Char := '\u200b'

def Text.visible (text : Text) : Text :=
  text.filter fun c => c ≠ zeroWidthSpace

def Text.HasUnderscores (count : Nat) (text : Text) : Prop :=
  List.replicate count '_' <:+: text

structure StoredAs (message stored : String) : Prop where
  visible_eq : Text.visible stored.toList = Text.visible message.toList
  pair_iff : Text.HasUnderscores 2 stored.toList ↔ Text.HasUnderscores 3 message.toList
  no_triple : ¬Text.HasUnderscores 3 stored.toList

theorem visible_splitUnderscores (text : Text) :
    (splitUnderscores text).visible = text.visible := by
  fun_induction splitUnderscores text with
  | case1 rest ih => simpa [Text.visible, zeroWidthSpace] using ih
  | case2 c rest _ ih =>
    simp only [Text.visible, List.filter_cons] at ih ⊢
    rw [ih]
  | case3 => rfl

theorem head?_splitUnderscores (text : Text) : (splitUnderscores text).head? = text.head? := by
  fun_cases splitUnderscores text <;> rfl

theorem singleton_prefix_iff {c : Char} {text : Text} : [c] <+: text ↔ text.head? = some c := by
  cases text with
  | nil => simp
  | cons d rest => simp [List.cons_prefix_cons, eq_comm]

theorem pair_prefix_cons_iff {c : Char} {rest : Text} :
    ['_', '_'] <+: c :: rest ↔ ∃ tail, c = '_' ∧ rest = '_' :: tail := by
  rw [List.cons_prefix_cons, singleton_prefix_iff, List.head?_eq_some_iff, eq_comm]
  exact exists_and_left.symm

theorem not_pair_prefix_splitUnderscores (text : Text) :
    ¬['_', '_'] <+: splitUnderscores text := by
  fun_cases splitUnderscores text with
  | case1 rest => simp [List.cons_prefix_cons]
  | case2 c rest single =>
    rw [List.cons_prefix_cons, singleton_prefix_iff, head?_splitUnderscores,
      ← singleton_prefix_iff, ← List.cons_prefix_cons, pair_prefix_cons_iff]
    rintro ⟨tail, first, second⟩
    exact single tail first second
  | case3 => simp

theorem hasUnderscores_two_iff (text : Text) :
    Text.HasUnderscores 2 (splitUnderscores text) ↔ Text.HasUnderscores 3 text := by
  have second {rest : Text} : ['_', '_'] <+: rest → rest.head? = some '_' := by
    rintro ⟨tail, rfl⟩
    rfl
  unfold Text.HasUnderscores
  simp only [List.replicate_succ, List.replicate_zero]
  fun_induction splitUnderscores text with
  | case1 rest ih =>
    -- the pair in front is apart now, but its second half meets an underscore that follows
    simp only [List.infix_cons_iff, List.cons_prefix_cons, singleton_prefix_iff,
      head?_splitUnderscores, ih, true_and, show '_' ≠ '\u200b' by decide, false_and, false_or]
    rw [← or_assoc, or_iff_left_of_imp second]
  | case2 c rest single ih =>
    have apart : ¬['_', '_'] <+: c :: rest := by
      rw [pair_prefix_cons_iff]
      rintro ⟨tail, here, next⟩
      exact single tail here next
    simp only [List.infix_cons_iff, List.cons_prefix_cons, singleton_prefix_iff,
      head?_splitUnderscores, ih] at apart ⊢
    rw [or_iff_right apart, or_iff_right fun both => apart ⟨both.1, second both.2⟩]
  | case3 => simp

theorem not_hasUnderscores_three (text : Text) :
    ¬Text.HasUnderscores 3 (splitUnderscores text) := by
  unfold Text.HasUnderscores
  simp only [List.replicate_succ, List.replicate_zero]
  fun_induction splitUnderscores text with
  | case1 rest ih =>
    simp [List.infix_cons_iff, List.cons_prefix_cons, not_pair_prefix_splitUnderscores, ih]
  | case2 c rest _ ih =>
    simp [List.infix_cons_iff, List.cons_prefix_cons, not_pair_prefix_splitUnderscores, ih]
  | case3 => simp

theorem storedAs_displayed (message : String) : StoredAs message (displayed message) where
  visible_eq := by
    rw [displayed, String.toList_ofList]
    exact visible_splitUnderscores message.toList
  pair_iff := by
    rw [displayed, String.toList_ofList]
    exact hasUnderscores_two_iff message.toList
  no_triple := by
    rw [displayed, String.toList_ofList]
    exact not_hasUnderscores_three message.toList

/-- A message can be read off what any call stores of it, and two underscores are next to each
other there just if three were in the message. -/
theorem Diagnostic.messages_stored (diagnostic : Diagnostic) (file : Nat) (range : Range)
    (message : String) :
    ∃ stored, StoredAs message stored ∧
      diagnostic.saying file range message =
        { diagnostic with
          labels := diagnostic.labels ++ [⟨file, range, diagnostic.severity, stored⟩] } ∧
      diagnostic.remark file range message =
        { diagnostic with labels := diagnostic.labels ++ [⟨file, range, .help, stored⟩] } ∧
      diagnostic.note message = { diagnostic with notes := diagnostic.notes ++ [stored] } :=
  ⟨displayed message, storedAs_displayed message, rfl, rfl, rfl⟩

theorem Diagnostic.messages_stored_three :
    ∃ stored ∈ ((Diagnostic.new .error "" false).note "___").notes,
      Text.HasUnderscores 2 stored.toList := by
  have three : displayed "___" = "_\u200b__" := by cbv
  refine ⟨_, List.mem_singleton_self _, ?_⟩
  rw [three]
  exact ⟨['_', '\u200b'], [], by cbv⟩

end Numeral
