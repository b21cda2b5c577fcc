import Numeral.Grammar.Rules
import Numeral.Proofs.Grammar.Language

set_option autoImplicit false

open scoped Computability

namespace Numeral.Grammar

def EndsGroup (radix : Radix) : Option Char → Prop
  | none => True
  | some c => c ∉ radix.digits ∧ c ≠ '_'

instance (radix : Radix) : DecidablePred (EndsGroup radix)
  | none => .isTrue trivial
  | some c => inferInstanceAs (Decidable (c ∉ radix.digits ∧ c ≠ '_'))

theorem underscore_not_digit (radix : Radix) : radix.isDigit '_' = false := by
  cases radix <;> rfl

-- The second half covers a separator that is read before its digit.
theorem groupTail_mem_aux (radix : Radix) (text : Text) :
    groupTail radix text ∈ (laterDigit radix)∗ ∧
      (radix.hasSeparators = true → startsWithDigit radix text = true →
        '_' :: groupTail radix text ∈ (laterDigit radix)∗) := by
  induction text with
  | nil =>
    constructor
    next => exact Language.nil_mem_kstar _
    next => simp [startsWithDigit]
  | cons c cs ih =>
    by_cases isDigit : radix.isDigit c = true
    next =>
      have member := (Radix.isDigit_iff radix c).1 isDigit
      simp only [groupTail, isDigit, if_true]
      exact ⟨cons_laterDigits member ih.1,
        fun separators _ => separated_laterDigits separators member ih.1⟩
    next =>
      constructor
      next =>
        rw [groupTail, if_neg isDigit]
        split
        next joined =>
          simp only [Bool.and_eq_true, beq_iff_eq] at joined
          obtain ⟨⟨separators, rfl⟩, starts⟩ := joined
          exact ih.2 separators starts
        next => exact Language.nil_mem_kstar _
      next => exact fun _ starts => absurd starts isDigit

theorem group_mem {radix : Radix} {text : Text} (found : group radix text ≠ []) :
    group radix text ∈ digitGroup radix := by
  cases text with
  | nil => simp [group] at found
  | cons c cs =>
    by_cases isDigit : radix.isDigit c = true
    next =>
      simp only [group, isDigit, if_true]
      exact mem_digitGroup.2
        ⟨c, (Radix.isDigit_iff radix c).1 isDigit, _, (groupTail_mem_aux radix cs).1, rfl⟩
    next => simp [group, isDigit] at found

theorem groupTail_later {radix : Radix} {later : Text} (member : later ∈ (laterDigit radix)∗)
    (rest : Text) : groupTail radix (later ++ rest) = later ++ groupTail radix rest := by
  induction later, member using laterDigits_induction with
  | nil => rfl
  | digit d later isDigit _ ih =>
    simp [groupTail, (Radix.isDigit_iff radix d).2 isDigit, ih]
  | separated d later separators isDigit _ ih =>
    simp [groupTail, startsWithDigit, underscore_not_digit, separator, separators,
      (Radix.isDigit_iff radix d).2 isDigit, ih]

theorem groupTail_nil_of_ends {radix : Radix} {text : Text} (ends : EndsGroup radix text.head?) :
    groupTail radix text = [] := by
  cases text with
  | nil => rfl
  | cons c cs =>
    obtain ⟨notDigit, notSeparator⟩ := ends
    have notDigit : radix.isDigit c = false := by
      simpa [← Radix.isDigit_iff] using notDigit
    simp [groupTail, notDigit, separator, notSeparator]

theorem groupTail_append {radix : Radix} {later rest : Text}
    (member : later ∈ (laterDigit radix)∗) (ends : EndsGroup radix rest.head?) :
    groupTail radix (later ++ rest) = later := by
  rw [groupTail_later member, groupTail_nil_of_ends ends, List.append_nil]

theorem prefix_group {radix : Radix} {word text : Text} (member : word ∈ digitGroup radix)
    (ahead : word <+: text) : word <+: group radix text := by
  obtain ⟨rest, rfl⟩ := ahead
  obtain ⟨d, isDigit, later, inside, rfl⟩ := mem_digitGroup.1 member
  simp [group, (Radix.isDigit_iff radix d).2 isDigit, groupTail_later inside]

theorem group_append {radix : Radix} {word rest : Text} (member : word ∈ digitGroup radix)
    (ends : EndsGroup radix rest.head?) : group radix (word ++ rest) = word := by
  obtain ⟨d, isDigit, later, inside, rfl⟩ := mem_digitGroup.1 member
  simp [group, (Radix.isDigit_iff radix d).2 isDigit, groupTail_append inside ends]

theorem group_nil_of_ends {radix : Radix} {text : Text} (ends : EndsGroup radix text.head?) :
    group radix text = [] := by
  cases text with
  | nil => rfl
  | cons c cs =>
    have notDigit : radix.isDigit c = false := by
      simpa [← Radix.isDigit_iff] using ends.1
    simp [group, notDigit]

theorem digitGroup_head {radix : Radix} {word : Text} (member : word ∈ digitGroup radix) :
    ∃ d ∈ radix.digits, word.head? = some d := by
  obtain ⟨d, isDigit, later, -, rfl⟩ := mem_digitGroup.1 member
  exact ⟨d, isDigit, rfl⟩

theorem digitGroup_last {radix : Radix} {word : Text} (member : word ∈ digitGroup radix) :
    ∃ d ∈ radix.digits, word.getLast? = some d := by
  obtain ⟨first, isFirst, later, inside, rfl⟩ := mem_digitGroup.1 member
  clear member
  -- `first` is the last digit so far
  induction later, inside using laterDigits_induction generalizing first with
  | nil => exact ⟨first, isFirst, rfl⟩
  | digit d later isDigit _ ih => simpa using ih d isDigit
  | separated d later _ isDigit _ ih => simpa using ih d isDigit

theorem digitGroup_chars {radix : Radix} {word : Text} (member : word ∈ digitGroup radix) :
    ∀ c ∈ word, c ∈ radix.digits ∨ (radix.hasSeparators = true ∧ c = '_') := by
  obtain ⟨first, isFirst, later, inside, rfl⟩ := mem_digitGroup.1 member
  clear member
  induction later, inside using laterDigits_induction generalizing first with
  | nil => simp [isFirst]
  | digit d later isDigit _ ih => simpa [isFirst] using ih d isDigit
  | separated d later separators isDigit _ ih => simpa [isFirst, separators] using ih d isDigit

theorem digitGroup_between {radix : Radix} {word front back : Text}
    (member : word ∈ digitGroup radix) (here : word = front ++ '_' :: back) :
    (∃ d ∈ radix.digits, front.getLast? = some d) ∧ ∃ d ∈ radix.digits, back.head? = some d := by
  obtain ⟨first, isFirst, later, inside, rfl⟩ := mem_digitGroup.1 member
  clear member
  have other {d : Char} (isDigit : d ∈ radix.digits) : d ≠ '_' := by
    rintro rfl
    exact absurd ((Radix.isDigit_iff radix _).2 isDigit) (by simp [underscore_not_digit])
  have longer {e : Char} {front : Text} : (∃ d ∈ radix.digits, front.getLast? = some d) →
      ∃ d ∈ radix.digits, (e :: front).getLast? = some d := by
    rintro ⟨d, isDigit, last⟩
    exact ⟨d, isDigit, by simp [List.getLast?_cons, last]⟩
  -- `first` is the last digit in front of what is left
  induction later, inside using laterDigits_induction generalizing first front with
  | nil =>
    cases front with
    | nil => exact absurd (List.cons.inj here).1 (other isFirst)
    | cons e front => simp at here
  | digit d later isDigit _ ih =>
    cases front with
    | nil => exact absurd (List.cons.inj here).1 (other isFirst)
    | cons e front => exact (ih d isDigit (List.cons.inj here).2).imp_left longer
  | separated d later _ isDigit _ ih =>
    match front with
    | [] => exact absurd (List.cons.inj here).1 (other isFirst)
    | [e] =>
      obtain ⟨rfl, rest⟩ := List.cons.inj here
      obtain ⟨-, rfl⟩ := List.cons.inj rest
      exact ⟨⟨first, isFirst, rfl⟩, d, isDigit, rfl⟩
    | e :: _ :: front =>
      have rest := (List.cons.inj (List.cons.inj here).2).2
      exact (ih d isDigit rest).imp_left (longer ∘ longer)

end Numeral.Grammar
