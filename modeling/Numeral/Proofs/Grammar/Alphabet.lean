import Numeral.Proofs.Grammar.Derivation
import Numeral.Proofs.Grammar.DigitGroup

set_option autoImplicit false

namespace Numeral.Grammar

namespace Step

def opens (form : Form) : Step → List Char
  | unprefixed => []
  | radixPrefix => ['0']
  | prefixSeparator => ['_']
  | digits | maybeDigits => form.radix.digits
  | integer => Radix.decimal.digits
  | point => ['.']
  | exponent | maybeExponent => form.radix.exponentMarkers

def closes (form : Form) : Step → List Char
  | unprefixed => []
  | radixPrefix => '0' :: form.radix.prefixLetters
  | prefixSeparator => ['_']
  | digits | maybeDigits => form.radix.digits
  | integer | exponent | maybeExponent => Radix.decimal.digits
  | point => ['.']

def mayTakeNothing : Step → Bool
  | unprefixed | prefixSeparator | maybeDigits | maybeExponent => true
  | _ => false

def alphabet (form : Form) : Step → List Char
  | unprefixed => []
  | radixPrefix => '0' :: form.radix.prefixLetters
  | prefixSeparator => ['_']
  | digits | maybeDigits => '_' :: form.radix.digits
  | integer => '_' :: Radix.decimal.digits
  | point => ['.']
  | exponent | maybeExponent =>
    form.radix.exponentMarkers ++ ['+', '-', '_'] ++ Radix.decimal.digits

end Step

def alphabet (form : Form) (steps : List Step) : List Char :=
  steps.flatMap (Step.alphabet form) ++ ['i']

def ahead (form : Form) : List Step → List (Option Char)
  | [] => [none, some 'i']
  | step :: steps =>
    (step.opens form).map some ++ if step.mayTakeNothing then ahead form steps else []

theorem Step.Takes.ends {form : Form} {step : Step} {pieces : List Piece}
    (taken : step.Takes form pieces) :
    (step.mayTakeNothing = true ∧ written pieces = []) ∨
      (∃ first ∈ step.opens form, (written pieces).head? = some first) ∧
        ∃ last ∈ step.closes form, (written pieces).getLast? = some last := by
  have group {radix : Radix} {word : Text} (member : word ∈ digitGroup radix) :=
    And.intro (digitGroup_head member) (digitGroup_last member)
  induction taken with
  | unprefixed | noSeparator | noDigits | noExponent => exact .inl ⟨rfl, rfl⟩
  | letteredPrefix known =>
    exact .inr ⟨⟨'0', by simp [opens], rfl⟩, _, List.mem_cons_of_mem _ known, rfl⟩
  | barePrefix => exact .inr ⟨⟨'0', by simp [opens], rfl⟩, '0', by simp [closes], rfl⟩
  | separator => exact .inr ⟨⟨'_', by simp [opens], rfl⟩, '_', by simp [closes], rfl⟩
  | digits member => exact .inr (by simpa [opens, closes] using group member)
  | maybeDigits taken ih => exact .inr (ih.resolve_left (by simp [mayTakeNothing]))
  | integer member =>
    exact .inr (by simpa [opens, closes] using group (mem_decimalInteger.1 member).1)
  | point => exact .inr ⟨⟨'.', by simp [opens], rfl⟩, '.', by simp [closes], rfl⟩
  | unsignedExponent known member =>
    obtain ⟨last, isDigit, same⟩ := digitGroup_last member
    exact .inr ⟨⟨_, known, rfl⟩, last, isDigit, by simp [List.getLast?_cons, same]⟩
  | signedExponent sign known member =>
    obtain ⟨last, isDigit, same⟩ := digitGroup_last member
    exact .inr ⟨⟨_, known, rfl⟩, last, isDigit, by simp [List.getLast?_cons, same]⟩
  | maybeExponent taken ih => exact .inr (ih.resolve_left (by simp [mayTakeNothing]))

theorem Step.Takes.chars {form : Form} {step : Step} {pieces : List Piece}
    (taken : step.Takes form pieces) : ∀ c ∈ written pieces, c ∈ step.alphabet form := by
  have group {radix : Radix} {word : Text} (member : word ∈ digitGroup radix) :
      ∀ c ∈ word, c = '_' ∨ c ∈ radix.digits :=
    fun c inside => (digitGroup_chars member c inside).symm.imp And.right id
  induction taken with
  | unprefixed | noSeparator | noDigits | noExponent => simp
  | letteredPrefix known => simp [alphabet, known]
  | barePrefix => simp [alphabet]
  | separator => simp [alphabet]
  | digits member => simpa [alphabet] using group member
  | maybeDigits _ ih | maybeExponent _ ih => exact ih
  | integer member => simpa [alphabet] using group (mem_decimalInteger.1 member).1
  | point => simp [alphabet]
  | unsignedExponent known member =>
    intro c inside
    obtain rfl | digits : c = _ ∨ c ∈ _ := by simpa using inside
    next => simp [alphabet, known]
    next => obtain rfl | isDigit := group member c digits <;> simp [alphabet, *]
  | signedExponent sign known member =>
    intro c inside
    obtain rfl | rfl | digits : c = _ ∨ c = _ ∨ c ∈ _ := by simpa using inside
    next => simp [alphabet, known]
    next => cases sign <;> simp [alphabet, Sign.char]
    next => obtain rfl | isDigit := group member c digits <;> simp [alphabet, *]

-- A step that takes nothing is looked through.
theorem head_mem_ahead {form : Form} {steps : List Step} {pieces : List Piece}
    (taken : TakesAll form steps pieces) (imaginary : Bool) :
    (written pieces ++ written (unit imaginary)).head? ∈ ahead form steps := by
  induction taken with
  | nil => cases imaginary <;> simp [unit, ahead]
  | cons first rest ih =>
    rcases first.ends with ⟨skips, nothing⟩ | ⟨⟨c, opens, head⟩, -⟩
    next =>
      simp only [written_append, nothing, List.nil_append, ahead, skips, if_true]
      exact List.mem_append_right _ ih
    next => simp [ahead, head, opens]

theorem mem_alphabet {form : Form} {steps : List Step} {pieces : List Piece}
    (taken : TakesAll form steps pieces) (imaginary : Bool) :
    ∀ c ∈ written pieces ++ written (unit imaginary), c ∈ alphabet form steps := by
  induction taken with
  | nil => cases imaginary <;> simp [unit, alphabet]
  | cons first rest ih =>
    intro c inside
    obtain early | late : c ∈ written _ ∨ c ∈ written _ ++ written (unit imaginary) := by
      simpa using inside
    next => simp [alphabet, first.chars c early]
    next =>
      have := ih c late
      simp only [alphabet, List.flatMap_cons, List.mem_append] at this ⊢
      exact this.imp .inr id

end Numeral.Grammar
