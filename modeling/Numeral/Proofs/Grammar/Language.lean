import Mathlib.Computability.Language
import Numeral.Form
import Numeral.Text

set_option autoImplicit false

open scoped Computability

namespace Numeral

def Radix.digits : Radix → List Char
  | .binary => ['0', '1']
  | .octal => ['0', '1', '2', '3', '4', '5', '6', '7']
  | .decimal => ['0', '1', '2', '3', '4', '5', '6', '7', '8', '9']
  | .hexadecimal =>
    ['0', '1', '2', '3', '4', '5', '6', '7', '8', '9',
     'a', 'b', 'c', 'd', 'e', 'f', 'A', 'B', 'C', 'D', 'E', 'F']

theorem Radix.isDigit_iff (radix : Radix) (c : Char) :
    radix.isDigit c = true ↔ c ∈ radix.digits := by
  have code (d : Char) : c = d ↔ c.toNat = d.toNat := Char.toNat_inj.symm
  have above (d : Char) : d ≤ c ↔ d.toNat ≤ c.toNat := Iff.rfl
  have below (d : Char) : c ≤ d ↔ c.toNat ≤ d.toNat := Iff.rfl
  cases radix <;>
    simp [isDigit, digits, code, above, below] <;> omega

theorem Radix.isDigit_eq (radix : Radix) : radix.isDigit = fun c => decide (c ∈ radix.digits) := by
  funext c
  rw [Bool.eq_iff_iff, isDigit_iff, decide_eq_true_eq]

namespace Grammar

def oneOf (chars : List Char) : Language Char :=
  {word | ∃ c ∈ chars, word = [c]}

def optional (words : Language Char) : Language Char :=
  1 + words

def digit (radix : Radix) : Language Char :=
  oneOf radix.digits

-- a digit after the first may have an underscore before it, though not in octal
def laterDigit : Radix → Language Char
  | .octal => digit .octal
  | radix => optional (oneOf ['_']) * digit radix

def digitGroup (radix : Radix) : Language Char :=
  digit radix * (laterDigit radix)∗

def exponent (markers : List Char) : Language Char :=
  oneOf markers * optional (oneOf ['+', '-']) * digitGroup .decimal

def decimalInteger : Language Char :=
  oneOf ['0'] + oneOf ['1', '2', '3', '4', '5', '6', '7', '8', '9'] * (laterDigit .decimal)∗

def language : Form → Language Char
  | .decimalFloat =>
    digitGroup .decimal * oneOf ['.'] * optional (digitGroup .decimal) *
        optional (exponent ['e', 'E']) +
      digitGroup .decimal * exponent ['e', 'E'] +
      oneOf ['.'] * digitGroup .decimal * optional (exponent ['e', 'E'])
  | .hexFloat =>
    oneOf ['0'] * oneOf ['x', 'X'] * optional (oneOf ['_']) * digitGroup .hexadecimal *
        oneOf ['.'] * optional (digitGroup .hexadecimal) * exponent ['p', 'P'] +
      oneOf ['0'] * oneOf ['x', 'X'] * optional (oneOf ['_']) * digitGroup .hexadecimal *
        exponent ['p', 'P'] +
      oneOf ['0'] * oneOf ['x', 'X'] * oneOf ['.'] * digitGroup .hexadecimal *
        exponent ['p', 'P']
  | .decimalInt => decimalInteger
  | .binaryInt =>
    oneOf ['0'] * oneOf ['b', 'B'] * optional (oneOf ['_']) * digitGroup .binary
  | .octalInt =>
    oneOf ['0'] * optional (oneOf ['o', 'O']) * optional (oneOf ['_']) * digitGroup .octal
  | .hexInt =>
    oneOf ['0'] * oneOf ['x', 'X'] * optional (oneOf ['_']) * digitGroup .hexadecimal

theorem mem_oneOf {chars : List Char} {word : Text} :
    word ∈ oneOf chars ↔ ∃ c ∈ chars, word = [c] := Iff.rfl

theorem mem_optional {words : Language Char} {word : Text} :
    word ∈ optional words ↔ word = [] ∨ word ∈ words := Iff.rfl

theorem mem_laterDigit {radix : Radix} {word : Text} :
    word ∈ laterDigit radix ↔
      ∃ d ∈ radix.digits, word = [d] ∨ (radix.hasSeparators = true ∧ word = ['_', d]) := by
  have separable (radix : Radix) : word ∈ optional (oneOf ['_']) * digit radix ↔
      ∃ d ∈ radix.digits, word = [d] ∨ word = ['_', d] := by
    simp only [digit, Language.mem_mul, mem_optional, mem_oneOf]
    constructor
    next =>
      rintro ⟨_, rfl | ⟨c, isSeparator, rfl⟩, _, ⟨d, isDigit, rfl⟩, rfl⟩
      next => exact ⟨d, isDigit, .inl rfl⟩
      next =>
        obtain rfl : c = '_' := by simpa using isSeparator
        exact ⟨d, isDigit, .inr rfl⟩
    next =>
      rintro ⟨d, isDigit, rfl | rfl⟩
      next => exact ⟨[], .inl rfl, [d], ⟨d, isDigit, rfl⟩, rfl⟩
      next => exact ⟨['_'], .inr ⟨'_', by simp, rfl⟩, [d], ⟨d, isDigit, rfl⟩, rfl⟩
  cases radix with
  | octal => simp [laterDigit, digit, mem_oneOf, Radix.hasSeparators]
  | binary | decimal | hexadecimal =>
    simpa only [laterDigit, Radix.hasSeparators, true_and] using separable _

theorem cons_laterDigits {radix : Radix} {d : Char} {rest : Text} (isDigit : d ∈ radix.digits)
    (later : rest ∈ (laterDigit radix)∗) : d :: rest ∈ (laterDigit radix)∗ := by
  rw [← Language.one_add_self_mul_kstar_eq_kstar]
  exact .inr ⟨[d], mem_laterDigit.2 ⟨d, isDigit, .inl rfl⟩, rest, later, rfl⟩

theorem separated_laterDigits {radix : Radix} {d : Char} {rest : Text}
    (separators : radix.hasSeparators = true) (isDigit : d ∈ radix.digits)
    (later : rest ∈ (laterDigit radix)∗) : '_' :: d :: rest ∈ (laterDigit radix)∗ := by
  rw [← Language.one_add_self_mul_kstar_eq_kstar]
  exact .inr ⟨['_', d], mem_laterDigit.2 ⟨d, isDigit, .inr ⟨separators, rfl⟩⟩, rest, later, rfl⟩

theorem laterDigits_induction {radix : Radix}
    {motive : (word : Text) → word ∈ (laterDigit radix)∗ → Prop}
    (nil : motive [] (Language.nil_mem_kstar _))
    (digit : ∀ d rest (isDigit : d ∈ radix.digits) (later : rest ∈ (laterDigit radix)∗),
      motive rest later → motive (d :: rest) (cons_laterDigits isDigit later))
    (separated : ∀ d rest (separators : radix.hasSeparators = true) (isDigit : d ∈ radix.digits)
      (later : rest ∈ (laterDigit radix)∗), motive rest later →
        motive ('_' :: d :: rest) (separated_laterDigits separators isDigit later))
    (word : Text) (later : word ∈ (laterDigit radix)∗) : motive word later := by
  obtain ⟨blocks, rfl, each⟩ := later
  induction blocks with
  | nil => exact nil
  | cons block blocks ih =>
    have inner : ∀ other ∈ blocks, other ∈ laterDigit radix :=
      fun other member => each other (List.mem_cons_of_mem _ member)
    obtain ⟨d, isDigit, rfl | ⟨separators, rfl⟩⟩ := mem_laterDigit.1 (each block List.mem_cons_self)
    next => exact digit d _ isDigit _ (ih inner)
    next => exact separated d _ separators isDigit _ (ih inner)

theorem mem_digitGroup {radix : Radix} {word : Text} :
    word ∈ digitGroup radix ↔
      ∃ d ∈ radix.digits, ∃ later ∈ (laterDigit radix)∗, word = d :: later := by
  simp only [digitGroup, digit, Language.mem_mul, mem_oneOf]
  constructor
  next =>
    rintro ⟨_, ⟨d, isDigit, rfl⟩, later, member, rfl⟩
    exact ⟨d, isDigit, later, member, rfl⟩
  next =>
    rintro ⟨d, isDigit, later, member, rfl⟩
    exact ⟨[d], ⟨d, isDigit, rfl⟩, later, member, rfl⟩

theorem mem_decimalInteger {word : Text} :
    word ∈ decimalInteger ↔
      word ∈ digitGroup .decimal ∧ ∀ second rest, word ≠ '0' :: second :: rest := by
  constructor
  next =>
    rintro (⟨zero, isZero, rfl⟩ | ⟨_, ⟨first, nonzero, rfl⟩, later, member, rfl⟩)
    next =>
      obtain rfl : zero = '0' := by simpa using isZero
      exact ⟨mem_digitGroup.2 ⟨'0', by decide, [], Language.nil_mem_kstar _, rfl⟩, by simp⟩
    next =>
      refine ⟨mem_digitGroup.2 ⟨first, List.mem_cons_of_mem _ nonzero, later, member, rfl⟩, ?_⟩
      rintro second rest same
      obtain rfl : first = '0' := (List.cons.inj same).1
      exact absurd nonzero (by decide)
  next =>
    rintro ⟨group, noLeadingZero⟩
    obtain ⟨first, isDigit, later, member, rfl⟩ := mem_digitGroup.1 group
    rcases List.mem_cons.1 isDigit with rfl | nonzero
    next =>
      cases later with
      | nil => exact .inl ⟨'0', by simp, rfl⟩
      | cons second rest => exact absurd rfl (noLeadingZero second rest)
    next => exact .inr ⟨[first], ⟨first, nonzero, rfl⟩, later, member, rfl⟩

end Grammar

end Numeral
