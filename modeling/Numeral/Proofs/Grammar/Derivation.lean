import Numeral.Grammar.Production
import Numeral.Proofs.Grammar.Language

set_option autoImplicit false

open scoped Computability

namespace Numeral.Grammar

def written (pieces : List Piece) : Text :=
  pieces.flatMap Piece.chars

@[simp] theorem written_nil : written [] = [] := rfl

@[simp] theorem written_cons (piece : Piece) (pieces : List Piece) :
    written (piece :: pieces) = piece.chars ++ written pieces := by
  simp [written]

@[simp] theorem written_append (front back : List Piece) :
    written (front ++ back) = written front ++ written back := by
  simp [written]

inductive Step.Takes (form : Form) : Step → List Piece → Prop where
  | unprefixed : Takes form .unprefixed []
  | letteredPrefix {letter : Char} (known : letter ∈ form.radix.prefixLetters) :
      Takes form .radixPrefix [⟨.radixPrefix form.radix, ['0', letter]⟩]
  | barePrefix (octal : form.radix = .octal) :
      Takes form .radixPrefix [⟨.radixPrefix form.radix, ['0']⟩]
  | noSeparator : Takes form .prefixSeparator []
  | separator : Takes form .prefixSeparator [⟨.separator, ['_']⟩]
  | digits {word : Text} (group : word ∈ digitGroup form.radix) :
      Takes form .digits [⟨.digits form.radix, word⟩]
  | noDigits : Takes form .maybeDigits []
  | maybeDigits {pieces : List Piece} (taken : Takes form .digits pieces) :
      Takes form .maybeDigits pieces
  | integer {word : Text} (integer : word ∈ decimalInteger) :
      Takes form .integer [⟨.digits .decimal, word⟩]
  | point : Takes form .point [⟨.point form.radix, ['.']⟩]
  | unsignedExponent {marker : Char} {word : Text}
      (known : marker ∈ form.radix.exponentMarkers) (group : word ∈ digitGroup .decimal) :
      Takes form .exponent
        [⟨.exponentMarker form.radix, [marker]⟩, ⟨.exponentDigits form.radix, word⟩]
  | signedExponent {marker : Char} {word : Text} (sign : Sign)
      (known : marker ∈ form.radix.exponentMarkers) (group : word ∈ digitGroup .decimal) :
      Takes form .exponent
        [⟨.exponentMarker form.radix, [marker]⟩, ⟨.exponentSign sign form.radix, [sign.char]⟩,
          ⟨.exponentDigits form.radix, word⟩]
  | noExponent : Takes form .maybeExponent []
  | maybeExponent {pieces : List Piece} (taken : Takes form .exponent pieces) :
      Takes form .maybeExponent pieces

inductive TakesAll (form : Form) : List Step → List Piece → Prop where
  | nil : TakesAll form [] []
  | cons {step : Step} {steps : List Step} {front back : List Piece}
      (first : step.Takes form front) (rest : TakesAll form steps back) :
      TakesAll form (step :: steps) (front ++ back)

def unit : Bool → List Piece
  | false => []
  | true => [⟨.imaginary, ['i']⟩]

def Production.Derives (production : Production) (imaginary : Bool) (pieces : List Piece) : Prop :=
  ∃ taken, TakesAll production.form production.steps taken ∧ pieces = taken ++ unit imaginary

def Step.words (form : Form) : Step → Language Char
  | unprefixed => 1
  | radixPrefix =>
    oneOf ['0'] *
      if form.radix = .octal then optional (oneOf form.radix.prefixLetters)
      else oneOf form.radix.prefixLetters
  | prefixSeparator => optional (oneOf ['_'])
  | digits => digitGroup form.radix
  | maybeDigits => optional (digitGroup form.radix)
  | integer => decimalInteger
  | point => oneOf ['.']
  | exponent => Grammar.exponent form.radix.exponentMarkers
  | maybeExponent => optional (Grammar.exponent form.radix.exponentMarkers)

theorem mem_productions {production : Production} :
    production ∈ productions ↔ production.steps ∈ alternatives production.form := by
  obtain ⟨form, steps⟩ := production
  cases form <;>
    simp [productions, productionsOf, Form.precedence, alternatives]

theorem mem_productionsOf {form : Form} {production : Production} :
    production ∈ productionsOf form ↔ production.form = form ∧ production ∈ productions := by
  rw [mem_productions]
  obtain ⟨other, steps⟩ := production
  simp only [productionsOf, List.mem_map, Production.mk.injEq]
  constructor
  next =>
    rintro ⟨steps, known, rfl, rfl⟩
    exact ⟨rfl, known⟩
  next =>
    rintro ⟨rfl, known⟩
    exact ⟨steps, known, rfl, rfl⟩

theorem mem_exponent {markers : List Char} {word : Text} :
    word ∈ exponent markers ↔
      ∃ marker ∈ markers, ∃ group ∈ digitGroup .decimal,
        word = marker :: group ∨ ∃ sign : Sign, word = marker :: sign.char :: group := by
  simp only [exponent, Language.mem_mul, mem_optional, mem_oneOf]
  constructor
  next =>
    rintro ⟨_, ⟨_, ⟨marker, known, rfl⟩, signs, unsigned | ⟨sign, isSign, signed⟩, rfl⟩,
      group, member, rfl⟩
    next =>
      subst unsigned
      exact ⟨marker, known, group, member, .inl rfl⟩
    next =>
      subst signed
      obtain rfl | rfl : sign = '+' ∨ sign = '-' := by simpa using isSign
      next => exact ⟨marker, known, group, member, .inr ⟨.pos, rfl⟩⟩
      next => exact ⟨marker, known, group, member, .inr ⟨.neg, rfl⟩⟩
  next =>
    rintro ⟨marker, known, group, member, rfl | ⟨sign, rfl⟩⟩
    next =>
      exact ⟨[marker], ⟨[marker], ⟨marker, known, rfl⟩, [], .inl rfl, rfl⟩, group, member, rfl⟩
    next =>
      have isSign : sign.char ∈ ['+', '-'] := by cases sign <;> simp [Sign.char]
      exact ⟨[marker, sign.char],
        ⟨[marker], ⟨marker, known, rfl⟩, [sign.char], .inr ⟨sign.char, isSign, rfl⟩, rfl⟩,
        group, member, rfl⟩

theorem Step.written_mem_words {form : Form} {step : Step} {pieces : List Piece}
    (taken : step.Takes form pieces) : written pieces ∈ step.words form := by
  induction taken with
  | unprefixed => rfl
  | letteredPrefix known =>
    refine Language.append_mem_mul (a := ['0']) ⟨'0', by simp, rfl⟩ ?_
    split
    next => exact .inr ⟨_, known, rfl⟩
    next => exact ⟨_, known, rfl⟩
  | barePrefix octal =>
    refine Language.append_mem_mul (a := ['0']) ⟨'0', by simp, rfl⟩ ?_
    rw [if_pos octal]
    exact .inl rfl
  | noSeparator | noDigits | noExponent => exact .inl rfl
  | separator => exact .inr ⟨'_', by simp, rfl⟩
  | digits group | integer group => simpa [words] using group
  | maybeDigits _ ih | maybeExponent _ ih => exact .inr ih
  | point => exact ⟨'.', by simp, rfl⟩
  | unsignedExponent known group =>
    exact mem_exponent.2 ⟨_, known, _, group, .inl (by simp)⟩
  | signedExponent sign known group =>
    exact mem_exponent.2 ⟨_, known, _, group, .inr ⟨sign, by simp⟩⟩

theorem Step.takes_of_mem_words {form : Form} {step : Step} {word : Text}
    (member : word ∈ step.words form) :
    ∃ pieces, step.Takes form pieces ∧ written pieces = word := by
  -- for the exponent that has to come as well as for the one that may
  have exponents (found : word ∈ Grammar.exponent form.radix.exponentMarkers) :
      ∃ pieces, Step.exponent.Takes form pieces ∧ written pieces = word := by
    obtain ⟨marker, known, group, inside, rfl | ⟨sign, rfl⟩⟩ := mem_exponent.1 found
    next => exact ⟨_, .unsignedExponent known inside, by simp⟩
    next => exact ⟨_, .signedExponent sign known inside, by simp⟩
  cases step with
  | unprefixed => exact ⟨[], .unprefixed, member.symm⟩
  | radixPrefix =>
    obtain ⟨_, ⟨zero, isZero, rfl⟩, letters, found, rfl⟩ := member
    obtain rfl : zero = '0' := by simpa using isZero
    split at found
    next octal =>
      rcases found with rfl | ⟨letter, known, rfl⟩
      next => exact ⟨_, .barePrefix octal, rfl⟩
      next => exact ⟨_, .letteredPrefix known, rfl⟩
    next =>
      obtain ⟨letter, known, rfl⟩ := found
      exact ⟨_, .letteredPrefix known, rfl⟩
  | prefixSeparator =>
    rcases member with rfl | ⟨c, isSeparator, rfl⟩
    next => exact ⟨[], .noSeparator, rfl⟩
    next =>
      obtain rfl : c = '_' := by simpa using isSeparator
      exact ⟨_, .separator, rfl⟩
  | digits => exact ⟨_, .digits member, by simp⟩
  | maybeDigits =>
    rcases member with rfl | group
    next => exact ⟨[], .noDigits, rfl⟩
    next => exact ⟨_, .maybeDigits (.digits group), by simp⟩
  | integer => exact ⟨_, .integer member, by simp⟩
  | point =>
    obtain ⟨c, isPoint, rfl⟩ := member
    obtain rfl : c = '.' := by simpa using isPoint
    exact ⟨_, .point, rfl⟩
  | exponent => exact exponents member
  | maybeExponent =>
    rcases member with rfl | found
    next => exact ⟨[], .noExponent, rfl⟩
    next =>
      obtain ⟨pieces, taken, same⟩ := exponents found
      exact ⟨pieces, .maybeExponent taken, same⟩

theorem mem_prod_words {form : Form} {steps : List Step} {word : Text} :
    word ∈ (steps.map (Step.words form)).prod ↔
      ∃ pieces, TakesAll form steps pieces ∧ written pieces = word := by
  induction steps generalizing word with
  | nil =>
    constructor
    next => exact fun empty => ⟨[], .nil, (Language.mem_one word).1 empty |>.symm⟩
    next =>
      rintro ⟨pieces, taken, rfl⟩
      cases taken
      rfl
  | cons step steps ih =>
    rw [List.map_cons, List.prod_cons, Language.mem_mul]
    constructor
    next =>
      rintro ⟨front, first, back, rest, rfl⟩
      obtain ⟨taken, takes, rfl⟩ := Step.takes_of_mem_words first
      obtain ⟨later, takesAll, rfl⟩ := ih.1 rest
      exact ⟨taken ++ later, .cons takes takesAll, written_append taken later⟩
    next =>
      rintro ⟨pieces, taken, rfl⟩
      cases taken with
      | cons first rest =>
        exact ⟨_, Step.written_mem_words first, _, ih.2 ⟨_, rest, rfl⟩, (written_append _ _).symm⟩

theorem language_eq_sum (form : Form) :
    language form =
      ((alternatives form).map fun steps => (steps.map (Step.words form)).prod).sum := by
  cases form <;>
    simp [language, alternatives, Step.words, Form.radix, Radix.prefixLetters,
      Radix.exponentMarkers, mul_assoc, sup_assoc]

theorem mem_sum {languages : List (Language Char)} {word : Text} :
    word ∈ languages.sum ↔ ∃ words ∈ languages, word ∈ words := by
  induction languages with
  | nil => simp
  | cons words languages ih =>
    rw [List.sum_cons, Language.mem_add, ih]
    simp

theorem mem_language {form : Form} {word : Text} :
    word ∈ language form ↔
      ∃ steps ∈ alternatives form, ∃ pieces,
        TakesAll form steps pieces ∧ written pieces = word := by
  rw [language_eq_sum, mem_sum]
  simp [mem_prod_words]

end Numeral.Grammar
