import Numeral.Proofs.Grammar.Alphabet
import Numeral.Proofs.Grammar.Soundness

/-!
Reading goes strictly forward and never gives back what it took. That loses nothing, since in
every production one character behind and one ahead settle what a step takes.
-/

set_option autoImplicit false

namespace Numeral.Grammar

variable {form : Form} {before : List Piece} {rest : Text}

/-- Whether a step takes just what it should when some character of `behind` was read before it,
one of `next` follows what it should take, and all that follows is from `later`. -/
def Step.isPredictable (form : Form) (behind next : List (Option Char)) (later : List Char) :
    Step → Bool
  | unprefixed =>
    next.all (fun c => c.any fun c => c ∈ Radix.decimal.digits || c == '.') &&
      later.all fun c => c ∉ radixLetters
  | radixPrefix => next.all fun c => c.all (· ∉ form.radix.prefixLetters)
  | prefixSeparator => next.all fun c => c.all (· ≠ '_')
  | digits | maybeDigits => next.all fun c => EndsGroup form.radix c
  | integer => next.all fun c => EndsGroup .decimal c
  | point =>
    behind.all (fun c => c.any (· ∈ form.radix.digits)) ||
      next.all fun c => c.any (· ∈ form.radix.digits)
  | exponent => behind.all (· ≠ some '_') && next.all fun c => EndsGroup .decimal c
  | maybeExponent =>
    behind.all (· ≠ some '_') &&
      next.all fun c => EndsGroup .decimal c && c.all (· ∉ form.radix.exponentMarkers)

theorem Step.isPredictable_later {step : Step} (other : step ≠ .unprefixed)
    (behind next : List (Option Char)) (later rest : List Char) :
    step.isPredictable form behind next later = step.isPredictable form behind next rest := by
  cases step with
  | unprefixed => exact absurd rfl other
  | _ => rfl

def arePredictable (form : Form) : List (Option Char) → List Step → Bool
  | _, [] => true
  | behind, step :: steps =>
    step.isPredictable form behind (ahead form steps) (alphabet form steps) &&
      arePredictable form
        ((step.closes form).map some ++ if step.mayTakeNothing then behind else []) steps

theorem productions_predictable :
    ∀ production ∈ productions, arePredictable production.form [none] production.steps = true := by
  decide +kernel

theorem takeGroup_append {radix : Radix} {tag : Tag} {want : Want} {word : Text}
    (member : word ∈ digitGroup radix) (ends : EndsGroup radix rest.head?) :
    (takeGroup form radix tag want ⟨before, word ++ rest⟩).result =
      some ⟨before ++ [⟨tag, word⟩], rest⟩ := by
  have read := group_append member ends
  obtain ⟨d, -, later, -, rfl⟩ := mem_digitGroup.1 member
  simp only [takeGroup, read]
  simp [Cursor.take]

theorem takeGroup_none {radix : Radix} {tag : Tag} {want : Want}
    (ends : EndsGroup radix rest.head?) :
    (takeGroup form radix tag want ⟨before, rest⟩).result = none := by
  simp [takeGroup, group_nil_of_ends ends, Cursor.miss]

theorem expectUnprefixed_start {c : Char} (start : c ∈ Radix.decimal.digits ∨ c = '.')
    (unlettered : ∀ d ∈ rest, d ∉ radixLetters) :
    (expectUnprefixed form ⟨before, c :: rest⟩).result = some ⟨before, c :: rest⟩ := by
  unfold expectUnprefixed
  split
  next d ds same =>
    obtain rfl := (List.cons.inj same).2
    have known : d ∉ radixLetters := unlettered d List.mem_cons_self
    simp [known]
  next c' rest' _ same =>
    obtain ⟨rfl, rfl⟩ := List.cons.inj same
    have known : (Radix.decimal.isDigit c || c == point) = true := by
      simpa [Radix.isDigit_iff, point] using start
    simp [known]
  next empty => simp at empty

theorem takePrefix_append {pieces : List Piece} (taken : Step.radixPrefix.Takes form pieces)
    (stops : ∀ c, rest.head? = some c → c ∉ form.radix.prefixLetters) :
    (takePrefix form ⟨before, written pieces ++ rest⟩).result = some ⟨before ++ pieces, rest⟩ := by
  unfold takePrefix
  cases taken with
  | letteredPrefix known => simp [prefixLetter?, known, Cursor.take]
  | barePrefix octal =>
    have unlettered : prefixLetter? form.radix rest = none := by
      cases rest with
      | nil => rfl
      | cons c cs => simp [prefixLetter?, stops c rfl]
    rw [octal] at unlettered
    simp [octal, unlettered, Cursor.take]

theorem optional_separator_append {pieces : List Piece}
    (taken : Step.prefixSeparator.Takes form pieces) (stops : rest.head? ≠ some '_') :
    (Trial.optional ⟨before, written pieces ++ rest⟩
      (takeSeparator ⟨before, written pieces ++ rest⟩)).result =
        some ⟨before ++ pieces, rest⟩ := by
  cases taken with
  | noSeparator =>
    cases rest with
    | nil => simp [takeSeparator]
    | cons c cs =>
      have other : c ≠ '_' := by simpa using stops
      simp [takeSeparator, separator, other]
  | separator => simp [takeSeparator, separator, Cursor.take]

theorem takeInteger_append {word : Text} (member : word ∈ decimalInteger)
    (ends : EndsGroup .decimal rest.head?) :
    (takeInteger form ⟨before, word ++ rest⟩).result =
      some ⟨before ++ [⟨.digits .decimal, word⟩], rest⟩ := by
  obtain ⟨digits, noLeadingZero⟩ := mem_decimalInteger.1 member
  unfold takeInteger
  rw [Trial.result_andThen, takeGroup_append digits ends, Option.bind_some,
    group_append digits ends]
  split
  next => exact absurd rfl (noLeadingZero _ _)
  next => rfl

theorem takePoint_append
    (beside : (written before).getLast?.any form.radix.isDigit = true ∨
      startsWithDigit form.radix rest = true) :
    (takePoint form ⟨before, '.' :: rest⟩).result =
      some ⟨before ++ [⟨.point form.radix, ['.']⟩], rest⟩ := by
  have allowed : (Cursor.behind ⟨before, '.' :: rest⟩).any form.radix.isDigit = true ∨
      startsWithDigit form.radix rest = true := beside
  simp [takePoint, point, Cursor.take, allowed]

theorem takeMarker_append {marker : Char} (known : marker ∈ form.radix.exponentMarkers)
    (joined : (written before).getLast? ≠ some '_') :
    (takeMarker form ⟨before, marker :: rest⟩).result =
      some ⟨before ++ [⟨.exponentMarker form.radix, [marker]⟩], rest⟩ := by
  have allowed : Cursor.behind ⟨before, marker :: rest⟩ ≠ some separator := joined
  simp [takeMarker, known, allowed, Cursor.take]

theorem takeSign_digit {d : Char} (isDigit : d ∈ Radix.decimal.digits) :
    takeSign form ⟨before, d :: rest⟩ = ⟨before, d :: rest⟩ := by
  unfold takeSign
  split
  next start =>
    obtain rfl : d = '+' := (List.cons.inj start).1
    exact absurd isDigit (by decide)
  next start =>
    obtain rfl : d = '-' := (List.cons.inj start).1
    exact absurd isDigit (by decide)
  next => rfl

theorem takeSign_digits {word : Text} (member : word ∈ digitGroup .decimal) :
    takeSign form ⟨before, word ++ rest⟩ = ⟨before, word ++ rest⟩ := by
  obtain ⟨d, isDigit, later, -, rfl⟩ := mem_digitGroup.1 member
  exact takeSign_digit isDigit

theorem takeExponent_append {pieces : List Piece} (taken : Step.exponent.Takes form pieces)
    (joined : (written before).getLast? ≠ some '_') (ends : EndsGroup .decimal rest.head?) :
    (takeExponent form ⟨before, written pieces ++ rest⟩).result =
      some ⟨before ++ pieces, rest⟩ := by
  unfold takeExponent
  cases taken with
  | unsignedExponent known member =>
    simp [takeMarker_append known joined, takeSign_digits member, takeGroup_append member ends]
  | signedExponent sign known member =>
    cases sign <;>
      simp [takeMarker_append known joined, takeSign, Sign.char, Cursor.take,
        takeGroup_append member ends]

theorem takeExponent_none
    (stops : ∀ c, rest.head? = some c → c ∉ form.radix.exponentMarkers) :
    (takeExponent form ⟨before, rest⟩).result = none := by
  unfold takeExponent
  cases rest with
  | nil => simp [takeMarker, Cursor.miss]
  | cons c cs => simp [takeMarker, Cursor.miss, stops c rfl]

theorem Step.run_predicted {step : Step} {behind next : List (Option Char)} {later : List Char}
    {pieces : List Piece} (predictable : step.isPredictable form behind next later = true)
    (taken : step.Takes form pieces) (last : (written before).getLast? ∈ behind)
    (first : rest.head? ∈ next) (inside : ∀ c ∈ rest, c ∈ later) :
    (step.run form ⟨before, written pieces ++ rest⟩).result = some ⟨before ++ pieces, rest⟩ := by
  cases step with
  | unprefixed =>
    cases taken
    simp only [isPredictable, Bool.and_eq_true, List.all_eq_true] at predictable
    obtain ⟨starts, unlettered⟩ := predictable
    cases rest with
    | nil => exact absurd (starts none first) (by simp)
    | cons c cs =>
      have start : c ∈ Radix.decimal.digits ∨ c = '.' := by simpa using starts (some c) first
      have known : ∀ d ∈ cs, d ∉ radixLetters := fun d member => by
        simpa using unlettered d (inside d (List.mem_cons_of_mem _ member))
      simp [run, expectUnprefixed_start start known]
  | radixPrefix =>
    refine takePrefix_append taken fun c head => ?_
    simpa [head] using List.all_eq_true.1 predictable _ first
  | prefixSeparator =>
    refine optional_separator_append taken fun head => ?_
    simpa [head] using List.all_eq_true.1 predictable _ first
  | digits =>
    have ends : EndsGroup form.radix rest.head? := by
      simpa using List.all_eq_true.1 predictable _ first
    cases taken with
    | digits member => simp [run, takeDigits, takeGroup_append member ends]
  | maybeDigits =>
    have ends : EndsGroup form.radix rest.head? := by
      simpa using List.all_eq_true.1 predictable _ first
    cases taken with
    | noDigits => simp [run, takeDigits, takeGroup_none ends]
    | maybeDigits taken =>
      cases taken with
      | digits member => simp [run, takeDigits, takeGroup_append member ends]
  | integer =>
    have ends : EndsGroup .decimal rest.head? := by
      simpa using List.all_eq_true.1 predictable _ first
    cases taken with
    | integer member => simp [run, takeInteger_append member ends]
  | point =>
    cases taken
    refine takePoint_append ?_
    simp only [isPredictable, Bool.or_eq_true, List.all_eq_true] at predictable
    -- a digit on either side will do
    refine predictable.imp (fun each => ?_) (fun each => ?_)
    next => exact form.radix.isDigit_eq ▸ each _ last
    next =>
      have digit := each _ first
      cases rest with
      | nil => simp at digit
      | cons c cs => simpa [startsWithDigit, Radix.isDigit_iff] using digit
  | exponent =>
    simp only [isPredictable, Bool.and_eq_true, List.all_eq_true, decide_eq_true_eq] at predictable
    exact takeExponent_append taken (predictable.1 _ last) (predictable.2 _ first)
  | maybeExponent =>
    simp only [isPredictable, Bool.and_eq_true, List.all_eq_true, decide_eq_true_eq] at predictable
    obtain ⟨ends, unmarked⟩ := predictable.2 _ first
    cases taken with
    | noExponent =>
      have none : (takeExponent form ⟨before, rest⟩).result = none :=
        takeExponent_none fun c head => by simpa [head] using unmarked
      simp [run, none]
    | maybeExponent taken =>
      simp [run, takeExponent_append taken (predictable.1 _ last) ends]

theorem Step.Takes.closed {step : Step} {behind : List (Option Char)} {front : List Piece}
    (taken : step.Takes form front) (last : (written before).getLast? ∈ behind) :
    (written (before ++ front)).getLast? ∈
      (step.closes form).map some ++ if step.mayTakeNothing then behind else [] := by
  rcases taken.ends with ⟨skips, nothing⟩ | ⟨-, c, closes, same⟩
  -- a step that took nothing leaves the end of what was read as it was
  next => simp [nothing, skips, last]
  next => simp [same, closes]

theorem runSteps_predicted {steps : List Step} {behind : List (Option Char)} {pieces : List Piece}
    (predictable : arePredictable form behind steps = true) (taken : TakesAll form steps pieces)
    (last : (written before).getLast? ∈ behind) (imaginary : Bool) :
    (runSteps form steps ⟨before, written pieces ++ written (unit imaginary)⟩).result =
      some ⟨before ++ pieces, written (unit imaginary)⟩ := by
  induction taken generalizing before behind with
  | nil => simp [runSteps]
  | @cons step steps front back first rest ih =>
    simp only [arePredictable, Bool.and_eq_true] at predictable
    obtain ⟨now, onwards⟩ := predictable
    have run := Step.run_predicted now first last (head_mem_ahead rest imaginary)
      (mem_alphabet rest imaginary)
    rw [written_append, List.append_assoc, runSteps, Trial.result_andThen, run, Option.bind_some,
      ih onwards (first.closed last), List.append_assoc]

theorem Production.parse_derived {production : Production} {imaginary wordAfter : Bool}
    {pieces : List Piece} (known : production ∈ productions)
    (derived : production.Derives imaginary pieces) (free : imaginary = true → wordAfter = false) :
    (production.parse (written pieces) wordAfter).result =
      some ⟨production.form, imaginary, pieces⟩ := by
  obtain ⟨taken, takesAll, rfl⟩ := derived
  rw [Production.parse, Trial.result_andThen, written_append,
    runSteps_predicted (productions_predictable production known) takesAll (by simp) imaginary,
    Option.bind_some, finish_result]
  cases imaginary with
  | false => simp [unit]
  | true => simp [unit, free rfl]

end Numeral.Grammar
