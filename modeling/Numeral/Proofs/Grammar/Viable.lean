import Numeral.Proofs.Grammar.Acceptance
import Numeral.Proofs.Grammar.Wants

set_option autoImplicit false

namespace Numeral.Grammar

def Viable (chars : Text) : Prop :=
  ∃ form imaginary word, Spells form imaginary word ∧ chars <+: word

def Step.isPossible (form : Form) : Step → Bool
  | radixPrefix => !form.radix.prefixLetters.isEmpty
  | exponent => !form.radix.exponentMarkers.isEmpty
  | _ => true

/-- Zero is a digit of every radix. -/
def mayStartWithZero : List Step → Bool
  | .digits :: _ | .integer :: _ => true
  | _ => false

def arePossible (form : Form) : List Step → Bool
  | [] => true
  | step :: steps =>
    step.isPossible form && (step ≠ .unprefixed || mayStartWithZero steps) && arePossible form steps

theorem productions_possible :
    ∀ production ∈ productions, arePossible production.form production.steps = true := by
  decide +kernel

section

variable {form : Form}

theorem zero_mem_digitGroup (radix : Radix) : ['0'] ∈ digitGroup radix :=
  mem_digitGroup.2 ⟨'0', by cases radix <;> decide, [], Language.nil_mem_kstar _, rfl⟩

theorem zero_mem_decimalInteger : ['0'] ∈ decimalInteger :=
  mem_decimalInteger.2 ⟨zero_mem_digitGroup .decimal, by simp⟩

theorem Step.exists_takes {step : Step} (possible : step.isPossible form = true) :
    ∃ pieces, step.Takes form pieces := by
  cases step with
  | unprefixed => exact ⟨_, .unprefixed⟩
  | radixPrefix =>
    obtain ⟨letter, known⟩ := List.exists_mem_of_ne_nil form.radix.prefixLetters
      (by simpa [isPossible] using possible)
    exact ⟨_, .letteredPrefix known⟩
  | prefixSeparator => exact ⟨_, .noSeparator⟩
  | digits => exact ⟨_, .digits (zero_mem_digitGroup _)⟩
  | maybeDigits => exact ⟨_, .noDigits⟩
  | integer => exact ⟨_, .integer zero_mem_decimalInteger⟩
  | point => exact ⟨_, .point⟩
  | exponent =>
    obtain ⟨marker, known⟩ := List.exists_mem_of_ne_nil form.radix.exponentMarkers
      (by simpa [isPossible] using possible)
    exact ⟨_, .unsignedExponent known (zero_mem_digitGroup _)⟩
  | maybeExponent => exact ⟨_, .noExponent⟩

theorem exists_takesAll {steps : List Step} (possible : arePossible form steps = true) :
    ∃ pieces, TakesAll form steps pieces := by
  induction steps with
  | nil => exact ⟨_, .nil⟩
  | cons step steps ih =>
    simp only [arePossible, Bool.and_eq_true] at possible
    obtain ⟨front, first⟩ := Step.exists_takes possible.1.1
    obtain ⟨back, rest⟩ := ih possible.2
    exact ⟨_, .cons first rest⟩

theorem exists_takesAll_zero {steps : List Step} (starts : mayStartWithZero steps = true)
    (possible : arePossible form steps = true) :
    ∃ pieces, TakesAll form steps pieces ∧ ['0'] <+: written pieces := by
  unfold mayStartWithZero at starts
  split at starts
  next steps =>
    simp only [arePossible, Bool.and_eq_true] at possible
    obtain ⟨back, rest⟩ := exists_takesAll possible.2
    exact ⟨_, .cons (.digits (zero_mem_digitGroup _)) rest, by simp⟩
  next steps =>
    simp only [arePossible, Bool.and_eq_true] at possible
    obtain ⟨back, rest⟩ := exists_takesAll possible.2
    exact ⟨_, .cons (.integer zero_mem_decimalInteger) rest, by simp⟩
  next => simp at starts

/-- What a step may have read when it is stuck: the beginning of what it takes, or the zero that
has to come without a letter. -/
def Step.MayRead (form : Form) (step : Step) (more : Text) : Prop :=
  (∃ pieces, step.Takes form pieces ∧ more <+: written pieces) ∨
    step = .unprefixed ∧ more = ['0']

theorem Step.Wants.mayRead {step : Step} {more : Text} {want : Want}
    (stuck : step.Wants form more want) (possible : step.isPossible form = true) :
    step.MayRead form more := by
  have nothing : step.MayRead form [] := by
    obtain ⟨pieces, taken⟩ := exists_takes possible
    exact .inl ⟨pieces, taken, List.nil_prefix⟩
  cases stuck with
  | start | noZero | digits | integer | point | marker => exact nothing
  | lettered => exact .inr ⟨rfl, rfl⟩
  | noLetter =>
    obtain ⟨letter, known⟩ := List.exists_mem_of_ne_nil form.radix.prefixLetters
      (by simpa [isPossible] using possible)
    exact .inl ⟨_, .letteredPrefix known, by simp⟩
  | maybeDigits stuck =>
    cases stuck
    exact nothing
  | leadingZero => exact .inl ⟨_, .integer zero_mem_decimalInteger, by simp⟩
  | unsignedDigits known =>
    exact .inl ⟨_, .unsignedExponent known (zero_mem_digitGroup _), by simp⟩
  | signedDigits sign known =>
    exact .inl ⟨_, .signedExponent sign known (zero_mem_digitGroup _), by simp⟩
  | maybeExponent stuck =>
    cases stuck with
    | marker => exact nothing
    | unsignedDigits known =>
      exact .inl ⟨_, .maybeExponent (.unsignedExponent known (zero_mem_digitGroup _)), by simp⟩
    | signedDigits sign known =>
      exact .inl ⟨_, .maybeExponent (.signedExponent sign known (zero_mem_digitGroup _)), by simp⟩

def MayRead (form : Form) (steps : List Step) (more : Text) : Prop :=
  ∃ pieces imaginary, TakesAll form steps pieces ∧
    more <+: written pieces ++ written (unit imaginary)

theorem MayRead.here {step : Step} {steps : List Step} {pieces : List Piece} {more : Text}
    (taken : step.Takes form pieces) (possible : arePossible form steps = true)
    (part : more <+: written pieces) : MayRead form (step :: steps) more := by
  obtain ⟨back, rest⟩ := exists_takesAll possible
  refine ⟨_, false, .cons taken rest, ?_⟩
  rw [written_append, List.append_assoc]
  exact part.trans (List.prefix_append _ _)

theorem MayRead.later {step : Step} {steps : List Step} {pieces : List Piece} {more : Text}
    (taken : step.Takes form pieces) (rest : MayRead form steps more) :
    MayRead form (step :: steps) (written pieces ++ more) := by
  obtain ⟨back, imaginary, onward, part⟩ := rest
  refine ⟨_, imaginary, .cons taken onward, ?_⟩
  rw [written_append, List.append_assoc]
  exact (List.prefix_append_right_inj _).2 part

theorem Wants.mayRead {steps : List Step} {more : Text} {want : Want}
    (stuck : Wants form steps more want) (possible : arePossible form steps = true) :
    MayRead form steps more := by
  induction stuck with
  | here stuck =>
    simp only [arePossible, Bool.and_eq_true, Bool.or_eq_true, decide_eq_true_eq] at possible
    obtain ⟨⟨now, zero⟩, later⟩ := possible
    rcases stuck.mayRead now with ⟨pieces, taken, part⟩ | ⟨rfl, rfl⟩
    next => exact .here taken later part
    next =>
      obtain ⟨back, rest, part⟩ := exists_takesAll_zero (zero.resolve_left (by simp)) later
      exact ⟨_, false, .cons .unprefixed rest, part.trans (List.prefix_append _ _)⟩
  | later taken _ ih =>
    simp only [arePossible, Bool.and_eq_true] at possible
    exact (ih possible.2).later taken
  | finish imaginary => exact ⟨[], imaginary, .nil, List.prefix_refl _⟩

theorem exists_miss_ahead {wordAfter : Bool} {steps : List Step} {cursor : Cursor}
    (failed : (complete form wordAfter steps cursor).result = none) :
    ∃ miss ∈ (complete form wordAfter steps cursor).misses,
      cursor.read.length ≤ miss.read.length := by
  obtain ⟨miss, member⟩ := List.exists_mem_of_ne_nil _ (complete_blames steps failed)
  obtain ⟨-, more, read, -⟩ := complete_misses steps miss member
  exact ⟨miss, member, by simp [read]⟩

end

theorem Production.spells {production : Production} (known : production ∈ productions)
    {pieces : List Piece} (imaginary : Bool)
    (taken : TakesAll production.form production.steps pieces) :
    Spells production.form imaginary (written pieces ++ written (unit imaginary)) :=
  spells_iff_derives.2 ⟨production, mem_productionsOf.2 ⟨rfl, known⟩, _,
    ⟨pieces, taken, rfl⟩, written_append _ _⟩

theorem Production.parse_viable {production : Production} (known : production ∈ productions)
    (chars : Text) (wordAfter : Bool) :
    (production.parse chars wordAfter).Every fun miss => Viable miss.read := by
  intro miss member
  obtain ⟨-, stuck⟩ := production.parse_misses chars wordAfter miss member
  obtain ⟨pieces, imaginary, taken, part⟩ := stuck.mayRead (productions_possible production known)
  exact ⟨_, imaginary, _, production.spells known imaginary taken, part⟩

theorem parse_viable (chars : Text) (wordAfter : Bool) :
    (parse productions chars wordAfter).Every fun miss => Viable miss.read :=
  Trial.Every.firstOf fun _ known => Production.parse_viable known chars wordAfter

end Numeral.Grammar
