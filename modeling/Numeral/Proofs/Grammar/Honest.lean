import Numeral.Proofs.Grammar.Reach

set_option autoImplicit false

open scoped Computability

namespace Numeral

/-- A numeral could go on with whatever is wanted, or is complete where its end is wanted. -/
def Want.MetBy (begins complete : Text → Prop) (read : Text) : Want → Prop
  | .digit radix => ∀ d ∈ radix.digits, begins (read ++ [d])
  | .exponentDigit => ∀ d ∈ Radix.decimal.digits, begins (read ++ [d])
  | .point => begins (read ++ ['.'])
  | .exponent radix =>
    radix.exponentMarkers ≠ [] ∧ ∀ marker ∈ radix.exponentMarkers, begins (read ++ [marker])
  | .finish => complete read

theorem Want.MetBy.extend {begins complete wider whole : Text → Prop} {read : Text} {want : Want}
    (met : want.MetBy begins complete read) (front : Text)
    (further : ∀ text, begins text → wider (front ++ text))
    (ends : ∀ text, complete text → whole (front ++ text)) :
    want.MetBy wider whole (front ++ read) := by
  cases want with
  | digit radix | exponentDigit =>
    intro d known
    rw [List.append_assoc]
    exact further _ (met d known)
  | point =>
    rw [MetBy, List.append_assoc]
    exact further _ met
  | exponent radix =>
    refine ⟨met.1, fun marker known => ?_⟩
    rw [List.append_assoc]
    exact further _ (met.2 marker known)
  | finish => exact ends _ met

namespace Grammar

def IsNumeral (form : Form) (chars : Text) : Prop :=
  ∃ imaginary, Spells form imaginary chars

def Begins (form : Form) (chars : Text) : Prop :=
  ∃ word, IsNumeral form word ∧ chars <+: word

def MayEnd (form : Form) (steps : List Step) (chars : Text) : Prop :=
  ∃ pieces imaginary,
    TakesAll form steps pieces ∧ chars = written pieces ++ written (unit imaginary)

/-- Whether a step that is stuck wants something that it and the steps behind it could go on
with. -/
def Step.isHonest (form : Form) (steps : List Step) : Step → Bool
  | unprefixed => form.radix = .decimal && steps.head? = some .digits
  | radixPrefix => false
  | integer => steps.isEmpty
  | maybeExponent => !form.radix.exponentMarkers.isEmpty
  | _ => true

def areHonest (form : Form) : List Step → Bool
  | [] => true
  | step :: steps => step.isHonest form steps && areHonest form steps

section

variable {form : Form} {step : Step} {steps : List Step} {more : Text} {want : Want}

theorem Step.Wants.short (stuck : step.Wants form more want)
    (dishonest : step.isHonest form steps = false) : more <+: ['0'] := by
  cases stuck with
  | start | noZero | integer => exact List.nil_prefix
  | lettered | noLetter | leadingZero => exact List.prefix_refl _
  | digits | maybeDigits | point | marker | unsignedDigits | signedDigits =>
    exact absurd dishonest (by simp [isHonest])
  | maybeExponent stuck =>
    have none : form.radix.exponentMarkers = [] := by simpa [isHonest] using dishonest
    cases stuck with
    | marker => exact List.nil_prefix
    | unsignedDigits known | signedDigits _ known => simp [none] at known

theorem digit_mem_digitGroup {radix : Radix} {d : Char} (known : d ∈ radix.digits) :
    [d] ∈ digitGroup radix :=
  mem_digitGroup.2 ⟨d, known, [], Language.nil_mem_kstar _, rfl⟩

theorem zero_digit_mem_digitGroup {radix : Radix} {d : Char} (known : d ∈ radix.digits) :
    ['0', d] ∈ digitGroup radix := by
  have later : [d] ∈ (laterDigit radix)∗ := cons_laterDigits known (Language.nil_mem_kstar _)
  exact mem_digitGroup.2 ⟨'0', by cases radix <;> decide, [d], later, rfl⟩

theorem digit_mem_decimalInteger {d : Char} (known : d ∈ Radix.decimal.digits) :
    [d] ∈ decimalInteger :=
  mem_decimalInteger.2 ⟨digit_mem_digitGroup known, by simp⟩

theorem MayRead.unprefixed {word : Text} (group : word ∈ digitGroup form.radix)
    (next : steps.head? = some .digits) (possible : arePossible form steps = true) :
    MayRead form (.unprefixed :: steps) word := by
  obtain ⟨later, rfl⟩ := List.head?_eq_some_iff.1 next
  simp only [arePossible, Bool.and_eq_true] at possible
  have digits : MayRead form (.digits :: later) word :=
    .here (.digits group) possible.2 (by simp)
  exact digits.later .unprefixed

theorem Step.Wants.exponent_met {begins complete : Text → Prop}
    (stuck : Step.exponent.Wants form more want) (marked : form.radix.exponentMarkers ≠ [])
    (takes : ∀ pieces text, Step.exponent.Takes form pieces → text <+: written pieces →
      begins text) : want.MetBy begins complete more := by
  cases stuck with
  | marker =>
    exact ⟨marked, fun marker known =>
      takes _ _ (.unsignedExponent known (zero_mem_digitGroup _)) (by simp)⟩
  | unsignedDigits known =>
    exact fun d digit =>
      takes _ _ (.unsignedExponent known (digit_mem_digitGroup digit)) (by simp)
  | signedDigits sign known =>
    exact fun d digit =>
      takes _ _ (.signedExponent sign known (digit_mem_digitGroup digit)) (by simp)

theorem Wants.met_here (stuck : step.Wants form more want)
    (possible : arePossible form (step :: steps) = true)
    (honest : step.isHonest form steps = true) :
    want.MetBy (MayRead form (step :: steps)) (MayEnd form (step :: steps)) more := by
  simp only [arePossible, Bool.and_eq_true] at possible
  obtain ⟨⟨now, -⟩, later⟩ := possible
  have takes (pieces : List Piece) (text : Text) (taken : step.Takes form pieces)
      (part : text <+: written pieces) : MayRead form (step :: steps) text :=
    .here taken later part
  have marked (exponent : step = .exponent) : form.radix.exponentMarkers ≠ [] := by
    simpa [exponent, Step.isPossible] using now
  cases stuck with
  | start =>
    simp only [Step.isHonest, Bool.and_eq_true, decide_eq_true_eq] at honest
    exact fun d known => .unprefixed (digit_mem_digitGroup (honest.1 ▸ known)) honest.2 later
  | lettered =>
    simp only [Step.isHonest, Bool.and_eq_true, decide_eq_true_eq] at honest
    exact fun d known => .unprefixed (zero_digit_mem_digitGroup (honest.1 ▸ known)) honest.2 later
  | noZero | noLetter => simp [Step.isHonest] at honest
  | digits => exact fun d known => takes _ _ (.digits (digit_mem_digitGroup known)) (by simp)
  | maybeDigits stuck =>
    cases stuck
    exact fun d known => takes _ _ (.maybeDigits (.digits (digit_mem_digitGroup known))) (by simp)
  | integer => exact fun d known => takes _ _ (.integer (digit_mem_decimalInteger known)) (by simp)
  | leadingZero =>
    obtain rfl : steps = [] := by simpa [Step.isHonest] using honest
    exact ⟨_, false, .cons (.integer zero_mem_decimalInteger) .nil, rfl⟩
  | point => exact takes _ _ .point (by simp)
  | marker => exact Step.Wants.marker.exponent_met (marked rfl) takes
  | unsignedDigits known => exact (Step.Wants.unsignedDigits known).exponent_met (marked rfl) takes
  | signedDigits sign known =>
    exact (Step.Wants.signedDigits sign known).exponent_met (marked rfl) takes
  | maybeExponent stuck =>
    have marked : form.radix.exponentMarkers ≠ [] := by simpa [Step.isHonest] using honest
    exact stuck.exponent_met marked fun pieces text taken =>
      takes pieces text (.maybeExponent taken)

theorem Wants.met_later {pieces : List Piece} (taken : step.Takes form pieces)
    (met : want.MetBy (MayRead form steps) (MayEnd form steps) more) :
    want.MetBy (MayRead form (step :: steps)) (MayEnd form (step :: steps))
      (written pieces ++ more) := by
  refine met.extend _ (fun text rest => rest.later taken) ?_
  rintro _ ⟨back, imaginary, onward, rfl⟩
  exact ⟨_, imaginary, .cons taken onward, by rw [written_append, List.append_assoc]⟩

theorem Wants.met (stuck : Wants form steps more want) (possible : arePossible form steps = true)
    (honest : areHonest form steps = true) :
    want.MetBy (MayRead form steps) (MayEnd form steps) more := by
  induction stuck with
  | here stuck => exact met_here stuck possible (Bool.and_eq_true_iff.1 honest).1
  | later taken _ ih =>
    simp only [arePossible, Bool.and_eq_true] at possible
    exact met_later taken (ih possible.2 (Bool.and_eq_true_iff.1 honest).2)
  | finish imaginary => exact ⟨[], imaginary, .nil, rfl⟩

/-- Only the first step may be dishonest, and then it has read next to nothing. -/
theorem Wants.met_or_short (stuck : Wants form steps more want)
    (possible : arePossible form steps = true) (honest : areHonest form steps.tail = true) :
    want.MetBy (MayRead form steps) (MayEnd form steps) more ∨ more <+: ['0'] := by
  cases stuck with
  | @here step steps _ _ stuck =>
    cases same : step.isHonest form steps with
    | true => exact .inl (met_here stuck possible same)
    | false => exact .inr (stuck.short same)
  | later taken stuck =>
    simp only [arePossible, Bool.and_eq_true] at possible
    exact .inl (met_later taken (stuck.met possible.2 honest))
  | finish imaginary => exact .inl ⟨[], imaginary, .nil, rfl⟩

end

theorem productions_honest : ∀ production ∈ productions,
    areHonest production.form production.steps.tail = true := by
  decide +kernel

theorem Production.met {production : Production} (known : production ∈ productions) {more : Text}
    {want : Want}
    (met : want.MetBy (MayRead production.form production.steps)
      (MayEnd production.form production.steps) more) :
    want.MetBy (Begins production.form) (IsNumeral production.form) more := by
  refine met.extend [] ?_ ?_
  next =>
    rintro text ⟨pieces, imaginary, taken, part⟩
    exact ⟨_, ⟨imaginary, production.spells known imaginary taken⟩, part⟩
  next =>
    rintro _ ⟨pieces, imaginary, taken, rfl⟩
    exact ⟨imaginary, production.spells known imaginary taken⟩

def firstProduction : Production :=
  ⟨.decimalFloat, [.unprefixed, .digits, .point, .maybeDigits, .maybeExponent]⟩

theorem firstProduction_known : firstProduction ∈ productions := List.mem_cons_self

theorem firstProduction_honest :
    areHonest firstProduction.form firstProduction.steps = true := by
  decide

variable {wordAfter : Bool} {chars : Text}

theorem firstProduction_near {front : Text} (short : front <+: ['0']) (ahead : front <+: chars)
    (failed : (firstProduction.parse chars wordAfter).result = none) :
    ∃ miss ∈ (firstProduction.parse chars wordAfter).misses,
      front.length ≤ miss.read.length := by
  obtain ⟨rest, rfl⟩ := ahead
  have possible := productions_possible _ firstProduction_known
  obtain ⟨pieces, taken, zero⟩ :=
    exists_takesAll_zero rfl (Bool.and_eq_true_iff.1 possible).2
  have part : front <+: written ([] ++ pieces) ++ written (unit false) := by
    simpa [unit] using short.trans zero
  obtain ⟨miss, member, near⟩ :=
    complete_near (productions_predictable _ firstProduction_known) (.cons .unprefixed taken) false
      (List.mem_singleton_self none) part failed
  refine ⟨miss, member, near.resolve_right ?_⟩
  rintro ⟨-, last⟩
  -- a zero is neither a separator nor a point
  rcases List.prefix_cons_iff.1 short with rfl | ⟨none, rfl, empty⟩
  next => simp at last
  next =>
    obtain rfl := List.prefix_nil.1 empty
    exact absurd last (by decide)

theorem furthest_met {miss : Miss} (failed : (parse productions chars wordAfter).result = none)
    (furthest : Miss.furthest (parse productions chars wordAfter).misses = some miss) :
    miss.want.MetBy (Begins miss.form) (IsNumeral miss.form) miss.read := by
  have each (production : Production) (known : production ∈ productions) :
      (production.parse chars wordAfter).Every fun miss =>
        miss.want.MetBy (Begins miss.form) (IsNumeral miss.form) miss.read ∨
          miss.read <+: ['0'] := by
    intro miss member
    obtain ⟨same, stuck⟩ := production.parse_misses chars wordAfter miss member
    rw [same]
    exact (stuck.met_or_short (productions_possible _ known)
      (productions_honest _ known)).imp_left (production.met known)
  have ahead : miss.read <+: chars :=
    parse_within productions chars wordAfter miss (Miss.furthest_mem furthest)
  obtain ⟨others, listed⟩ : ∃ others, productions = firstProduction :: others := ⟨_, rfl⟩
  have later : (parse others chars wordAfter).Every _ := Trial.Every.firstOf fun production known =>
    each production (listed ▸ List.mem_cons_of_mem _ known)
  rw [listed, parse, Trial.firstOf, Trial.result_orElse, Option.or_eq_none_iff] at failed
  rw [listed, parse, Trial.firstOf, Trial.orElse, failed.1] at furthest
  rcases Miss.furthest_append furthest with early | ⟨late, longer⟩
  next =>
    obtain ⟨same, stuck⟩ := firstProduction.parse_misses chars wordAfter miss early
    rw [same]
    exact Production.met firstProduction_known
      (stuck.met (productions_possible _ firstProduction_known) firstProduction_honest)
  next =>
    -- with a zero at most read here, the first production has read as much, and ties are its
    refine (later miss late).resolve_right fun short => ?_
    obtain ⟨other, member, further⟩ := firstProduction_near short ahead failed.1
    exact absurd (longer other member) (Nat.not_lt.2 further)

end Grammar

end Numeral
