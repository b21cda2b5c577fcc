import Numeral.Proofs.Grammar.Misses

/-!
Where steps get stuck: how much they have read by then, and what they want there. What can be said
of a miss can be told from this alone, without the rules.
-/

set_option autoImplicit false

namespace Numeral.Grammar

/-- What a step has read when it is stuck, and what it wants then. -/
inductive Step.Wants (form : Form) : Step → Text → Want → Prop where
  | start : Wants form .unprefixed [] (.digit .decimal)
  | lettered : Wants form .unprefixed ['0'] (.digit .decimal)
  | noZero : Wants form .radixPrefix [] (.digit .decimal)
  | noLetter (lettered : form.radix ≠ .octal) :
      Wants form .radixPrefix ['0'] (.digit form.radix)
  | digits : Wants form .digits [] (.digit form.radix)
  | maybeDigits {more : Text} {want : Want} (stuck : Wants form .digits more want) :
      Wants form .maybeDigits more want
  | integer : Wants form .integer [] (.digit .decimal)
  | leadingZero : Wants form .integer ['0'] .finish
  | point : Wants form .point [] .point
  | marker : Wants form .exponent [] (.exponent form.radix)
  | unsignedDigits {marker : Char} (known : marker ∈ form.radix.exponentMarkers) :
      Wants form .exponent [marker] .exponentDigit
  | signedDigits {marker : Char} (sign : Sign) (known : marker ∈ form.radix.exponentMarkers) :
      Wants form .exponent [marker, sign.char] .exponentDigit
  | maybeExponent {more : Text} {want : Want} (stuck : Wants form .exponent more want) :
      Wants form .maybeExponent more want

inductive Wants (form : Form) : List Step → Text → Want → Prop where
  | here {step : Step} {steps : List Step} {more : Text} {want : Want}
      (stuck : step.Wants form more want) : Wants form (step :: steps) more want
  | later {step : Step} {steps : List Step} {pieces : List Piece} {more : Text} {want : Want}
      (taken : step.Takes form pieces) (stuck : Wants form steps more want) :
      Wants form (step :: steps) (written pieces ++ more) want
  | finish (imaginary : Bool) : Wants form [] (written (unit imaginary)) .finish

theorem Step.Wants.ne_finish {form : Form} {step : Step} {more : Text} {want : Want}
    (stuck : step.Wants form more want) (other : step ≠ .integer) : want ≠ .finish := by
  cases stuck with
  | leadingZero => exact absurd rfl other
  | maybeDigits stuck | maybeExponent stuck => cases stuck <;> simp
  | start | lettered | noZero | noLetter | digits | integer | point | marker | unsignedDigits
    | signedDigits => simp

def Cursor.Misses {α : Type} (cursor : Cursor) (form : Form) (good : Text → Want → Prop)
    (trial : Trial α) : Prop :=
  trial.Every fun miss =>
    miss.form = form ∧ ∃ more, miss.read = cursor.read ++ more ∧ good more miss.want

section

variable {form : Form} {cursor next : Cursor} {good better : Text → Want → Prop}

namespace Cursor

variable {α : Type} {trial : Trial α}

theorem miss_misses {more : Text} {want : Want} (allowed : good more want) :
    cursor.Misses form good (cursor.miss form more want : Trial α) := by
  intro miss member
  obtain rfl := List.mem_singleton.1 member
  exact ⟨rfl, more, rfl, allowed⟩

theorem Misses.mono (misses : cursor.Misses form good trial)
    (weaker : ∀ more want, good more want → better more want) :
    cursor.Misses form better trial := by
  intro miss member
  obtain ⟨same, more, read, allowed⟩ := misses miss member
  exact ⟨same, more, read, weaker more _ allowed⟩

theorem Misses.of_moves {pieces : List Piece} (misses : next.Misses form good trial)
    (moves : cursor.Moves pieces next)
    (further : ∀ more want, good more want → better (written pieces ++ more) want) :
    cursor.Misses form better trial := by
  intro miss member
  obtain ⟨same, more, read, allowed⟩ := misses miss member
  exact ⟨same, _, by rw [read, moves.read_eq, List.append_assoc], further more _ allowed⟩

end Cursor

theorem takeGroup_misses {radix : Radix} {tag : Tag} {want : Want} (allowed : good [] want) :
    cursor.Misses form good (takeGroup form radix tag want cursor) := by
  unfold takeGroup
  split
  next => exact Cursor.miss_misses allowed
  next => exact Trial.every_done _

theorem expectUnprefixed_misses :
    cursor.Misses form (Step.unprefixed.Wants form) (expectUnprefixed form cursor) := by
  rw [expectUnprefixed_eq]
  split_ifs
  next => exact Cursor.miss_misses .lettered
  next => exact Trial.every_done _
  next => exact Trial.every_done _
  next => exact Cursor.miss_misses .start

theorem takePrefix_misses :
    cursor.Misses form (Step.radixPrefix.Wants form) (takePrefix form cursor) := by
  unfold takePrefix
  split
  next =>
    split
    next => exact Trial.every_done _
    next =>
      split
      next => exact Trial.every_done _
      next lettered => exact Cursor.miss_misses (.noLetter lettered)
  next => exact Cursor.miss_misses .noZero

theorem takeSeparator_misses : cursor.Misses form good (takeSeparator cursor) := by
  unfold takeSeparator
  split
  next =>
    split
    next => exact Trial.every_done _
    next => exact Trial.every_fail
  next => exact Trial.every_fail

theorem takeInteger_misses :
    cursor.Misses form (Step.integer.Wants form) (takeInteger form cursor) := by
  refine Trial.Every.andThen (takeGroup_misses .integer) fun next _ => ?_
  split
  next => exact Cursor.miss_misses .leadingZero
  next => exact Trial.every_done _

theorem takePoint_misses : cursor.Misses form (Step.point.Wants form) (takePoint form cursor) := by
  unfold takePoint
  split
  next =>
    split
    next => exact Trial.every_done _
    next => exact Cursor.miss_misses .point
  next => exact Cursor.miss_misses .point

theorem takeMarker_misses :
    cursor.Misses form (Step.exponent.Wants form) (takeMarker form cursor) := by
  unfold takeMarker
  split
  next =>
    split
    next => exact Trial.every_done _
    next => exact Cursor.miss_misses .marker
  next => exact Cursor.miss_misses .marker

theorem takeExponent_misses :
    cursor.Misses form (Step.exponent.Wants form) (takeExponent form cursor) := by
  refine Trial.Every.andThen takeMarker_misses fun next found => ?_
  obtain ⟨marker, known, moves⟩ := takeMarker_moves found
  have stuck : (takeSign form next).Misses form (fun more want => more = [] ∧ want = .exponentDigit)
      (takeGroup form .decimal (.exponentDigits form.radix) .exponentDigit (takeSign form next)) :=
    takeGroup_misses ⟨rfl, rfl⟩
  -- no digit is read when the group is missed, so what was read is a marker and perhaps a sign
  rcases takeSign_moves form next with moved | ⟨sign, moved⟩
  next =>
    refine stuck.of_moves (moves.append moved) ?_
    rintro _ _ ⟨rfl, rfl⟩
    exact .unsignedDigits known
  next =>
    refine stuck.of_moves (moves.append moved) ?_
    rintro _ _ ⟨rfl, rfl⟩
    exact .signedDigits sign known

theorem Step.run_misses (step : Step) :
    cursor.Misses form (step.Wants form) (step.run form cursor) := by
  cases step with
  | unprefixed => exact expectUnprefixed_misses
  | radixPrefix => exact takePrefix_misses
  | prefixSeparator => exact takeSeparator_misses.optional cursor
  | digits => exact takeGroup_misses .digits
  | maybeDigits => exact Trial.Every.optional (takeGroup_misses (.maybeDigits .digits)) cursor
  | integer => exact takeInteger_misses
  | point => exact takePoint_misses
  | exponent => exact takeExponent_misses
  | maybeExponent =>
    exact Trial.Every.optional (takeExponent_misses.mono fun _ _ => .maybeExponent) cursor

variable {wordAfter : Bool}

theorem takeImaginary_misses :
    cursor.Misses form (Wants form []) (takeImaginary form wordAfter cursor) := by
  unfold takeImaginary
  split
  next c rest start =>
    split
    next isUnit =>
      subst isUnit
      split
      next => exact Cursor.miss_misses (.finish true)
      next => exact Trial.every_done _
    next => exact Trial.every_fail
  next => exact Trial.every_fail

theorem finish_misses : cursor.Misses form (Wants form []) (finish form wordAfter cursor) := by
  refine Trial.Every.andThen (takeImaginary_misses.optional cursor) fun last found => ?_
  refine Trial.Every.andThen ?_ fun _ _ => Trial.every_done _
  have stuck : last.Misses form (fun more want => more = [] ∧ want = .finish)
      (expectEnd form last) := by
    unfold expectEnd
    split
    next => exact Trial.every_done _
    next => exact Cursor.miss_misses ⟨rfl, rfl⟩
  refine stuck.of_moves (optional_imaginary_moves found) ?_
  rintro _ _ ⟨rfl, rfl⟩
  rw [List.append_nil]
  exact .finish _

def complete (form : Form) (wordAfter : Bool) (steps : List Step) (cursor : Cursor) :
    Trial Reading :=
  (runSteps form steps cursor).andThen (finish form wordAfter)

theorem complete_nil : complete form wordAfter [] cursor = finish form wordAfter cursor := by
  simp [complete, runSteps, Trial.andThen, Trial.done]

theorem complete_cons (step : Step) (steps : List Step) :
    complete form wordAfter (step :: steps) cursor =
      (step.run form cursor).andThen (complete form wordAfter steps) := by
  unfold complete
  rw [runSteps, Trial.andThen_assoc]

theorem complete_blames (steps : List Step) : (complete form wordAfter steps cursor).Blames :=
  (runSteps_blames steps).andThen fun _ => finish_blames

theorem complete_misses (steps : List Step) :
    cursor.Misses form (Wants form steps) (complete form wordAfter steps cursor) := by
  induction steps generalizing cursor with
  | nil =>
    rw [complete_nil]
    exact finish_misses
  | cons step steps ih =>
    rw [complete_cons]
    refine Trial.Every.andThen ((step.run_misses).mono fun _ _ => .here) fun next found => ?_
    obtain ⟨front, taken, moves⟩ := Step.run_moves found
    exact ih.of_moves moves fun _ _ => .later taken

end

theorem Production.parse_misses (production : Production) (chars : Text) (wordAfter : Bool) :
    (production.parse chars wordAfter).Every fun miss =>
      miss.form = production.form ∧ Wants production.form production.steps miss.read miss.want := by
  intro miss member
  obtain ⟨same, more, read, stuck⟩ := complete_misses production.steps miss member
  obtain rfl : miss.read = more := read
  exact ⟨same, stuck⟩

end Numeral.Grammar
