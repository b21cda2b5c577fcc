import Numeral.Proofs.Grammar.Wants

set_option autoImplicit false

namespace Numeral

/-- If the end is missed behind the whole candidate, then a word goes on behind its unit. -/
def Miss.Obstructed (chars : Text) (wordAfter : Bool) (miss : Miss) : Prop :=
  miss.want = .finish → miss.read = chars → chars.getLast? = some 'i' ∧ wordAfter = true

namespace Grammar

variable {form : Form} {cursor : Cursor} {wordAfter : Bool}

theorem Cursor.Misses.obstructed {α : Type} {trial : Trial α} {good : Text → Want → Prop}
    (misses : cursor.Misses form good trial) (never : ∀ more want, good more want → want ≠ .finish)
    (chars : Text) : trial.Every (Miss.Obstructed chars wordAfter) := by
  intro miss member ends
  obtain ⟨-, more, -, allowed⟩ := misses miss member
  exact absurd ends (never more _ allowed)

-- More digits follow the zero behind which the end is wanted.
theorem takeInteger_obstructed :
    (takeInteger form cursor).Every (Miss.Obstructed cursor.text wordAfter) := by
  have group : cursor.Misses form (fun _ want => want = .digit .decimal)
      (takeGroup form .decimal (.digits .decimal) (.digit .decimal) cursor) := takeGroup_misses rfl
  refine Trial.Every.andThen (group.obstructed (by simp) _) fun next _ => ?_
  split
  next c digits leading =>
    intro miss member ends whole
    obtain rfl := List.mem_singleton.1 member
    have ahead := (group_isPrefix .decimal cursor.rest).length_le
    have length := congrArg List.length whole
    rw [leading] at ahead
    simp only [Cursor.text, List.length_append, List.length_cons, List.length_nil] at length ahead
    omega
  next => exact Trial.every_done _

theorem takeImaginary_obstructed :
    (takeImaginary form wordAfter cursor).Every (Miss.Obstructed cursor.text wordAfter) := by
  unfold takeImaginary
  split
  next c rest start =>
    split
    next isUnit =>
      split
      next word =>
        intro miss member ends whole
        obtain rfl := List.mem_singleton.1 member
        have last : rest = [] := by simpa [Cursor.text, start] using whole.symm
        rw [last] at word
        refine ⟨?_, word⟩
        rw [Cursor.text, start, last, isUnit, List.getLast?_concat]
        rfl
      next => exact Trial.every_done _
    next => exact Trial.every_fail
  next => exact Trial.every_fail

theorem expectEnd_obstructed :
    (expectEnd form cursor).Every (Miss.Obstructed cursor.text wordAfter) := by
  unfold expectEnd
  split
  next => exact Trial.every_done _
  next more =>
    intro miss member ends whole
    obtain rfl := List.mem_singleton.1 member
    exact absurd (by simpa [Cursor.text] using whole.symm) more

theorem Step.run_obstructed (step : Step) :
    (step.run form cursor).Every (Miss.Obstructed cursor.text wordAfter) := by
  by_cases integer : step = .integer
  next =>
    subst integer
    exact takeInteger_obstructed
  next => exact step.run_misses.obstructed (fun _ _ stuck => stuck.ne_finish integer) _

theorem runSteps_obstructed (steps : List Step) :
    (runSteps form steps cursor).Every (Miss.Obstructed cursor.text wordAfter) := by
  induction steps generalizing cursor with
  | nil => exact Trial.every_done _
  | cons step steps ih =>
    apply Trial.Every.andThen (step.run_obstructed)
    intro next found
    obtain ⟨pieces, -, moves⟩ := Step.run_moves found
    rw [← moves.text_eq]
    exact ih

theorem finish_obstructed :
    (finish form wordAfter cursor).Every (Miss.Obstructed cursor.text wordAfter) := by
  apply Trial.Every.andThen (takeImaginary_obstructed.optional cursor)
  intro last found
  rw [← (optional_imaginary_moves found).text_eq]
  exact Trial.Every.andThen expectEnd_obstructed fun _ _ => Trial.every_done _

theorem Production.parse_obstructed (production : Production) (chars : Text) (wordAfter : Bool) :
    (production.parse chars wordAfter).Every (Miss.Obstructed chars wordAfter) := by
  apply Trial.Every.andThen (runSteps_obstructed production.steps)
  intro last found
  obtain ⟨pieces, -, moves⟩ := runSteps_moves found
  have whole : last.text = chars := moves.text_eq
  rw [← whole]
  exact finish_obstructed

theorem parse_obstructed (table : List Production) (chars : Text) (wordAfter : Bool) :
    (parse table chars wordAfter).Every (Miss.Obstructed chars wordAfter) :=
  Trial.Every.firstOf fun production _ => production.parse_obstructed chars wordAfter

end Grammar

end Numeral
