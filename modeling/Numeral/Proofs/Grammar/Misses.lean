import Numeral.Proofs.Grammar.Soundness

set_option autoImplicit false

namespace Numeral

namespace Miss

theorem furthest_mem {misses : List Miss} {miss : Miss} (found : furthest misses = some miss) :
    miss ∈ misses := by
  induction misses generalizing miss with
  | nil => simp [furthest] at found
  | cons first rest ih =>
    rw [furthest] at found
    split at found
    next later best =>
      split at found
      next =>
        obtain rfl := Option.some.inj found
        exact List.mem_cons_of_mem _ (ih best)
      next =>
        obtain rfl := Option.some.inj found
        exact List.mem_cons_self
    next =>
      obtain rfl := Option.some.inj found
      exact List.mem_cons_self

theorem furthest_eq_none_iff {misses : List Miss} : furthest misses = none ↔ misses = [] := by
  cases misses with
  | nil => simp [furthest]
  | cons first rest =>
    simp only [furthest, reduceCtorEq, iff_false]
    split
    next => split <;> simp
    next => simp

theorem furthest_le {misses : List Miss} {best : Miss} (found : furthest misses = some best) :
    ∀ miss ∈ misses, miss.read.length ≤ best.read.length := by
  induction misses generalizing best with
  | nil => simp
  | cons first rest ih =>
    rw [furthest] at found
    cases later : furthest rest with
    | none =>
      obtain rfl := furthest_eq_none_iff.1 later
      rw [later] at found
      obtain rfl := Option.some.inj found
      simp
    | some further =>
      have others := ih later
      simp only [later] at found
      split at found
      next ahead =>
        obtain rfl := Option.some.inj found
        exact List.forall_mem_cons.2 ⟨Nat.le_of_lt ahead, others⟩
      next behind =>
        obtain rfl := Option.some.inj found
        refine List.forall_mem_cons.2 ⟨Nat.le_refl _, fun miss member => ?_⟩
        exact Nat.le_trans (others miss member) (Nat.not_lt.1 behind)

theorem furthest_concat (misses : List Miss) (miss : Miss) :
    furthest (misses ++ [miss]) =
      if (furthest misses).all fun best => best.read.length < miss.read.length then some miss
      else furthest misses := by
  induction misses with
  | nil => simp [furthest]
  | cons first rest ih =>
    rw [List.cons_append, furthest, ih, furthest]
    cases furthest rest with
    | none => simp
    | some best =>
      by_cases later : best.read.length < miss.read.length <;>
        by_cases ahead : first.read.length < best.read.length <;>
          by_cases further : first.read.length < miss.read.length <;>
            simp [later, ahead, further] <;> omega

theorem furthest_append {early late : List Miss} {best : Miss}
    (found : furthest (early ++ late) = some best) :
    best ∈ early ∨ best ∈ late ∧ ∀ miss ∈ early, miss.read.length < best.read.length := by
  induction early generalizing best with
  | nil => exact .inr ⟨furthest_mem found, by simp⟩
  | cons first rest ih =>
    rw [List.cons_append, furthest] at found
    split at found
    next later further =>
      split at found
      next ahead =>
        obtain rfl := Option.some.inj found
        rcases ih further with inside | ⟨behind, others⟩
        next => exact .inl (List.mem_cons_of_mem first inside)
        next => exact .inr ⟨behind, List.forall_mem_cons.2 ⟨ahead, others⟩⟩
      next =>
        obtain rfl := Option.some.inj found
        exact .inl List.mem_cons_self
    next =>
      obtain rfl := Option.some.inj found
      exact .inl List.mem_cons_self

end Miss

namespace Trial

variable {α β γ : Type} {chars : Text}

theorem andThen_assoc (trial : Trial α) (next : α → Trial β) (last : β → Trial γ) :
    (trial.andThen next).andThen last = trial.andThen fun value => (next value).andThen last := by
  unfold andThen
  cases trial.result with
  | none => rfl
  | some value =>
    simp only
    cases (next value).result with
    | none => rfl
    | some other => simp

theorem mem_andThen_first {trial : Trial α} {next : α → Trial β} {miss : Miss}
    (member : miss ∈ trial.misses) : miss ∈ (trial.andThen next).misses := by
  unfold andThen
  cases trial.result with
  | none => exact member
  | some value => exact List.mem_append_left _ member

theorem mem_andThen_next {trial : Trial α} {next : α → Trial β} {value : α} {miss : Miss}
    (found : trial.result = some value) (member : miss ∈ (next value).misses) :
    miss ∈ (trial.andThen next).misses := by
  unfold andThen
  rw [found]
  exact List.mem_append_right _ member

theorem mem_firstOf {rule : β → Trial α} {choices : List β}
    (failed : (firstOf rule choices).result = none) :
    ∀ choice ∈ choices, ∀ miss ∈ (rule choice).misses, miss ∈ (firstOf rule choices).misses := by
  induction choices with
  | nil => simp
  | cons choice rest ih =>
    rw [firstOf, result_orElse, Option.or_eq_none_iff] at failed
    have later := ih failed.2
    simp only [firstOf, orElse, failed.1]
    refine List.forall_mem_cons.2 ⟨fun miss member => List.mem_append_left _ member, ?_⟩
    exact fun other listed miss member => List.mem_append_right _ (later other listed miss member)

def Every (trial : Trial α) (good : Miss → Prop) : Prop :=
  ∀ miss ∈ trial.misses, good miss

section

variable {good : Miss → Prop}

theorem every_done (value : α) : (done value).Every good := by
  simp [Every, done]

theorem every_fail : (fail : Trial α).Every good := by
  simp [Every, fail]

theorem Every.andThen {trial : Trial α} {next : α → Trial β} (first : trial.Every good)
    (later : ∀ value, trial.result = some value → (next value).Every good) :
    (trial.andThen next).Every good := by
  intro miss member
  unfold Trial.andThen at member
  split at member
  next => exact first miss member
  next value same =>
    rcases List.mem_append.1 member with early | late
    next => exact first miss early
    next => exact later value same miss late

theorem Every.optional {trial : Trial α} (every : trial.Every good) (value : α) :
    (trial.optional value).Every good := every

theorem Every.firstOf {rule : β → Trial α} {choices : List β}
    (each : ∀ choice ∈ choices, (rule choice).Every good) :
    (firstOf rule choices).Every good := by
  induction choices with
  | nil => exact every_fail
  | cons choice rest ih =>
    obtain ⟨first, later⟩ := List.forall_mem_cons.1 each
    intro miss member
    simp only [Trial.firstOf, orElse] at member
    split at member
    next => exact first miss member
    next =>
      rcases List.mem_append.1 member with early | late
      next => exact first miss early
      next => exact ih later miss late

end

def Within (trial : Trial α) (chars : Text) : Prop :=
  ∀ miss ∈ trial.misses, miss.read <+: chars

theorem within_done (value : α) : (done value).Within chars :=
  every_done value

theorem within_fail : (fail : Trial α).Within chars :=
  every_fail

theorem Within.andThen {trial : Trial α} {next : α → Trial β} (first : trial.Within chars)
    (later : ∀ value, trial.result = some value → (next value).Within chars) :
    (trial.andThen next).Within chars :=
  Every.andThen first later

theorem Within.optional {trial : Trial α} (within : trial.Within chars) (value : α) :
    (trial.optional value).Within chars := within

theorem Within.firstOf {rule : β → Trial α} {choices : List β}
    (each : ∀ choice ∈ choices, (rule choice).Within chars) :
    (firstOf rule choices).Within chars :=
  Every.firstOf each

def Blames (trial : Trial α) : Prop :=
  trial.result = none → trial.misses ≠ []

theorem blames_done (value : α) : (done value).Blames := by
  simp [Blames]

theorem blames_stuck (miss : Miss) : (stuck miss : Trial α).Blames := by
  simp [Blames, stuck]

theorem Blames.andThen {trial : Trial α} {next : α → Trial β} (first : trial.Blames)
    (later : ∀ value, (next value).Blames) : (trial.andThen next).Blames := by
  intro failed
  unfold Trial.andThen at failed ⊢
  split at failed
  next nothing => exact first nothing
  next value same => exact List.append_ne_nil_of_right_ne_nil _ (later value failed)

theorem blames_optional (value : α) (trial : Trial α) : (trial.optional value).Blames := by
  simp [Blames]

theorem Blames.firstOf {rule : β → Trial α} {choices : List β} (nonempty : choices ≠ [])
    (each : ∀ choice, (rule choice).Blames) : (firstOf rule choices).Blames := by
  cases choices with
  | nil => exact absurd rfl nonempty
  | cons choice rest =>
    intro failed
    rw [Trial.firstOf, result_orElse, Option.or_eq_none_iff] at failed
    simp only [Trial.firstOf, orElse, failed.1]
    exact List.append_ne_nil_of_left_ne_nil (each choice failed.1) _

end Trial

namespace Grammar

namespace Cursor

def text (cursor : Cursor) : Text :=
  cursor.read ++ cursor.rest

theorem Moves.read_eq {cursor next : Cursor} {pieces : List Piece}
    (moves : cursor.Moves pieces next) : next.read = cursor.read ++ written pieces := by
  rw [read, moves.pieces_eq, List.flatMap_append]
  rfl

theorem Moves.text_eq {cursor next : Cursor} {pieces : List Piece}
    (moves : cursor.Moves pieces next) : next.text = cursor.text := by
  rw [text, text, moves.read_eq, moves.rest_eq, List.append_assoc]

theorem miss_within {α : Type} {cursor : Cursor} {more : Text} (ahead : more <+: cursor.rest)
    (form : Form) (want : Want) :
    (cursor.miss form more want : Trial α).Within cursor.text := by
  intro miss member
  obtain rfl := List.mem_singleton.1 member
  exact (List.prefix_append_right_inj cursor.read).2 ahead

end Cursor

inductive Cursor.Decides (cursor : Cursor) (form : Form) : Trial Cursor → Prop where
  | takes (next : Cursor) : Decides cursor form (.done next)
  | misses {more : Text} (ahead : more <+: cursor.rest) (want : Want) :
      Decides cursor form (cursor.miss form more want)

namespace Cursor.Decides

variable {form : Form} {cursor : Cursor} {trial : Trial Cursor}

theorem within (decided : cursor.Decides form trial) : trial.Within cursor.text := by
  cases decided with
  | takes next => exact Trial.within_done next
  | misses ahead want => exact miss_within ahead form want

theorem blames (decided : cursor.Decides form trial) : trial.Blames := by
  cases decided with
  | takes next => exact Trial.blames_done next
  | misses ahead want => exact Trial.blames_stuck _

end Cursor.Decides

variable {form : Form} {cursor : Cursor}

theorem takeGroup_decides {radix : Radix} {tag : Tag} {want : Want} :
    cursor.Decides form (takeGroup form radix tag want cursor) := by
  unfold takeGroup
  split
  next => exact .misses List.nil_prefix want
  next => exact .takes _

theorem expectUnprefixed_decides : cursor.Decides form (expectUnprefixed form cursor) := by
  unfold expectUnprefixed
  split
  next c rest start =>
    split
    next => exact .misses (by simp [start]) _
    next => exact .takes _
  next =>
    split
    next => exact .takes _
    next => exact .misses List.nil_prefix _
  next => exact .misses List.nil_prefix _

theorem takePrefix_decides : cursor.Decides form (takePrefix form cursor) := by
  unfold takePrefix
  split
  next rest start =>
    split
    next => exact .takes _
    next =>
      split
      next => exact .takes _
      next => exact .misses (by simp [start]) _
  next => exact .misses List.nil_prefix _

theorem takePoint_decides : cursor.Decides form (takePoint form cursor) := by
  unfold takePoint
  split
  next =>
    split
    next => exact .takes _
    next => exact .misses List.nil_prefix _
  next => exact .misses List.nil_prefix _

theorem takeMarker_decides : cursor.Decides form (takeMarker form cursor) := by
  unfold takeMarker
  split
  next =>
    split
    next => exact .takes _
    next => exact .misses List.nil_prefix _
  next => exact .misses List.nil_prefix _

theorem expectEnd_decides : cursor.Decides form (expectEnd form cursor) := by
  unfold expectEnd
  split
  next => exact .takes _
  next => exact .misses List.nil_prefix _

theorem takeSeparator_within : (takeSeparator cursor).Within cursor.text := by
  unfold takeSeparator
  split
  next =>
    split
    next => exact Trial.within_done _
    next => exact Trial.within_fail
  next => exact Trial.within_fail

theorem takeInteger_within : (takeInteger form cursor).Within cursor.text := by
  refine takeGroup_decides.within.andThen fun next _ => ?_
  split
  next c digits leading =>
    have ahead := group_isPrefix .decimal cursor.rest
    rw [leading] at ahead
    exact Cursor.miss_within ((List.prefix_append ['0'] (c :: digits)).trans ahead) form _
  next => exact Trial.within_done _

theorem takeSign_text (form : Form) (cursor : Cursor) :
    (takeSign form cursor).text = cursor.text := by
  rcases takeSign_moves form cursor with unsigned | ⟨sign, signed⟩
  next => exact unsigned.text_eq
  next => exact signed.text_eq

theorem takeExponent_within : (takeExponent form cursor).Within cursor.text := by
  refine takeMarker_decides.within.andThen fun next marked => ?_
  obtain ⟨marker, -, moves⟩ := takeMarker_moves marked
  rw [← moves.text_eq, ← takeSign_text form]
  exact takeGroup_decides.within

theorem takeImaginary_within {wordAfter : Bool} :
    (takeImaginary form wordAfter cursor).Within cursor.text := by
  unfold takeImaginary
  split
  next c rest start =>
    split
    next =>
      split
      next => exact Cursor.miss_within (by simp [start]) form _
      next => exact Trial.within_done _
    next => exact Trial.within_fail
  next => exact Trial.within_fail

theorem Step.run_within (step : Step) : (step.run form cursor).Within cursor.text := by
  cases step with
  | unprefixed => exact expectUnprefixed_decides.within
  | radixPrefix => exact takePrefix_decides.within
  | prefixSeparator => exact takeSeparator_within.optional cursor
  | digits => exact takeGroup_decides.within
  | maybeDigits => exact takeGroup_decides.within.optional cursor
  | integer => exact takeInteger_within
  | point => exact takePoint_decides.within
  | exponent => exact takeExponent_within
  | maybeExponent => exact takeExponent_within.optional cursor

theorem runSteps_within (steps : List Step) : (runSteps form steps cursor).Within cursor.text := by
  induction steps generalizing cursor with
  | nil => exact Trial.within_done _
  | cons step steps ih =>
    refine (step.run_within).andThen fun next found => ?_
    obtain ⟨pieces, -, moves⟩ := Step.run_moves found
    rw [← moves.text_eq]
    exact ih

theorem takeImaginary_moves {wordAfter : Bool} {next : Cursor}
    (found : (takeImaginary form wordAfter cursor).result = some next) :
    cursor.Moves (unit true) next := by
  unfold takeImaginary at found
  split at found
  next c rest start =>
    split at found
    next isUnit =>
      subst isUnit
      split at found
      next => simp [Cursor.miss] at found
      next =>
        obtain rfl := Option.some.inj found
        exact .take start
    next => simp at found
  next => simp at found

theorem optional_imaginary_moves {wordAfter : Bool} {last : Cursor}
    (found : ((takeImaginary form wordAfter cursor).optional cursor).result = some last) :
    cursor.Moves (unit (takeImaginary form wordAfter cursor).result.isSome) last := by
  rw [Trial.result_optional] at found
  cases taken : (takeImaginary form wordAfter cursor).result with
  | none =>
    rw [taken] at found
    obtain rfl := Option.some.inj found
    exact .none cursor
  | some next =>
    rw [taken] at found
    obtain rfl := Option.some.inj found
    exact takeImaginary_moves taken

theorem finish_within {wordAfter : Bool} : (finish form wordAfter cursor).Within cursor.text := by
  refine (takeImaginary_within.optional cursor).andThen fun last found => ?_
  rw [← (optional_imaginary_moves found).text_eq]
  exact expectEnd_decides.within.andThen fun _ _ => Trial.within_done _

theorem Production.parse_within (production : Production) (chars : Text) (wordAfter : Bool) :
    (production.parse chars wordAfter).Within chars := by
  refine (runSteps_within production.steps).andThen fun last found => ?_
  obtain ⟨pieces, -, moves⟩ := runSteps_moves found
  have whole : last.text = chars := moves.text_eq
  rw [← whole]
  exact finish_within

theorem parse_within (table : List Production) (chars : Text) (wordAfter : Bool) :
    (parse table chars wordAfter).Within chars :=
  Trial.Within.firstOf fun production _ => production.parse_within chars wordAfter

theorem takeExponent_blames : (takeExponent form cursor).Blames :=
  takeMarker_decides.blames.andThen fun _ => takeGroup_decides.blames

theorem Step.run_blames (step : Step) : (step.run form cursor).Blames := by
  cases step with
  | unprefixed => exact expectUnprefixed_decides.blames
  | radixPrefix => exact takePrefix_decides.blames
  | prefixSeparator | maybeDigits | maybeExponent => exact Trial.blames_optional _ _
  | digits => exact takeGroup_decides.blames
  | integer =>
    refine takeGroup_decides.blames.andThen fun next => ?_
    split
    next => exact Trial.blames_stuck _
    next => exact Trial.blames_done _
  | point => exact takePoint_decides.blames
  | exponent => exact takeExponent_blames

theorem runSteps_blames (steps : List Step) : (runSteps form steps cursor).Blames := by
  induction steps generalizing cursor with
  | nil => exact Trial.blames_done _
  | cons step steps ih => exact (step.run_blames).andThen fun _ => ih

theorem finish_blames {wordAfter : Bool} : (finish form wordAfter cursor).Blames := by
  refine (Trial.blames_optional _ _).andThen fun stop => ?_
  exact expectEnd_decides.blames.andThen fun _ => Trial.blames_done _

theorem Production.parse_blames (production : Production) (chars : Text) (wordAfter : Bool) :
    (production.parse chars wordAfter).Blames :=
  (runSteps_blames production.steps).andThen fun _ => finish_blames

theorem parse_blames {table : List Production} (nonempty : table ≠ []) (chars : Text)
    (wordAfter : Bool) : (parse table chars wordAfter).Blames :=
  .firstOf nonempty fun production => production.parse_blames chars wordAfter

/-- The bit past the candidate counts only behind a unit at its very end. -/
theorem finish_congr {wordAfter other : Bool}
    (agree : cursor.rest = ['i'] → wordAfter = other) :
    finish form wordAfter cursor = finish form other cursor := by
  have same : takeImaginary form wordAfter cursor = takeImaginary form other cursor := by
    unfold takeImaginary
    split
    next c rest start =>
      cases rest with
      | nil =>
        by_cases isUnit : c = imaginaryUnit
        next => rw [agree (by rw [start, isUnit]; rfl)]
        next => simp only [isUnit, if_false]
      | cons d rest => rfl
    next => rfl
  rw [finish, finish, same]

theorem Production.parse_congr (production : Production) {chars : Text} {wordAfter other : Bool}
    (agree : chars.getLast? = some 'i' → wordAfter = other) :
    production.parse chars wordAfter = production.parse chars other := by
  unfold Production.parse Trial.andThen
  cases found : (runSteps production.form production.steps ⟨[], chars⟩).result with
  | none => rfl
  | some last =>
    obtain ⟨pieces, -, moves⟩ := runSteps_moves found
    have left : chars = written pieces ++ last.rest := moves.rest_eq
    have same : finish production.form wordAfter last = finish production.form other last :=
      finish_congr fun rest => agree (by rw [left, rest, List.getLast?_concat])
    simp only [same]

theorem parse_congr (table : List Production) {chars : Text} {wordAfter other : Bool}
    (agree : chars.getLast? = some 'i' → wordAfter = other) :
    parse table chars wordAfter = parse table chars other := by
  have same : Production.parse chars wordAfter = Production.parse chars other := by
    funext production
    exact production.parse_congr agree
  rw [parse, parse, same]

end Grammar

end Numeral
