import Numeral.Proofs.Grammar.Acceptance

set_option autoImplicit false

namespace Numeral

namespace Grammar

/-- Characters one of which is in whatever the step takes. -/
def Step.demands (form : Form) : Step → Option (List Char)
  | radixPrefix => if form.radix = .octal then none else some form.radix.prefixLetters
  | point => some ['.']
  | exponent => some form.radix.exponentMarkers
  | _ => none

theorem Step.Takes.demanded {form : Form} {step : Step} {pieces : List Piece} {chars : List Char}
    (taken : step.Takes form pieces) (demanded : step.demands form = some chars) :
    ∃ c ∈ chars, c ∈ written pieces := by
  cases taken with
  | letteredPrefix known =>
    simp only [demands, Option.ite_none_left_eq_some, Option.some.injEq] at demanded
    exact ⟨_, demanded.2 ▸ known, by simp⟩
  | barePrefix octal => simp [demands, octal] at demanded
  | point =>
    obtain rfl : ['.'] = chars := Option.some.inj demanded
    exact ⟨'.', by simp, by simp⟩
  | unsignedExponent known =>
    obtain rfl : form.radix.exponentMarkers = chars := Option.some.inj demanded
    exact ⟨_, known, by simp⟩
  | signedExponent sign known =>
    obtain rfl : form.radix.exponentMarkers = chars := Option.some.inj demanded
    exact ⟨_, known, by simp⟩
  | unprefixed | noSeparator | separator | digits | noDigits | maybeDigits | integer | noExponent
  | maybeExponent => simp [demands] at demanded

theorem TakesAll.demanded {form : Form} {steps : List Step} {pieces : List Piece}
    {chars : List Char} (taken : TakesAll form steps pieces)
    (demanded : chars ∈ steps.filterMap (Step.demands form)) :
    ∃ c ∈ chars, c ∈ written pieces := by
  induction taken with
  | nil => simp at demanded
  | @cons step steps front back first rest ih =>
    obtain ⟨asking, member, asked⟩ := List.mem_filterMap.1 demanded
    rcases List.mem_cons.1 member with rfl | later
    next =>
      obtain ⟨c, known, inside⟩ := first.demanded asked
      exact ⟨c, known, by simp [inside]⟩
    next =>
      obtain ⟨c, known, inside⟩ := ih (List.mem_filterMap.2 ⟨asking, later, asked⟩)
      exact ⟨c, known, by simp [inside]⟩

/-- Whether the first production demands what the second cannot have. -/
def Production.outdoes (first second : Production) : Bool :=
  (first.steps.filterMap (Step.demands first.form)).any fun chars =>
    chars.all (· ∉ Grammar.alphabet second.form second.steps)

def diverge (form : Form) : List Step → List Step → Bool
  | [], _ | _, [] => false
  | step :: steps, other :: others =>
    if step = other then diverge form steps others
    else (ahead form (step :: steps)).all (· ∉ ahead form (other :: others))

section

variable {first second : Production} {chars : Text} {wordAfter : Bool} {reading other : Reading}

theorem outdoes_sound (outdone : first.outdoes second = true)
    (parsed : (first.parse chars wordAfter).result = some reading)
    (again : (second.parse chars wordAfter).result = some other) : False := by
  obtain ⟨-, ⟨taken, takesAll, same⟩, text, -⟩ := Production.parse_sound parsed
  obtain ⟨-, ⟨taken', takesAll', same'⟩, text', -⟩ := Production.parse_sound again
  obtain ⟨demand, demanded, foreign⟩ := List.any_eq_true.1 outdone
  obtain ⟨c, known, inside⟩ := takesAll.demanded demanded
  -- both readings are of the same characters
  have here : c ∈ written taken' ++ written (unit other.imaginary) := by
    rw [← written_append, ← same', text', ← text, same]
    simp [inside]
  have allowed := mem_alphabet takesAll' other.imaginary c here
  simpa [allowed] using List.all_eq_true.1 foreign c known

theorem Production.runSteps_of_parse
    (parsed : (first.parse chars wordAfter).result = some reading) :
    ∃ last imaginary, (runSteps first.form first.steps ⟨[], chars⟩).result = some last ∧
      last.rest = written (unit imaginary) := by
  rw [Production.parse, Trial.result_andThen] at parsed
  obtain ⟨last, steps, finished⟩ := Option.bind_eq_some_iff.1 parsed
  rw [finish_result] at finished
  split_ifs at finished with ended suffix
  next => exact ⟨last, false, steps, ended⟩
  next => exact ⟨last, true, steps, suffix.1⟩

theorem head_mem_ahead_of_run {form : Form} {steps : List Step} {cursor last : Cursor}
    {imaginary : Bool} (found : (runSteps form steps cursor).result = some last)
    (ended : last.rest = written (unit imaginary)) : cursor.rest.head? ∈ ahead form steps := by
  obtain ⟨pieces, taken, moves⟩ := runSteps_moves found
  rw [moves.rest_eq, ended]
  exact head_mem_ahead taken imaginary

theorem diverge_sound {form : Form} {steps others : List Step} {cursor last last' : Cursor}
    {imaginary imaginary' : Bool} (apart : diverge form steps others = true)
    (found : (runSteps form steps cursor).result = some last)
    (ended : last.rest = written (unit imaginary))
    (found' : (runSteps form others cursor).result = some last')
    (ended' : last'.rest = written (unit imaginary')) : False := by
  induction steps generalizing others cursor with
  | nil => simp [diverge] at apart
  | cons step steps ih =>
    cases others with
    | nil => simp [diverge] at apart
    | cons step' others =>
      by_cases shared : step = step'
      next =>
        subst shared
        rw [diverge, if_pos rfl] at apart
        rw [runSteps, Trial.result_andThen] at found found'
        -- a step is a function, so both go on from the same cursor
        obtain ⟨middle, run, rest⟩ := Option.bind_eq_some_iff.1 found
        obtain ⟨middle', run', rest'⟩ := Option.bind_eq_some_iff.1 found'
        obtain rfl : middle = middle' := Option.some.inj (run.symm.trans run')
        exact ih apart rest rest'
      next =>
        rw [diverge, if_neg shared] at apart
        have mine := head_mem_ahead_of_run found ended
        have yours := head_mem_ahead_of_run found' ended'
        simpa [yours] using List.all_eq_true.1 apart _ mine

end

def plainInteger : Production :=
  ⟨.decimalInt, [.unprefixed, .integer]⟩

def octalInteger : Production :=
  ⟨.octalInt, [.radixPrefix, .prefixSeparator, .digits]⟩

-- Both may start with a zero, and only the character after it tells them apart.
theorem plainInteger_second {chars rest : Text} {c : Char} {wordAfter : Bool} {reading : Reading}
    (parsed : (plainInteger.parse chars wordAfter).result = some reading)
    (start : chars = '0' :: c :: rest) : c = 'i' := by
  obtain ⟨-, ⟨_, takesAll, same⟩, text, -⟩ := Production.parse_sound parsed
  cases takesAll with
  | cons first taken =>
    cases first
    cases taken with
    | cons second nothing =>
      cases nothing
      cases second with
      | integer member =>
        obtain ⟨-, noLeadingZero⟩ := mem_decimalInteger.1 member
        obtain ⟨d, -, later, -, rfl⟩ := mem_digitGroup.1 (mem_decimalInteger.1 member).1
        have split : d :: (later ++ written (unit reading.imaginary)) = '0' :: c :: rest := by
          rw [← start, ← text, same]
          simp
        obtain ⟨rfl, behind⟩ := List.cons.inj split
        cases later with
        | cons e es => exact absurd rfl (noLeadingZero e es)
        | nil =>
          cases imaginary : reading.imaginary with
          | false => simp [imaginary, unit] at behind
          | true =>
            rw [imaginary] at behind
            exact (List.cons.inj behind).1.symm

theorem octalInteger_second {chars : Text} {wordAfter : Bool} {reading : Reading}
    (parsed : (octalInteger.parse chars wordAfter).result = some reading) :
    ∃ c rest, chars = '0' :: c :: rest ∧ c ≠ 'i' := by
  obtain ⟨-, ⟨_, takesAll, same⟩, text, -⟩ := Production.parse_sound parsed
  cases takesAll with
  | @cons _ _ front back first taken =>
    have ahead := head_mem_ahead taken reading.imaginary
    have split : chars =
        written front ++ (written back ++ written (unit reading.imaginary)) := by
      rw [← text, same]
      simp
    cases first with
    | letteredPrefix known =>
      refine ⟨_, _, split, ?_⟩
      rintro rfl
      exact absurd known (by decide)
    | barePrefix =>
      obtain ⟨c, rest, following⟩ : ∃ c rest,
          written back ++ written (unit reading.imaginary) = c :: rest := by
        refine List.exists_cons_of_ne_nil fun nothing => ?_
        rw [nothing] at ahead
        exact absurd ahead (by decide)
      refine ⟨c, rest, split.trans (by simp [following]), ?_⟩
      -- digits are still to come, and the unit is none
      rintro rfl
      rw [following, List.head?_cons] at ahead
      exact absurd ahead (by decide)

def Production.isApartFrom (first second : Production) : Bool :=
  first.outdoes second ||
    (first.form = second.form && diverge first.form first.steps second.steps) ||
    (first = plainInteger && second = octalInteger)

theorem productions_apart : ∀ first ∈ productions, ∀ second ∈ productions,
    first = second ∨ first.isApartFrom second = true ∨ second.isApartFrom first = true := by
  decide +kernel

theorem isApartFrom_sound {first second : Production} {chars : Text} {wordAfter : Bool}
    {reading other : Reading} (apart : first.isApartFrom second = true)
    (parsed : (first.parse chars wordAfter).result = some reading)
    (again : (second.parse chars wordAfter).result = some other) : False := by
  simp only [Production.isApartFrom, Bool.or_eq_true, Bool.and_eq_true, decide_eq_true_eq] at apart
  rcases apart with (outdone | ⟨sameForm, diverging⟩) | ⟨rfl, rfl⟩
  next => exact outdoes_sound outdone parsed again
  next =>
    obtain ⟨last, imaginary, found, ended⟩ := Production.runSteps_of_parse parsed
    obtain ⟨last', imaginary', found', ended'⟩ := Production.runSteps_of_parse again
    rw [← sameForm] at found'
    exact diverge_sound diverging found ended found' ended'
  next =>
    obtain ⟨c, rest, start, other⟩ := octalInteger_second again
    exact other (plainInteger_second parsed start)

theorem Production.eq_of_parse {first second : Production} {chars : Text} {wordAfter : Bool}
    (listed : first ∈ productions) (listed' : second ∈ productions)
    (parsed : (first.parse chars wordAfter).result.isSome = true)
    (again : (second.parse chars wordAfter).result.isSome = true) : first = second := by
  obtain ⟨reading, parsed⟩ := Option.isSome_iff_exists.1 parsed
  obtain ⟨other, again⟩ := Option.isSome_iff_exists.1 again
  rcases productions_apart first listed second listed' with same | apart | apart
  next => exact same
  next => exact (isApartFrom_sound apart parsed again).elim
  next => exact (isApartFrom_sound apart again parsed).elim

theorem findSome?_perm {α β : Type} {rule : α → Option β} {choices others : List α}
    (reordered : others.Perm choices)
    (unique : ∀ a ∈ choices, ∀ b ∈ choices,
      (rule a).isSome = true → (rule b).isSome = true → a = b) :
    others.findSome? rule = choices.findSome? rule := by
  cases found : choices.findSome? rule with
  | none =>
    rw [List.findSome?_eq_none_iff] at found ⊢
    exact fun a member => found a (reordered.mem_iff.1 member)
  | some value =>
    obtain ⟨a, member, gives⟩ := List.exists_of_findSome?_eq_some found
    cases again : others.findSome? rule with
    | none =>
      have nothing := List.findSome?_eq_none_iff.1 again a (reordered.mem_iff.2 member)
      simp [nothing] at gives
    | some other =>
      obtain ⟨b, member', gives'⟩ := List.exists_of_findSome?_eq_some again
      have same := unique a member b (reordered.mem_iff.1 member') (by simp [gives])
        (by simp [gives'])
      rw [← gives, ← gives', same]

theorem parse_perm {table : List Production} {chars : Text} {wordAfter : Bool}
    (reordered : table.Perm productions) :
    (parse table chars wordAfter).result = (parse productions chars wordAfter).result := by
  rw [parse, parse, Trial.result_firstOf, Trial.result_firstOf]
  exact findSome?_perm reordered fun _ listed _ listed' => Production.eq_of_parse listed listed'

theorem productions_nodup : productions.Nodup := by
  decide +kernel

theorem productions_perm {order : List Form} {sequences : Form → List (List Step)}
    (reordered : order.Perm Form.precedence)
    (shuffled : ∀ form, (sequences form).Perm (alternatives form)) :
    (order.flatMap fun form => (sequences form).map (Production.mk form)).Perm productions :=
  reordered.flatMap fun form _ => (shuffled form).map (Production.mk form)

end Grammar

open Grammar

def Grammar.Production.Reads (production : Production) (cut : Text.Excerpt) : Prop :=
  (production.parse cut.inside (cut.after.head?.any Unicode.isWord)).result.isSome = true

theorem classifyAs_some {text : Text} {start stop : Nat} {form : Form} {tree : Tree}
    (found : classifyAs text start stop form = .ok (some tree)) :
    ∃ range cut, excerptAt text start stop = .ok (range, cut) ∧
      ∃ production ∈ productionsOf form, production.Reads cut := by
  unfold classifyAs at found
  cases taken : excerptAt text start stop with
  | error fault => simp [taken, bind, Except.bind] at found
  | ok excerpt =>
    obtain ⟨range, cut⟩ := excerpt
    refine ⟨range, cut, rfl, ?_⟩
    have accepted : ((parseExcerpt (productionsOf form) cut).result.map
        (Tree.ofReading range)) = some tree := by
      simpa [taken, bind, Except.bind, pure, Except.pure] using found
    obtain ⟨reading, parsed, -⟩ := Option.map_eq_some_iff.1 accepted
    rw [parseExcerpt, parse, Trial.result_firstOf] at parsed
    obtain ⟨production, known, reads⟩ := List.exists_of_findSome?_eq_some parsed
    exact ⟨production, known, by simp [Production.Reads, reads]⟩

theorem examineBy_congr {table other : List Production} (text : Text) (start stop : Nat)
    (same : ∀ cut, (parseExcerpt table cut).result = (parseExcerpt other cut).result) :
    (examineBy table text start stop).map Prod.fst =
      (examineBy other text start stop).map Prod.fst := by
  unfold examineBy
  cases excerptAt text start stop with
  | error fault => rfl
  | ok excerpt =>
    simp only [bind, Except.bind, same]
    cases (parseExcerpt other excerpt.2).result <;> rfl

theorem classify_independent_of_order (text : Text) (start stop : Nat) :
    (∀ cut, Text.excerpt? text start stop = some cut →
      productions.Pairwise fun first second => ¬(first.Reads cut ∧ second.Reads cut)) ∧
    (∀ form other tree tree', classifyAs text start stop form = .ok (some tree) →
      classifyAs text start stop other = .ok (some tree') → form = other) ∧
    ∀ (order : List Form) (sequences : Form → List (List Step)),
      order.Perm Form.precedence → (∀ form, (sequences form).Perm (alternatives form)) →
        (examineBy (order.flatMap fun form => (sequences form).map (Production.mk form))
          text start stop).map Prod.fst = classify text start stop := by
  refine ⟨?_, ?_, ?_⟩
  next =>
    intro cut _
    refine productions_nodup.imp_of_mem fun {first second} listed listed' distinct => ?_
    rintro ⟨reads, reads'⟩
    exact distinct (Production.eq_of_parse listed listed' reads reads')
  next =>
    intro form other tree tree' found found'
    obtain ⟨range, cut, taken, production, known, reads⟩ := classifyAs_some found
    obtain ⟨range', cut', taken', production', known', reads'⟩ := classifyAs_some found'
    -- the excerpt does not depend on the form
    obtain ⟨-, rfl⟩ := Prod.mk.inj (Except.ok.inj (taken.symm.trans taken'))
    obtain ⟨rfl, listed⟩ := mem_productionsOf.1 known
    obtain ⟨rfl, listed'⟩ := mem_productionsOf.1 known'
    rw [Production.eq_of_parse listed listed' reads reads']
  next =>
    intro order sequences reordered shuffled
    exact examineBy_congr text start stop fun cut =>
      parse_perm (productions_perm reordered shuffled)

theorem classify_independent_of_order_reversed :
    (∀ other tree, classifyAs ['0', '1', '.', 'i'] 0 4 other = .ok (some tree) →
      .decimalFloat = other) ∧
    (examineBy (Form.precedence.reverse.flatMap fun form =>
        (alternatives form).reverse.map (Production.mk form))
        ['0', '1', '.', 'i'] 0 4).map Prod.fst =
      classify ['0', '1', '.', 'i'] 0 4 := by
  obtain ⟨-, forms, orders⟩ := classify_independent_of_order ['0', '1', '.', 'i'] 0 4
  exact ⟨fun other tree => forms .decimalFloat other _ tree rfl,
    orders _ _ (List.reverse_perm _) fun form => List.reverse_perm _⟩

end Numeral
