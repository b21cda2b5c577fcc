import Numeral.Proofs.Grammar.Derivation
import Numeral.Proofs.Grammar.DigitGroup

set_option autoImplicit false

namespace Numeral.Grammar

variable {form : Form} {cursor next : Cursor}

structure Cursor.Moves (cursor : Cursor) (pieces : List Piece) (next : Cursor) : Prop where
  pieces_eq : next.pieces = cursor.pieces ++ pieces
  rest_eq : cursor.rest = written pieces ++ next.rest

namespace Cursor.Moves

theorem none (cursor : Cursor) : cursor.Moves [] cursor :=
  ⟨by simp, by simp⟩

theorem append {middle : Cursor} {front back : List Piece} (first : cursor.Moves front middle)
    (second : middle.Moves back next) : cursor.Moves (front ++ back) next where
  pieces_eq := by rw [second.pieces_eq, first.pieces_eq, List.append_assoc]
  rest_eq := by rw [first.rest_eq, second.rest_eq, written_append, List.append_assoc]

theorem take {tag : Tag} {chars rest : Text} (same : cursor.rest = chars ++ rest) :
    cursor.Moves [⟨tag, chars⟩] (cursor.take tag chars rest) :=
  ⟨rfl, by simpa [Cursor.take] using same⟩

end Cursor.Moves

theorem takeGroup_moves {radix : Radix} {tag : Tag} {want : Want}
    (found : (takeGroup form radix tag want cursor).result = some next) :
    group radix cursor.rest ∈ digitGroup radix ∧
      cursor.Moves [⟨tag, group radix cursor.rest⟩] next := by
  unfold takeGroup at found
  split at found
  next => simp [Cursor.miss] at found
  next digits nonempty =>
    obtain rfl := Option.some.inj found
    refine ⟨group_mem (by simpa using nonempty), .take ?_⟩
    exact (List.prefix_iff_eq_append.1 (group_isPrefix radix cursor.rest)).symm

theorem expectUnprefixed_result (found : (expectUnprefixed form cursor).result = some next) :
    next = cursor := by
  unfold expectUnprefixed at found
  split at found
  next =>
    split at found
    next => simp [Cursor.miss] at found
    next => exact (Option.some.inj found).symm
  next =>
    split at found
    next => exact (Option.some.inj found).symm
    next => simp [Cursor.miss] at found
  next => simp [Cursor.miss] at found

theorem expectUnprefixed_eq (form : Form) (cursor : Cursor) :
    expectUnprefixed form cursor =
      if cursor.rest.head? = some '0' then
        if cursor.rest.tail.head?.any radixLetters.contains then
          cursor.miss form ['0'] (.digit .decimal)
        else .done cursor
      else if cursor.rest.head?.any fun c => Radix.decimal.isDigit c || c == point then
        .done cursor
      else cursor.miss form [] (.digit .decimal) := by
  unfold expectUnprefixed
  split
  next c rest start => simp [start]
  next c rest other start =>
    by_cases zero : c = '0'
    next =>
      subst zero
      cases rest with
      | nil => simp [start, Radix.isDigit]
      | cons d rest => exact absurd rfl (other d rest rfl)
    next => simp [start, zero]
  next start => simp [start]

theorem prefixLetter?_some {radix : Radix} {text rest : Text} {letter : Char}
    (found : prefixLetter? radix text = some (letter, rest)) :
    letter ∈ radix.prefixLetters ∧ text = letter :: rest := by
  cases text with
  | nil => simp [prefixLetter?] at found
  | cons c cs =>
    by_cases known : c ∈ radix.prefixLetters
    next =>
      simp only [prefixLetter?, known, if_true, Option.some.injEq, Prod.mk.injEq] at found
      obtain ⟨rfl, rfl⟩ := found
      exact ⟨known, rfl⟩
    next => simp [prefixLetter?, known] at found

theorem takePrefix_moves (found : (takePrefix form cursor).result = some next) :
    ∃ pieces, Step.radixPrefix.Takes form pieces ∧ cursor.Moves pieces next := by
  unfold takePrefix at found
  split at found
  next rest start =>
    split at found
    next letter after lettered =>
      obtain ⟨known, rfl⟩ := prefixLetter?_some lettered
      obtain rfl := Option.some.inj found
      exact ⟨_, .letteredPrefix known, .take start⟩
    next =>
      split at found
      next octal =>
        obtain rfl := Option.some.inj found
        exact ⟨_, .barePrefix octal, .take start⟩
      next => simp [Cursor.miss] at found
  next => simp [Cursor.miss] at found

theorem takeSeparator_moves (found : (takeSeparator cursor).result = some next) :
    cursor.Moves [⟨.separator, ['_']⟩] next := by
  unfold takeSeparator at found
  split at found
  next c rest start =>
    split at found
    next isSeparator =>
      subst isSeparator
      obtain rfl := Option.some.inj found
      exact .take start
    next => simp at found
  next => simp at found

theorem takeInteger_moves (found : (takeInteger form cursor).result = some next) :
    ∃ word ∈ decimalInteger, cursor.Moves [⟨.digits .decimal, word⟩] next := by
  unfold takeInteger at found
  rw [Trial.result_andThen] at found
  obtain ⟨last, taken, checked⟩ := Option.bind_eq_some_iff.1 found
  split at checked
  next => simp [Cursor.miss] at checked
  next noLeadingZero =>
    obtain rfl := Option.some.inj checked
    obtain ⟨member, moves⟩ := takeGroup_moves taken
    exact ⟨_, mem_decimalInteger.2 ⟨member, noLeadingZero⟩, moves⟩

theorem takePoint_moves (found : (takePoint form cursor).result = some next) :
    cursor.Moves [⟨.point form.radix, ['.']⟩] next := by
  unfold takePoint at found
  split at found
  next c rest start =>
    split at found
    next pointed =>
      obtain ⟨rfl, -⟩ := pointed
      obtain rfl := Option.some.inj found
      exact .take start
    next => simp [Cursor.miss] at found
  next => simp [Cursor.miss] at found

theorem takeMarker_moves (found : (takeMarker form cursor).result = some next) :
    ∃ marker ∈ form.radix.exponentMarkers,
      cursor.Moves [⟨.exponentMarker form.radix, [marker]⟩] next := by
  unfold takeMarker at found
  split at found
  next c rest start =>
    split at found
    next marked =>
      obtain rfl := Option.some.inj found
      exact ⟨c, marked.1, .take start⟩
    next => simp [Cursor.miss] at found
  next => simp [Cursor.miss] at found

theorem takeSign_moves (form : Form) (cursor : Cursor) :
    cursor.Moves [] (takeSign form cursor) ∨
      ∃ sign : Sign, cursor.Moves [⟨.exponentSign sign form.radix, [sign.char]⟩]
        (takeSign form cursor) := by
  unfold takeSign
  split
  next rest start => exact .inr ⟨.pos, .take start⟩
  next rest start => exact .inr ⟨.neg, .take start⟩
  next => exact .inl (.none cursor)

theorem takeExponent_moves (found : (takeExponent form cursor).result = some next) :
    ∃ pieces, Step.exponent.Takes form pieces ∧ cursor.Moves pieces next := by
  unfold takeExponent at found
  rw [Trial.result_andThen] at found
  obtain ⟨middle, marked, grouped⟩ := Option.bind_eq_some_iff.1 found
  obtain ⟨marker, known, toMarker⟩ := takeMarker_moves marked
  obtain ⟨member, toDigits⟩ := takeGroup_moves grouped
  rcases takeSign_moves form middle with unsigned | ⟨sign, signed⟩
  next => exact ⟨_, .unsignedExponent known member, toMarker.append (unsigned.append toDigits)⟩
  next => exact ⟨_, .signedExponent sign known member, toMarker.append (signed.append toDigits)⟩

theorem optional_moves {trial : Trial Cursor} (found : (trial.optional cursor).result = some next) :
    trial.result = some next ∨ cursor.Moves [] next := by
  rw [Trial.result_optional] at found
  cases taken : trial.result with
  | none =>
    rw [taken] at found
    obtain rfl := Option.some.inj found
    exact .inr (.none cursor)
  | some middle =>
    rw [taken] at found
    exact .inl found

theorem takeDigits_moves (found : (takeDigits form cursor).result = some next) :
    ∃ pieces, Step.digits.Takes form pieces ∧ cursor.Moves pieces next := by
  obtain ⟨member, moves⟩ := takeGroup_moves found
  exact ⟨_, .digits member, moves⟩

theorem Step.run_moves {step : Step} (found : (step.run form cursor).result = some next) :
    ∃ pieces, step.Takes form pieces ∧ cursor.Moves pieces next := by
  cases step with
  | unprefixed =>
    obtain rfl := expectUnprefixed_result found
    exact ⟨[], .unprefixed, .none _⟩
  | radixPrefix => exact takePrefix_moves found
  | prefixSeparator =>
    rcases optional_moves found with taken | skipped
    next => exact ⟨_, .separator, takeSeparator_moves taken⟩
    next => exact ⟨[], .noSeparator, skipped⟩
  | digits => exact takeDigits_moves found
  | maybeDigits =>
    rcases optional_moves found with taken | skipped
    next =>
      obtain ⟨pieces, takes, moves⟩ := takeDigits_moves taken
      exact ⟨pieces, .maybeDigits takes, moves⟩
    next => exact ⟨[], .noDigits, skipped⟩
  | integer =>
    obtain ⟨word, member, moves⟩ := takeInteger_moves found
    exact ⟨_, .integer member, moves⟩
  | point => exact ⟨_, .point, takePoint_moves found⟩
  | exponent => exact takeExponent_moves found
  | maybeExponent =>
    rcases optional_moves found with taken | skipped
    next =>
      obtain ⟨pieces, takes, moves⟩ := takeExponent_moves taken
      exact ⟨pieces, .maybeExponent takes, moves⟩
    next => exact ⟨[], .noExponent, skipped⟩

theorem runSteps_moves {steps : List Step}
    (found : (runSteps form steps cursor).result = some next) :
    ∃ pieces, TakesAll form steps pieces ∧ cursor.Moves pieces next := by
  induction steps generalizing cursor with
  | nil =>
    obtain rfl := Option.some.inj found
    exact ⟨[], .nil, .none _⟩
  | cons step steps ih =>
    rw [runSteps, Trial.result_andThen] at found
    obtain ⟨middle, first, rest⟩ := Option.bind_eq_some_iff.1 found
    obtain ⟨front, takes, toMiddle⟩ := Step.run_moves first
    obtain ⟨back, takesAll, toNext⟩ := ih rest
    exact ⟨front ++ back, .cons takes takesAll, toMiddle.append toNext⟩

theorem finish_result (form : Form) (wordAfter : Bool) (cursor : Cursor) :
    (finish form wordAfter cursor).result =
      if cursor.rest = [] then some ⟨form, false, cursor.pieces⟩
      else if cursor.rest = ['i'] ∧ wordAfter = false then
        some ⟨form, true, cursor.pieces ++ unit true⟩
      else none := by
  obtain ⟨pieces, rest⟩ := cursor
  -- the unit counts only as the very last character, so two are looked at
  cases rest with
  | nil => simp [finish, takeImaginary, expectEnd]
  | cons c cs =>
    by_cases isUnit : c = 'i'
    next =>
      subst isUnit
      cases cs with
      | nil =>
        cases wordAfter <;>
          simp [finish, takeImaginary, imaginaryUnit, expectEnd, Cursor.take, Cursor.miss, unit]
      | cons d ds =>
        cases word : Unicode.isWord d <;>
          simp [finish, takeImaginary, imaginaryUnit, expectEnd, Cursor.take, Cursor.miss, word]
    next => simp [finish, takeImaginary, imaginaryUnit, expectEnd, Cursor.miss, isUnit]

theorem Production.parse_sound {production : Production} {chars : Text} {wordAfter : Bool}
    {reading : Reading} (found : (production.parse chars wordAfter).result = some reading) :
    reading.form = production.form ∧ production.Derives reading.imaginary reading.pieces ∧
      written reading.pieces = chars ∧ (reading.imaginary = true → wordAfter = false) := by
  rw [Production.parse, Trial.result_andThen] at found
  obtain ⟨last, steps, finished⟩ := Option.bind_eq_some_iff.1 found
  obtain ⟨pieces, taken, moves⟩ := runSteps_moves steps
  have read : last.pieces = pieces := by simpa using moves.pieces_eq
  have left : chars = written pieces ++ last.rest := moves.rest_eq
  rw [finish_result] at finished
  split_ifs at finished with ended suffix
  next =>
    obtain rfl := Option.some.inj finished
    exact ⟨rfl, ⟨pieces, taken, by simp [read, unit]⟩, by simp [left, ended, read], by simp⟩
  next =>
    obtain rfl := Option.some.inj finished
    exact ⟨rfl, ⟨pieces, taken, by simp [read]⟩, by simp [left, suffix.1, read, unit],
      fun _ => suffix.2⟩

end Numeral.Grammar
