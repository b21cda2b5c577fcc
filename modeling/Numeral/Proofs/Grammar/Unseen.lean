import Mathlib.Tactic.SplitIfs
import Numeral.Proofs.Grammar.Soundness

set_option autoImplicit false

namespace Numeral

/-- A change that keeps widths, digits and words, the letters of each radix among themselves, and
every character that is told from all others. -/
structure Unseen (f : Char → Char) : Prop where
  width : ∀ c, (f c).utf8Size = c.utf8Size
  mark_iff : ∀ mark ∈ ['0', separator, point, imaginaryUnit, '+', '-'], ∀ c, f c = mark ↔ c = mark
  isDigit_eq : ∀ (radix : Radix) c, radix.isDigit (f c) = radix.isDigit c
  letter_iff : ∀ (radix : Radix) c, f c ∈ radix.prefixLetters ↔ c ∈ radix.prefixLetters
  marker_iff : ∀ (radix : Radix) c, f c ∈ radix.exponentMarkers ↔ c ∈ radix.exponentMarkers
  isWord_eq : ∀ c, Unicode.isWord (f c) = Unicode.isWord c
  isAsciiWord_eq : ∀ c, Unicode.isAsciiWord (f c) = Unicode.isAsciiWord c

theorem Unseen.beq_eq {f : Char → Char} (unseen : Unseen f) (mark : Char)
    (known : mark ∈ ['0', separator, point, imaginaryUnit, '+', '-']) (c : Char) :
    (f c == mark) = (c == mark) := by
  rw [Bool.eq_iff_iff, beq_iff_eq, beq_iff_eq, unseen.mark_iff mark known]

def Miss.map (f : Char → Char) (miss : Miss) : Miss :=
  { miss with read := miss.read.map f }

namespace Trial

variable {α β γ δ : Type} (f : Char → Char)

def map (g : α → β) (trial : Trial α) : Trial β :=
  ⟨trial.misses.map (Miss.map f), trial.result.map g⟩

theorem map_done (g : α → β) (value : α) : (done value).map f g = done (g value) := rfl

theorem map_andThen {g : α → β} {h : γ → δ} {next : α → Trial γ} {other : β → Trial δ}
    (trial : Trial α) (same : ∀ value, (next value).map f h = other (g value)) :
    (trial.andThen next).map f h = (trial.map f g).andThen other := by
  unfold andThen
  cases found : trial.result with
  | none => simp [map, found]
  | some value =>
    have later := same value
    simp only [map, found, Option.map_some] at later ⊢
    simp [← later]

theorem map_optional (g : α → β) (value : α) (trial : Trial α) :
    (trial.optional value).map f g = (trial.map f g).optional (g value) := by
  unfold optional map
  cases trial.result <;> rfl

theorem map_orElse {g : α → β} {second : Unit → Trial α} {other : Unit → Trial β}
    (trial : Trial α) (same : (second ()).map f g = other ()) :
    (trial.orElse second).map f g = (trial.map f g).orElse other := by
  unfold orElse
  cases found : trial.result with
  | some value => simp [map, found]
  | none =>
    simp only [map, found, Option.map_none] at same ⊢
    simp [← same]

theorem map_firstOf {g : α → β} {rule : γ → Trial α} {other : γ → Trial β}
    (same : ∀ choice, (rule choice).map f g = other choice) (choices : List γ) :
    (firstOf rule choices).map f g = firstOf other choices := by
  induction choices with
  | nil => rfl
  | cons choice rest ih =>
    rw [firstOf, firstOf, ← same choice]
    exact map_orElse f (rule choice) ih

end Trial

namespace Grammar

def Piece.map (f : Char → Char) (piece : Piece) : Piece :=
  { piece with chars := piece.chars.map f }

def Reading.map (f : Char → Char) (reading : Reading) : Reading :=
  { reading with pieces := reading.pieces.map (Piece.map f) }

namespace Cursor

def map (f : Char → Char) (cursor : Cursor) : Cursor :=
  ⟨cursor.pieces.map (Piece.map f), cursor.rest.map f⟩

variable (f : Char → Char) (cursor : Cursor)

theorem read_map : (cursor.map f).read = cursor.read.map f := by
  simp [read, map, Piece.map, List.flatMap_map, List.map_flatMap]

theorem behind_map : (cursor.map f).behind = cursor.behind.map f := by
  rw [behind, read_map, List.getLast?_map, behind]

theorem take_map (tag : Tag) (chars rest : Text) :
    (cursor.take tag chars rest).map f = (cursor.map f).take tag (chars.map f) (rest.map f) := by
  simp [take, map, Piece.map]

theorem miss_map {α β : Type} (g : α → β) (form : Form) (more : Text) (want : Want) :
    (cursor.miss form more want : Trial α).map f g =
      (cursor.map f).miss form (more.map f) want := by
  simp [miss, Trial.map, Trial.stuck, Miss.map, read_map]

end Cursor

section

variable {f : Char → Char} (unseen : Unseen f)

include unseen

theorem startsWithDigit_map (radix : Radix) (text : Text) :
    startsWithDigit radix (text.map f) = startsWithDigit radix text := by
  cases text with
  | nil => rfl
  | cons c cs => exact unseen.isDigit_eq radix c

theorem groupTail_map (radix : Radix) (text : Text) :
    groupTail radix (text.map f) = (groupTail radix text).map f := by
  induction text with
  | nil => rfl
  | cons c cs ih =>
    have separated := unseen.beq_eq separator (by simp) c
    simp only [List.map_cons, groupTail, unseen.isDigit_eq, separated,
      startsWithDigit_map unseen, ih]
    split_ifs <;> rfl

theorem group_map (radix : Radix) (text : Text) :
    group radix (text.map f) = (group radix text).map f := by
  cases text with
  | nil => rfl
  | cons c cs =>
    simp only [List.map_cons, group, unseen.isDigit_eq, groupTail_map unseen]
    split_ifs <;> rfl

variable (form : Form) (cursor : Cursor)

theorem takeGroup_map (radix : Radix) (tag : Tag) (want : Want) :
    takeGroup form radix tag want (cursor.map f) =
      (takeGroup form radix tag want cursor).map f (Cursor.map f) := by
  unfold takeGroup
  rw [Cursor.map, group_map unseen]
  cases group radix cursor.rest with
  | nil => exact (cursor.miss_map f _ form [] want).symm
  | cons c cs =>
    simp only [List.map_cons, Trial.map_done, Cursor.take_map]
    simp [Cursor.map, List.map_drop]

theorem radixLetters_map (c : Char) : radixLetters.contains (f c) = radixLetters.contains c := by
  have hexadecimal := unseen.letter_iff .hexadecimal c
  have binary := unseen.letter_iff .binary c
  have octal := unseen.letter_iff .octal c
  simp only [Radix.prefixLetters, List.mem_cons, List.not_mem_nil, or_false] at *
  rw [Bool.eq_iff_iff]
  simp only [radixLetters, List.contains_iff_mem, List.mem_cons, List.not_mem_nil, or_false]
  grind

theorem expectUnprefixed_map :
    expectUnprefixed form (cursor.map f) =
      (expectUnprefixed form cursor).map f (Cursor.map f) := by
  have zero : f '0' = '0' := (unseen.mark_iff '0' (by simp) '0').2 rfl
  have starts : (cursor.map f).rest.head? = some '0' ↔ cursor.rest.head? = some '0' := by
    simp [Cursor.map, unseen.mark_iff '0']
  have prefixed : (cursor.map f).rest.tail.head?.any radixLetters.contains =
      cursor.rest.tail.head?.any radixLetters.contains := by
    simp only [Cursor.map, ← List.map_tail, List.head?_map, Option.any_map,
      radixLetters_map unseen]
  have begins : ((cursor.map f).rest.head?.any fun c => Radix.decimal.isDigit c || c == point) =
      cursor.rest.head?.any fun c => Radix.decimal.isDigit c || c == point := by
    simp only [Cursor.map, List.head?_map, Option.any_map, unseen.isDigit_eq,
      unseen.beq_eq point (by simp)]
  rw [expectUnprefixed_eq, expectUnprefixed_eq, prefixed, begins]
  simp only [starts]
  split_ifs <;> simp [Trial.map_done, Cursor.miss_map, zero]

theorem prefixLetter?_map (radix : Radix) (text : Text) :
    prefixLetter? radix (text.map f) =
      (prefixLetter? radix text).map fun found => (f found.1, found.2.map f) := by
  cases text with
  | nil => rfl
  | cons c cs =>
    simp only [List.map_cons, prefixLetter?, unseen.letter_iff]
    split_ifs <;> rfl

theorem takePrefix_map :
    takePrefix form (cursor.map f) = (takePrefix form cursor).map f (Cursor.map f) := by
  have zero : f '0' = '0' := (unseen.mark_iff '0' (by simp) '0').2 rfl
  unfold takePrefix
  rw [show (cursor.map f).rest = cursor.rest.map f from rfl]
  split
  next rest start =>
    obtain ⟨c, kept, left, same, rfl⟩ := List.map_eq_cons_iff.1 start
    obtain rfl := (unseen.mark_iff '0' (by simp) c).1 same
    rw [left]
    simp only [prefixLetter?_map unseen]
    cases prefixLetter? form.radix kept with
    | some found => simp [Trial.map_done, Cursor.take_map, zero]
    | none =>
      simp only [Option.map_none]
      split_ifs <;> simp [Trial.map_done, Cursor.take_map, Cursor.miss_map, zero]
  next other =>
    split
    next rest start => exact absurd (by rw [start, List.map_cons, zero]) (other (rest.map f))
    next => exact (cursor.miss_map f _ form [] _).symm

theorem takeSeparator_map :
    takeSeparator (cursor.map f) = (takeSeparator cursor).map f (Cursor.map f) := by
  unfold takeSeparator
  rw [Cursor.map]
  cases cursor.rest with
  | nil => rfl
  | cons c rest =>
    simp only [List.map_cons, unseen.mark_iff separator (by simp)]
    split_ifs with separated
    next => rw [Trial.map_done, Cursor.take_map]; rfl
    next => rfl

theorem takeInteger_map :
    takeInteger form (cursor.map f) = (takeInteger form cursor).map f (Cursor.map f) := by
  have zero : f '0' = '0' := (unseen.mark_iff '0' (by simp) '0').2 rfl
  unfold takeInteger
  rw [takeGroup_map unseen]
  refine (Trial.map_andThen f _ fun next => ?_).symm
  rw [show (cursor.map f).rest = cursor.rest.map f from rfl, group_map unseen]
  split
  next d digits leading =>
    rw [leading]
    simp [Cursor.miss_map, zero]
  next single =>
    split
    next d digits leading =>
      obtain ⟨c, kept, same, first, later⟩ := List.map_eq_cons_iff.1 leading
      obtain ⟨e, more, rfl, -⟩ := List.map_eq_cons_iff.1 later
      obtain rfl := (unseen.mark_iff '0' (by simp) c).1 first
      exact (single e more same).elim
    next => exact Trial.map_done f _ next

theorem takePoint_map :
    takePoint form (cursor.map f) = (takePoint form cursor).map f (Cursor.map f) := by
  unfold takePoint
  rw [Cursor.behind_map, show (cursor.map f).rest = cursor.rest.map f from rfl]
  cases cursor.rest with
  | nil => exact (cursor.miss_map f _ form [] _).symm
  | cons c rest =>
    simp only [List.map_cons, unseen.mark_iff point (by simp), Option.any_map, unseen.isDigit_eq,
      startsWithDigit_map unseen]
    split_ifs
    next => simp [Trial.map_done, Cursor.take_map]
    next => exact (cursor.miss_map f _ form [] _).symm

theorem takeMarker_map :
    takeMarker form (cursor.map f) = (takeMarker form cursor).map f (Cursor.map f) := by
  have separated : cursor.behind.map f = some separator ↔ cursor.behind = some separator := by
    cases cursor.behind <;> simp [unseen.mark_iff separator]
  unfold takeMarker
  rw [Cursor.behind_map, show (cursor.map f).rest = cursor.rest.map f from rfl]
  cases cursor.rest with
  | nil => exact (cursor.miss_map f _ form [] _).symm
  | cons c rest =>
    simp only [List.map_cons, unseen.marker_iff, ne_eq, separated]
    split_ifs
    next => simp [Trial.map_done, Cursor.take_map]
    next => exact (cursor.miss_map f _ form [] _).symm

theorem takeSign_map : takeSign form (cursor.map f) = (takeSign form cursor).map f := by
  have plus : f '+' = '+' := (unseen.mark_iff '+' (by simp) '+').2 rfl
  have minus : f '-' = '-' := (unseen.mark_iff '-' (by simp) '-').2 rfl
  unfold takeSign
  rw [show (cursor.map f).rest = cursor.rest.map f from rfl]
  split
  next rest start =>
    obtain ⟨c, kept, left, same, rfl⟩ := List.map_eq_cons_iff.1 start
    obtain rfl := (unseen.mark_iff '+' (by simp) c).1 same
    simp [left, Cursor.take_map, plus]
  next rest start =>
    obtain ⟨c, kept, left, same, rfl⟩ := List.map_eq_cons_iff.1 start
    obtain rfl := (unseen.mark_iff '-' (by simp) c).1 same
    simp [left, Cursor.take_map, minus]
  next notPlus notMinus =>
    split
    next rest start => exact absurd (by simp [start, plus]) (notPlus (rest.map f))
    next rest start => exact absurd (by simp [start, minus]) (notMinus (rest.map f))
    next => rfl

theorem takeExponent_map :
    takeExponent form (cursor.map f) = (takeExponent form cursor).map f (Cursor.map f) := by
  unfold takeExponent
  rw [takeMarker_map unseen]
  refine (Trial.map_andThen f _ fun next => ?_).symm
  rw [takeSign_map unseen, takeGroup_map unseen]

theorem takeImaginary_map (wordAfter : Bool) :
    takeImaginary form wordAfter (cursor.map f) =
      (takeImaginary form wordAfter cursor).map f (Cursor.map f) := by
  unfold takeImaginary
  rw [show (cursor.map f).rest = cursor.rest.map f from rfl]
  cases cursor.rest with
  | nil => rfl
  | cons c rest =>
    simp only [List.map_cons, unseen.mark_iff imaginaryUnit (by simp), List.head?_map,
      Option.map_map, Function.comp_def, unseen.isWord_eq]
    split_ifs
    next => simp [Cursor.miss_map]
    next => simp [Trial.map_done, Cursor.take_map]
    next => rfl

omit unseen in
theorem expectEnd_map :
    expectEnd form (cursor.map f) = (expectEnd form cursor).map f (Cursor.map f) := by
  unfold expectEnd
  rw [show (cursor.map f).rest = cursor.rest.map f from rfl]
  cases cursor.rest with
  | nil => rfl
  | cons c rest => exact (cursor.miss_map f _ form [] _).symm

theorem Step.run_map (step : Step) :
    step.run form (cursor.map f) = (step.run form cursor).map f (Cursor.map f) := by
  cases step with
  | unprefixed => exact expectUnprefixed_map unseen form cursor
  | radixPrefix => exact takePrefix_map unseen form cursor
  | prefixSeparator =>
    rw [Step.run, Step.run, Trial.map_optional, takeSeparator_map unseen]
  | digits => exact takeGroup_map unseen form cursor _ _ _
  | maybeDigits =>
    rw [Step.run, Step.run, Trial.map_optional]
    exact congrArg _ (takeGroup_map unseen form cursor _ _ _)
  | integer => exact takeInteger_map unseen form cursor
  | point => exact takePoint_map unseen form cursor
  | exponent => exact takeExponent_map unseen form cursor
  | maybeExponent => rw [Step.run, Step.run, Trial.map_optional, takeExponent_map unseen]

theorem runSteps_map (steps : List Step) :
    runSteps form steps (cursor.map f) = (runSteps form steps cursor).map f (Cursor.map f) := by
  induction steps generalizing cursor with
  | nil => rfl
  | cons step steps ih =>
    rw [runSteps, runSteps, Step.run_map unseen]
    exact (Trial.map_andThen f _ fun next => (ih next).symm).symm

theorem finish_map (wordAfter : Bool) :
    finish form wordAfter (cursor.map f) =
      (finish form wordAfter cursor).map f (Reading.map f) := by
  unfold finish
  rw [takeImaginary_map unseen]
  simp only [← Trial.map_optional]
  refine (Trial.map_andThen f _ fun last => ?_).symm
  rw [expectEnd_map]
  refine Trial.map_andThen f _ fun _ => ?_
  rw [Trial.map_done]
  simp [Reading.map, Cursor.map, Trial.map]

theorem parse_map (table : List Production) (chars : Text) (wordAfter : Bool) :
    parse table (chars.map f) wordAfter = (parse table chars wordAfter).map f (Reading.map f) := by
  refine (Trial.map_firstOf f (fun production => ?_) table).symm
  unfold Production.parse
  have start : (⟨[], chars.map f⟩ : Cursor) = (Cursor.mk [] chars).map f := rfl
  rw [start, runSteps_map unseen]
  exact Trial.map_andThen f _ fun last => (finish_map unseen _ last wordAfter).symm

end

end Grammar

end Numeral
