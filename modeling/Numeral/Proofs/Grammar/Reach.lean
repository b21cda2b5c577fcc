import Numeral.Proofs.Grammar.Viable

set_option autoImplicit false

open scoped Computability

namespace Numeral.Grammar

/-- Of the characters all have been read, or all but a separator or point at their end. -/
def Near (chars read : Text) : Prop :=
  chars.length ≤ read.length ∨
    chars.length = read.length + 1 ∧
      (chars.getLast? = some separator ∨ chars.getLast? = some point)

namespace Near

variable {chars read : Text}

theorem mono {longer : Text} (near : Near chars read) (further : read.length ≤ longer.length) :
    Near chars longer := by
  rcases near with all | ⟨length, last⟩
  next => exact .inl (Nat.le_trans all further)
  next =>
    by_cases same : chars.length ≤ longer.length
    next => exact .inl same
    next => exact .inr ⟨by omega, last⟩

theorem append (near : Near chars read) (nonempty : chars ≠ []) (front : Text) :
    Near (front ++ chars) (front ++ read) := by
  unfold Near
  rw [List.length_append, List.length_append, List.getLast?_append_of_ne_nil _ nonempty]
  exact near.imp (fun all => by omega) fun dangling => ⟨by omega, dangling.2⟩

theorem of_front (within : chars <+: read) : Near chars read :=
  .inl within.length_le

end Near

section

variable {radix : Radix}

theorem laterDigits_front {later front : Text} (member : later ∈ (laterDigit radix)∗)
    (part : front <+: later) :
    front ∈ (laterDigit radix)∗ ∨ ∃ less ∈ (laterDigit radix)∗, front = less ++ ['_'] := by
  induction later, member using laterDigits_induction generalizing front with
  | nil => exact .inl (List.prefix_nil.1 part ▸ Language.nil_mem_kstar _)
  | digit d later isDigit _ ih =>
    rcases List.prefix_cons_iff.1 part with rfl | ⟨rest, rfl, shorter⟩
    next => exact .inl (Language.nil_mem_kstar _)
    next =>
      rcases ih shorter with inside | ⟨less, inside, rfl⟩
      next => exact .inl (cons_laterDigits isDigit inside)
      next => exact .inr ⟨d :: less, cons_laterDigits isDigit inside, rfl⟩
  | separated d later separators isDigit _ ih =>
    rcases List.prefix_cons_iff.1 part with rfl | ⟨rest, rfl, shorter⟩
    next => exact .inl (Language.nil_mem_kstar _)
    next =>
      rcases List.prefix_cons_iff.1 shorter with rfl | ⟨fewer, rfl, least⟩
      next => exact .inr ⟨[], Language.nil_mem_kstar _, rfl⟩
      next =>
        rcases ih least with inside | ⟨less, inside, rfl⟩
        next => exact .inl (separated_laterDigits separators isDigit inside)
        next => exact .inr ⟨_, separated_laterDigits separators isDigit inside, rfl⟩

theorem prefix_groupTail {later : Text} (member : later ∈ (laterDigit radix)∗) (rest : Text) :
    later <+: groupTail radix (later ++ rest) := by
  induction later, member using laterDigits_induction with
  | nil => exact List.nil_prefix
  | digit d later isDigit _ ih =>
    simpa [groupTail, (Radix.isDigit_iff radix d).2 isDigit] using ih
  | separated d later separators isDigit _ ih =>
    simpa [groupTail, startsWithDigit, underscore_not_digit, separator, separators,
      (Radix.isDigit_iff radix d).2 isDigit] using ih

theorem group_near {word front : Text} (member : word ∈ digitGroup radix) (part : front <+: word)
    (nonempty : front ≠ []) (rest : Text) :
    group radix (front ++ rest) ≠ [] ∧ Near front (group radix (front ++ rest)) := by
  obtain ⟨d, isDigit, later, inside, rfl⟩ := mem_digitGroup.1 member
  obtain ⟨first, rfl, shorter⟩ := (List.prefix_cons_iff.1 part).resolve_left nonempty
  have taken : group radix (d :: first ++ rest) = d :: groupTail radix (first ++ rest) := by
    simp [group, (Radix.isDigit_iff radix d).2 isDigit]
  rw [taken]
  refine ⟨List.cons_ne_nil _ _, ?_⟩
  rcases laterDigits_front inside shorter with whole | ⟨less, whole, rfl⟩
  next => exact .of_front ((List.prefix_append_right_inj [d]).2 (prefix_groupTail whole rest))
  next =>
    have reached := (prefix_groupTail whole ('_' :: rest)).length_le
    rw [List.append_assoc, List.singleton_append]
    by_cases further : (d :: (less ++ ['_'])).length ≤
        (d :: groupTail radix (less ++ '_' :: rest)).length
    next => exact .inl further
    next =>
      simp only [List.length_cons, List.length_append, List.length_nil] at further
      refine .inr ⟨?_, .inl ?_⟩
      next =>
        simp only [List.length_cons, List.length_append, List.length_nil]
        omega
      next => rw [← List.cons_append, List.getLast?_concat]; rfl

end

/-- The characters have about all been read, be it by what the trial took or at a miss. -/
def Reaches (trial : Trial Cursor) (chars : Text) : Prop :=
  (∃ miss ∈ trial.misses, Near chars miss.read) ∨
    ∃ next, trial.result = some next ∧ Near chars next.read

section

variable {form : Form} {cursor next : Cursor} {chars : Text}

theorem reaches_done (near : Near chars next.read) : Reaches (.done next) chars :=
  .inr ⟨next, rfl, near⟩

theorem reaches_miss {more : Text} (near : Near chars (cursor.read ++ more)) (want : Want) :
    Reaches (cursor.miss form more want) chars :=
  .inl ⟨_, List.mem_singleton_self _, near⟩

theorem Reaches.optional {trial : Trial Cursor} (reaches : Reaches trial chars) :
    Reaches (trial.optional cursor) chars := by
  refine reaches.imp id ?_
  rintro ⟨next, found, near⟩
  exact ⟨next, by rw [Trial.result_optional, found, Option.getD_some], near⟩

theorem Reaches.andThen {first : Trial Cursor} {later : Cursor → Trial Cursor}
    (found : first.result = some next) (reaches : Reaches (later next) chars) :
    Reaches (first.andThen later) chars := by
  rcases reaches with ⟨miss, member, near⟩ | ⟨last, same, near⟩
  next => exact .inl ⟨miss, Trial.mem_andThen_next found member, near⟩
  next => exact .inr ⟨last, by rw [Trial.result_andThen, found, Option.bind_some, same], near⟩

section

variable {front rest : Text} (start : cursor.rest = front ++ rest)

include start

theorem takeGroup_reaches {radix : Radix} {tag : Tag} {want : Want} {word : Text}
    (member : word ∈ digitGroup radix) (part : front <+: word) (nonempty : front ≠ []) :
    ∃ next, (takeGroup form radix tag want cursor).result = some next ∧
      Near (cursor.read ++ front) next.read := by
  obtain ⟨taken, near⟩ := group_near member part nonempty rest
  unfold takeGroup
  rw [start]
  split
  next nothing => exact absurd nothing taken
  next digits _ =>
    refine ⟨_, rfl, ?_⟩
    rw [Cursor.read_take]
    exact near.append nonempty _

omit start in
theorem radixPrefix_front {pieces : List Piece} (taken : Step.radixPrefix.Takes form pieces)
    (part : front <+: written pieces) (nonempty : front ≠ []) :
    ∃ more, front = '0' :: more ∧
      (more = [] ∨ ∃ letter ∈ form.radix.prefixLetters, more = [letter]) := by
  cases taken with
  | letteredPrefix known =>
    obtain ⟨more, rfl, shorter⟩ := (List.prefix_cons_iff.1 part).resolve_left nonempty
    rcases List.prefix_cons_iff.1 shorter with rfl | ⟨none, rfl, shortest⟩
    next => exact ⟨_, rfl, .inl rfl⟩
    next => exact ⟨_, rfl, .inr ⟨_, known, by rw [List.prefix_nil.1 shortest]⟩⟩
  | barePrefix octal =>
    obtain ⟨more, rfl, shorter⟩ := (List.prefix_cons_iff.1 part).resolve_left nonempty
    exact ⟨_, rfl, .inl (List.prefix_nil.1 shorter)⟩

theorem takePrefix_reaches {pieces : List Piece} (taken : Step.radixPrefix.Takes form pieces)
    (part : front <+: written pieces) (nonempty : front ≠ []) :
    Reaches (takePrefix form cursor) (cursor.read ++ front) := by
  obtain ⟨more, rfl, letters⟩ := radixPrefix_front taken part nonempty
  unfold takePrefix
  rw [start]
  simp only [List.cons_append]
  split
  next c after lettered =>
    refine reaches_done (.inl ?_)
    rcases letters with rfl | ⟨letter, -, rfl⟩ <;> simp
  next unlettered =>
    -- a letter would have been taken
    obtain rfl : more = [] := by
      refine letters.resolve_right ?_
      rintro ⟨letter, known, rfl⟩
      simp [prefixLetter?, known] at unlettered
    split
    next => exact reaches_done (.inl (by simp))
    next => exact reaches_miss (.inl (by simp)) _

theorem takeInteger_reaches {word : Text} (member : word ∈ decimalInteger) (part : front <+: word)
    (nonempty : front ≠ []) : Reaches (takeInteger form cursor) (cursor.read ++ front) := by
  obtain ⟨group, noLeadingZero⟩ := mem_decimalInteger.1 member
  obtain ⟨next, found, near⟩ := takeGroup_reaches start group part nonempty
  refine Reaches.andThen found ?_
  split
  next c digits leading =>
    -- so the integer is the zero alone
    obtain ⟨d, more, rfl⟩ := List.exists_cons_of_ne_nil nonempty
    have ahead := group_isPrefix .decimal cursor.rest
    rw [leading, start, List.cons_append] at ahead
    obtain ⟨rfl, -⟩ := List.cons_prefix_cons.1 ahead
    obtain ⟨later, rfl⟩ := part
    cases more with
    | nil => exact reaches_miss (.inl (Nat.le_refl _)) _
    | cons e more => exact absurd rfl (noLeadingZero e (more ++ later))
  next => exact reaches_done near

theorem takePoint_reaches (part : front <+: ['.']) (nonempty : front ≠ []) :
    Reaches (takePoint form cursor) (cursor.read ++ front) := by
  obtain ⟨more, rfl, shorter⟩ := (List.prefix_cons_iff.1 part).resolve_left nonempty
  obtain rfl := List.prefix_nil.1 shorter
  unfold takePoint
  rw [start]
  simp only [List.singleton_append]
  split
  next => exact reaches_done (.inl (by simp))
  next =>
    refine reaches_miss (.inr ⟨by simp, .inr ?_⟩) _
    rw [List.getLast?_concat]
    rfl

omit start in
theorem takeGroup_keeps {radix : Radix} {tag : Tag} {want : Want} (near : Near chars cursor.read) :
    Reaches (takeGroup form radix tag want cursor) chars := by
  unfold takeGroup
  split
  next => exact reaches_miss (near.mono (by simp)) _
  next => exact reaches_done (near.mono (by simp))

theorem exponentDigits_reaches {tag : Tag} {want : Want} {word : Text}
    (member : word ∈ digitGroup .decimal) (part : front <+: word) :
    Reaches (takeGroup form .decimal tag want cursor) (cursor.read ++ front) := by
  by_cases nothing : front = []
  next => exact takeGroup_keeps (.inl (by simp [nothing]))
  next => exact .inr (takeGroup_reaches start member part nothing)

theorem signedDigits_reaches {tag : Tag} {want : Want} {word : Text}
    (member : word ∈ digitGroup .decimal)
    (part : front <+: word ∨ ∃ sign : Sign, front <+: sign.char :: word) :
    Reaches (takeGroup form .decimal tag want (takeSign form cursor)) (cursor.read ++ front) := by
  by_cases nothing : front = []
  next =>
    -- a sign that comes all the same has been read besides
    refine takeGroup_keeps (.inl ?_)
    rcases takeSign_moves form cursor with moves | ⟨sign, moves⟩ <;>
      simp [moves.read_eq, nothing]
  next =>
    obtain ⟨before, ahead⟩ := cursor
    obtain rfl : ahead = front ++ rest := start
    rcases part with unsigned | ⟨sign, signed⟩
    next =>
      obtain ⟨d, isDigit, later, -, rfl⟩ := mem_digitGroup.1 member
      obtain ⟨ds, rfl, -⟩ := (List.prefix_cons_iff.1 unsigned).resolve_left nothing
      rw [List.cons_append, takeSign_digit isDigit]
      exact exponentDigits_reaches rfl member unsigned
    next =>
      obtain ⟨digits, rfl, shorter⟩ := (List.prefix_cons_iff.1 signed).resolve_left nothing
      let next := Cursor.take ⟨before, sign.char :: digits ++ rest⟩
        (.exponentSign sign form.radix) [sign.char] (digits ++ rest)
      have taken : takeSign form ⟨before, sign.char :: digits ++ rest⟩ = next := by
        cases sign <;> rfl
      have left : next.rest = digits ++ rest := rfl
      have further : Cursor.read ⟨before, sign.char :: digits ++ rest⟩ ++ sign.char :: digits =
          next.read ++ digits := by simp [next]
      rw [taken, further]
      exact exponentDigits_reaches left member shorter

omit start in
theorem exponent_front {pieces : List Piece} (taken : Step.exponent.Takes form pieces)
    (part : front <+: written pieces) (nonempty : front ≠ []) :
    ∃ marker ∈ form.radix.exponentMarkers, ∃ word ∈ digitGroup .decimal, ∃ more,
      front = marker :: more ∧ (more <+: word ∨ ∃ sign : Sign, more <+: sign.char :: word) := by
  cases taken with
  | unsignedExponent known group =>
    obtain ⟨more, rfl, shorter⟩ := (List.prefix_cons_iff.1 part).resolve_left nonempty
    exact ⟨_, known, _, group, more, rfl, .inl (by simpa using shorter)⟩
  | signedExponent sign known group =>
    obtain ⟨more, rfl, shorter⟩ := (List.prefix_cons_iff.1 part).resolve_left nonempty
    exact ⟨_, known, _, group, more, rfl, .inr ⟨sign, by simpa using shorter⟩⟩

theorem takeExponent_reaches {pieces : List Piece} (taken : Step.exponent.Takes form pieces)
    (part : front <+: written pieces) (nonempty : front ≠ [])
    (joined : cursor.behind ≠ some separator) :
    Reaches (takeExponent form cursor) (cursor.read ++ front) := by
  obtain ⟨marker, known, word, group, more, rfl, digits⟩ := exponent_front taken part nonempty
  obtain ⟨before, ahead⟩ := cursor
  obtain rfl : ahead = marker :: more ++ rest := start
  let next := Cursor.take ⟨before, marker :: more ++ rest⟩ (.exponentMarker form.radix) [marker]
    (more ++ rest)
  have left : next.rest = more ++ rest := rfl
  have further : Cursor.read ⟨before, marker :: more ++ rest⟩ ++ marker :: more =
      next.read ++ more := by simp [next]
  rw [further]
  exact Reaches.andThen (takeMarker_append known joined) (signedDigits_reaches left group digits)

/-- A step that finds the beginning of what it may take does not get stuck long before its end. -/
theorem Step.run_reaches {step : Step} {pieces : List Piece} (taken : step.Takes form pieces)
    (part : front <+: written pieces) (nonempty : front ≠ [])
    (joined : step = .exponent ∨ step = .maybeExponent → cursor.behind ≠ some separator) :
    Reaches (step.run form cursor) (cursor.read ++ front) := by
  have nothing (empty : front <+: written []) : Reaches (step.run form cursor)
      (cursor.read ++ front) := absurd (List.prefix_nil.1 empty) nonempty
  cases step with
  | unprefixed =>
    cases taken
    exact nothing part
  | radixPrefix => exact takePrefix_reaches start taken part nonempty
  | prefixSeparator =>
    cases taken with
    | noSeparator => exact nothing part
    | separator =>
      obtain ⟨more, rfl, shorter⟩ := (List.prefix_cons_iff.1 part).resolve_left nonempty
      obtain rfl := List.prefix_nil.1 shorter
      have found : (takeSeparator cursor).result = some (cursor.take .separator ['_'] rest) := by
        unfold takeSeparator
        rw [start]
        simp [separator]
      exact Reaches.optional (.inr ⟨_, found, .inl (by rw [Cursor.read_take])⟩)
  | digits =>
    cases taken with
    | digits group => exact .inr (takeGroup_reaches start group (by simpa using part) nonempty)
  | maybeDigits =>
    cases taken with
    | noDigits => exact nothing part
    | maybeDigits taken =>
      cases taken with
      | digits group =>
        exact Reaches.optional
          (.inr (takeGroup_reaches start group (by simpa using part) nonempty))
  | integer =>
    cases taken with
    | integer member => exact takeInteger_reaches start member (by simpa using part) nonempty
  | point =>
    cases taken
    exact takePoint_reaches start part nonempty
  | exponent => exact takeExponent_reaches start taken part nonempty (joined (.inl rfl))
  | maybeExponent =>
    cases taken with
    | noExponent => exact nothing part
    | maybeExponent taken =>
      exact (takeExponent_reaches start taken part nonempty (joined (.inr rfl))).optional

theorem expectUnprefixed_reaches {c : Char} {more : Text} (same : front = c :: more)
    (starts : c ∈ Radix.decimal.digits ∨ c = '.') (unlettered : ∀ d ∈ more, d ∉ radixLetters) :
    (expectUnprefixed form cursor).result = some cursor ∨
      Reaches (expectUnprefixed form cursor) (cursor.read ++ front) := by
  have head : cursor.rest.head? = some c := by rw [start, same]; rfl
  have tail : cursor.rest.tail = more ++ rest := by rw [start, same]; rfl
  rw [expectUnprefixed_eq]
  split_ifs with zero lettered known
  next =>
    -- so the numeral has only the zero so far
    obtain rfl : c = '0' := by simpa [head] using zero
    obtain rfl : more = [] := by
      cases more with
      | nil => rfl
      | cons d more =>
        have known : d ∈ radixLetters := by simpa [tail] using lettered
        exact absurd known (unlettered d List.mem_cons_self)
    exact .inr (reaches_miss (.inl (by simp [same])) _)
  next => exact .inl rfl
  next => exact .inl rfl
  next =>
    refine absurd ?_ known
    simpa [head, Radix.isDigit_iff, point] using starts

end

end

section

variable {form : Form} {wordAfter : Bool} {steps : List Step} {cursor : Cursor} {chars : Text}

theorem finish_near {rest : Text} (unit : cursor.rest = 'i' :: rest)
    (failed : (finish form wordAfter cursor).result = none) :
    ∃ miss ∈ (finish form wordAfter cursor).misses, Near (cursor.read ++ ['i']) miss.read := by
  by_cases word : (rest.head?.map Unicode.isWord).getD wordAfter = true
  next =>
    have stuck : takeImaginary form wordAfter cursor = cursor.miss form ['i'] .finish := by
      unfold takeImaginary
      rw [unit]
      simp [imaginaryUnit, word]
    refine ⟨⟨form, cursor.read ++ ['i'], .finish⟩, Trial.mem_andThen_first ?_, .inl (Nat.le_refl _)⟩
    rw [stuck]
    exact List.mem_singleton_self _
  next =>
    let last := cursor.take .imaginary ['i'] rest
    have taken : takeImaginary form wordAfter cursor = .done last := by
      unfold takeImaginary
      rw [unit]
      simp [imaginaryUnit, word, last]
    have found : ((takeImaginary form wordAfter cursor).optional cursor).result = some last := by
      rw [taken]
      rfl
    have after : last.read = cursor.read ++ ['i'] := cursor.read_take _ _ _
    cases rest with
    | nil => exact absurd failed (by simp [finish, taken, expectEnd, last, Cursor.take])
    | cons c rest =>
      have stuck : expectEnd form last = last.miss form [] .finish := rfl
      refine ⟨⟨form, last.read ++ [], .finish⟩,
        Trial.mem_andThen_next found (Trial.mem_andThen_first ?_), .inl (by simp [after])⟩
      rw [stuck]
      exact List.mem_singleton_self _

theorem Reaches.missed {step : Step} (reaches : Reaches (step.run form cursor) chars)
    (failed : (complete form wordAfter (step :: steps) cursor).result = none) :
    ∃ miss ∈ (complete form wordAfter (step :: steps) cursor).misses, Near chars miss.read := by
  rw [complete_cons] at failed ⊢
  rcases reaches with ⟨miss, member, near⟩ | ⟨next, found, near⟩
  next => exact ⟨miss, Trial.mem_andThen_first member, near⟩
  next =>
    rw [Trial.result_andThen, found, Option.bind_some] at failed
    obtain ⟨miss, member, further⟩ := exists_miss_ahead failed
    exact ⟨miss, Trial.mem_andThen_next found member, near.mono further⟩

end

section

variable {form : Form} {wordAfter : Bool}

theorem prefix_append_cases {front first second : Text} (part : front <+: first ++ second) :
    front <+: first ∨ ∃ more, more ≠ [] ∧ front = first ++ more ∧ more <+: second := by
  obtain ⟨tail, same⟩ := part
  rcases List.append_eq_append_iff.1 same with ⟨left, rfl, -⟩ | ⟨more, rfl, rest⟩
  next => exact .inl (List.prefix_append front left)
  next =>
    by_cases nothing : more = []
    next => exact .inl (by simp [nothing])
    next => exact .inr ⟨more, nothing, rfl, tail, rest.symm⟩

theorem Step.joined_of_predictable {step : Step} {behind next : List (Option Char)}
    {later : List Char} {before : List Piece} {rest : Text}
    (predictable : step.isPredictable form behind next later = true)
    (last : (written before).getLast? ∈ behind)
    (marked : step = .exponent ∨ step = .maybeExponent) :
    Cursor.behind ⟨before, rest⟩ ≠ some separator := by
  rcases marked with rfl | rfl <;>
    simp only [isPredictable, Bool.and_eq_true, List.all_eq_true, decide_eq_true_eq] at predictable
  next => exact predictable.1 _ last
  next => exact predictable.1 _ last

theorem Step.run_onward {step : Step} {steps : List Step} {behind : List (Option Char)}
    {first back before : List Piece} {front rest : Text} {imaginary : Bool}
    (predictable : step.isPredictable form behind (ahead form steps)
      (Grammar.alphabet form steps) = true)
    (taken : step.Takes form first) (onward : TakesAll form steps back)
    (last : (written before).getLast? ∈ behind) (nonempty : front ≠ [])
    (part : front <+: written back ++ written (unit imaginary)) :
    (step.run form ⟨before, written first ++ (front ++ rest)⟩).result =
        some ⟨before ++ first, front ++ rest⟩ ∨
      Reaches (step.run form ⟨before, written first ++ (front ++ rest)⟩)
        (written before ++ (written first ++ front)) := by
  obtain ⟨c, more, rfl⟩ := List.exists_cons_of_ne_nil nonempty
  have head : some c ∈ ahead form steps := by
    have next := head_mem_ahead onward imaginary
    obtain ⟨later, same⟩ := part
    rwa [← same] at next
  by_cases other : step = .unprefixed
  next =>
    subst other
    cases taken
    simp only [isPredictable, Bool.and_eq_true, List.all_eq_true] at predictable
    obtain ⟨starts, unlettered⟩ := predictable
    have known : ∀ d ∈ more, d ∉ radixLetters := fun d member => by
      have inside := part.subset (List.mem_cons_of_mem c member)
      simpa using unlettered d (mem_alphabet onward imaginary d inside)
    have start : Cursor.rest ⟨before, c :: more ++ rest⟩ = c :: more ++ rest := rfl
    rw [List.append_nil]
    exact expectUnprefixed_reaches start rfl (by simpa using starts _ head) known
  next =>
    rw [isPredictable_later other behind _ _ (c :: more ++ rest)] at predictable
    exact .inl (run_predicted predictable taken last head fun d member => member)

/-- Steps that do not read a text to its end miss something about as far as any text that they
may take is like it. -/
theorem complete_near {steps : List Step} {behind : List (Option Char)} {pieces : List Piece}
    (predictable : arePredictable form behind steps = true) (taken : TakesAll form steps pieces)
    (imaginary : Bool) {before : List Piece} (last : (written before).getLast? ∈ behind)
    {front rest : Text} (part : front <+: written pieces ++ written (unit imaginary))
    (failed : (complete form wordAfter steps ⟨before, front ++ rest⟩).result = none) :
    ∃ miss ∈ (complete form wordAfter steps ⟨before, front ++ rest⟩).misses,
      Near (written before ++ front) miss.read := by
  by_cases nonempty : front = []
  next =>
    obtain ⟨miss, member, further⟩ := exists_miss_ahead failed
    exact ⟨miss, member, .inl (by rw [nonempty, List.append_nil]; exact further)⟩
  induction taken generalizing before behind front with
  | nil =>
    cases imaginary with
    | false => exact absurd (List.prefix_nil.1 part) nonempty
    | true =>
      obtain ⟨more, rfl, shorter⟩ := (List.prefix_cons_iff.1 part).resolve_left nonempty
      obtain rfl := List.prefix_nil.1 shorter
      rw [complete_nil] at failed ⊢
      exact finish_near rfl failed
  | @cons step steps first back takes onward ih =>
    simp only [arePredictable, Bool.and_eq_true] at predictable
    obtain ⟨now, later⟩ := predictable
    rw [written_append, List.append_assoc] at part
    rcases prefix_append_cases part with within | ⟨more, unread, rfl, shorter⟩
    next =>
      have joined : step = .exponent ∨ step = .maybeExponent →
          Cursor.behind ⟨before, front ++ rest⟩ ≠ some separator :=
        Step.joined_of_predictable now last
      exact (Step.run_reaches rfl takes within nonempty joined).missed failed
    next =>
      rw [List.append_assoc] at failed ⊢
      rcases Step.run_onward now takes onward last unread shorter with found | reaches
      next =>
        rw [complete_cons, Trial.result_andThen, found, Option.bind_some] at failed
        obtain ⟨miss, member, near⟩ := ih later (takes.closed last) shorter failed unread
        rw [written_append, List.append_assoc] at near
        rw [complete_cons]
        exact ⟨miss, Trial.mem_andThen_next found member, near⟩
      next => exact reaches.missed failed

end

section

variable {wordAfter : Bool} {chars front : Text} (viable : Viable front) (ahead : front <+: chars)
  (failed : (parse productions chars wordAfter).result = none)

include viable ahead failed

theorem parse_near :
    ∃ miss ∈ (parse productions chars wordAfter).misses, Near front miss.read := by
  obtain ⟨form, imaginary, word, spelled, part⟩ := viable
  obtain ⟨production, listed, _, ⟨pieces, taken, rfl⟩, rfl⟩ := spells_iff_derives.1 spelled
  obtain ⟨rfl, known⟩ := mem_productionsOf.1 listed
  obtain ⟨rest, rfl⟩ := ahead
  have stuck : (production.parse (front ++ rest) wordAfter).result = none := by
    have each := failed
    rw [parse, Trial.result_firstOf] at each
    exact List.findSome?_eq_none_iff.1 each production known
  rw [written_append] at part
  obtain ⟨miss, member, near⟩ := complete_near (productions_predictable production known)
    taken imaginary (List.mem_singleton_self none) part stuck
  exact ⟨miss, Trial.mem_firstOf failed production known miss member, near⟩

theorem furthest_near {miss : Miss}
    (furthest : Miss.furthest (parse productions chars wordAfter).misses = some miss) :
    Near front miss.read := by
  obtain ⟨other, member, near⟩ := parse_near viable ahead failed
  exact near.mono (Miss.furthest_le furthest other member)

end

end Numeral.Grammar
