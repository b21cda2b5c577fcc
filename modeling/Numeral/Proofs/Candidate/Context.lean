import Numeral.Proofs.Candidate.Found
import Numeral.Proofs.Grammar.Acceptance

/-!
A numeral is found whole wherever it stands. The scanner knows nothing of the grammar, but it
begins at every numeral, takes all that a numeral is written with, and stops behind it unless the
text goes on with something that a numeral could hold.
-/

set_option autoImplicit false

namespace Numeral

open Grammar

namespace Candidate

def signable (signed : Bool) (text : Text) : Bool :=
  (text.getLast?.map isMarker).getD signed

theorem run_append {signed : Bool} {front : Text} (taken : run signed front = front)
    (back : Text) : run signed (front ++ back) = front ++ run (signable signed front) back := by
  induction front generalizing signed with
  | nil => rfl
  | cons c cs ih =>
    rw [run] at taken
    split at taken
    next inside =>
      have later := ih (List.cons.inj taken).2
      have last : signable (isMarker c) cs = signable signed (c :: cs) := by
        cases ends : cs.getLast? <;> simp [signable, List.getLast?_cons, ends]
      rw [List.cons_append, run, if_pos inside, later, last, List.cons_append]
    next => simp at taken

/-- The scanner goes on to the end, wherever it comes from. -/
def Unbroken (text : Text) : Prop :=
  run false text = text

theorem Unbroken.run_eq {text : Text} (unbroken : Unbroken text) (signed : Bool) :
    run signed text = text := by
  cases text with
  | nil => rfl
  | cons c cs =>
    have taken : run false (c :: cs) = c :: cs := unbroken
    rw [run] at taken
    split at taken
    next inside =>
      have interior : isInterior c = true := by simpa using inside
      rw [run, interior, Bool.true_or, if_pos rfl, (List.cons.inj taken).2]
    next => simp at taken

theorem Unbroken.append {front back : Text} (first : Unbroken front) (second : Unbroken back) :
    Unbroken (front ++ back) := by
  rw [Unbroken, Candidate.run_append first, second.run_eq]

theorem unbroken_of_interior {text : Text} (inside : ∀ c ∈ text, isInterior c = true) :
    Unbroken text := by
  have runs : ∀ signed, run signed text = text := by
    induction text with
    | nil => intro signed; rfl
    | cons c cs ih =>
      intro signed
      have later := ih fun d member => inside d (List.mem_cons_of_mem c member)
      rw [run, inside c List.mem_cons_self, Bool.true_or, if_pos rfl, later]
  exact runs false

theorem unbroken_signed {marker sign : Char} (interior : isInterior marker = true)
    (marked : isMarker marker = true) (signed : isSign sign = true) :
    Unbroken [marker, sign] := by
  simp [Unbroken, Candidate.run, interior, marked, signed]

theorem digits_interior (radix : Radix) : ∀ c ∈ radix.digits, isInterior c = true := by
  apply List.all_eq_true.1
  cases radix <;> rfl

theorem markers_marked (radix : Radix) :
    ∀ c ∈ radix.exponentMarkers, isInterior c = true ∧ isMarker c = true := by
  have marked : (radix.exponentMarkers.all fun c => isInterior c && isMarker c) = true := by
    cases radix <;> rfl
  intro c member
  exact Bool.and_eq_true_iff.1 (List.all_eq_true.1 marked c member)

theorem letters_interior (radix : Radix) : ∀ c ∈ radix.prefixLetters, isInterior c = true := by
  apply List.all_eq_true.1
  cases radix <;> rfl

theorem digitGroup_unbroken {radix : Radix} {word : Text} (member : word ∈ digitGroup radix) :
    Unbroken word := by
  apply unbroken_of_interior
  intro c inside
  rcases digitGroup_chars member c inside with digit | ⟨-, underscore⟩
  next => exact digits_interior radix c digit
  next => rw [underscore]; decide

end Candidate

open Candidate

theorem Grammar.Step.Takes.unbroken {form : Form} {step : Step} {pieces : List Piece}
    (taken : step.Takes form pieces) : Unbroken (written pieces) := by
  induction taken with
  | unprefixed | noSeparator | noDigits | noExponent => rfl
  | letteredPrefix known =>
    apply unbroken_of_interior
    simpa using And.intro (by decide : isInterior '0' = true) (letters_interior _ _ known)
  | barePrefix | separator | point => exact unbroken_of_interior (by simp; decide)
  | digits group => simpa using digitGroup_unbroken group
  | integer member => simpa using digitGroup_unbroken (mem_decimalInteger.1 member).1
  | maybeDigits _ ih | maybeExponent _ ih => exact ih
  | unsignedExponent known group =>
    have marker := (markers_marked _ _ known).1
    have alone : Unbroken [_] := unbroken_of_interior (by simpa using marker)
    simpa using alone.append (digitGroup_unbroken group)
  | signedExponent sign known group =>
    obtain ⟨interior, marked⟩ := markers_marked _ _ known
    have signed : isSign sign.char = true := by cases sign <;> rfl
    simpa using (unbroken_signed interior marked signed).append (digitGroup_unbroken group)

theorem Grammar.TakesAll.unbroken {form : Form} {steps : List Step} {pieces : List Piece}
    (taken : TakesAll form steps pieces) : Unbroken (written pieces) := by
  induction taken with
  | nil => rfl
  | cons first rest ih =>
    rw [written_append]
    exact first.unbroken.append ih

theorem Grammar.Production.Derives.unbroken {production : Production} {imaginary : Bool}
    {pieces : List Piece} (derived : production.Derives imaginary pieces) :
    Unbroken (written pieces) := by
  obtain ⟨taken, takes, rfl⟩ := derived
  have last : Unbroken (written (unit imaginary)) := by
    cases imaginary <;> exact unbroken_of_interior (by simp [unit]; try decide)
  rw [written_append]
  exact takes.unbroken.append last

def Grammar.Production.opensAtDigit (production : Production) : Bool :=
  match production.steps with
  | .point :: steps => (ahead production.form steps).all fun next => next.any Candidate.isDigit
  | steps => (ahead production.form steps).all fun next => next.any Candidate.isDigit

theorem productions_open : ∀ production ∈ productions, production.opensAtDigit = true := by
  decide +kernel

theorem Candidate.starts_at_digit {before : Option Char} {front : Text} (back : Text)
    (digit : front.head?.any Candidate.isDigit = true)
    (free : before.any Unicode.isWord = false) : starts before (front ++ back) = true := by
  cases front with
  | nil => simp at digit
  | cons c cs => exact starts_digit digit free

theorem Candidate.starts_at_point {before : Option Char} {front : Text} (back : Text)
    (digit : front.head?.any Candidate.isDigit = true)
    (free : before.any Unicode.isWord = false) : starts before ('.' :: front ++ back) = true := by
  cases front with
  | nil => simp at digit
  | cons c cs =>
    have next : Candidate.isDigit c = true := digit
    simp [starts, free, next, point]

theorem Grammar.Production.Derives.starts {production : Production} {imaginary : Bool}
    {pieces : List Piece} (derived : production.Derives imaginary pieces)
    (known : production ∈ productions) {before : Option Char}
    (free : before.any Unicode.isWord = false) (back : Text) :
    starts before (written pieces ++ back) = true := by
  have opens := productions_open production known
  obtain ⟨taken, takes, rfl⟩ := derived
  rw [written_append]
  unfold Production.opensAtDigit at opens
  split at opens
  next steps pointed =>
    rw [pointed] at takes
    cases takes with
    | cons first rest =>
      cases first
      have digit := List.all_eq_true.1 opens _ (head_mem_ahead rest imaginary)
      simpa using starts_at_point back digit free
  next =>
    have digit := List.all_eq_true.1 opens _ (head_mem_ahead takes imaginary)
    exact starts_at_digit back digit free

/-- A numeral cannot go on with the character. -/
structure Candidate.Closes (chars : Text) (c : Char) : Prop where
  not_ascii_word : Unicode.isAsciiWord c = false
  not_point : c ≠ '.'
  not_sign : ∀ last, chars.getLast? = some last → isMarker last = true → isSign c = false
  not_word : chars.getLast? = some 'i' → Unicode.isWord c = false

theorem Candidate.run_closed {chars post : Text} (nonempty : chars ≠ [])
    (closed : ∀ c, post.head? = some c → Closes chars c) :
    run (signable false chars) post = [] := by
  cases post with
  | nil => rfl
  | cons c cs =>
    have ends := closed c rfl
    -- behind a marker a sign would be taken too, behind anything else only interior characters
    have outside : isInterior c = false := by
      simp [isInterior, ends.not_ascii_word, point, ends.not_point]
    have last := List.getLast?_eq_some_getLast nonempty
    have unsigned : (signable false chars && isSign c) = false := by
      rw [signable, last]
      cases marked : isMarker (chars.getLast nonempty) with
      | false => simp [marked]
      | true => simp [ends.not_sign _ last marked]
    simp [run, outside, unsigned]

theorem exists_production_of_valid {cut : Text.Excerpt}
    (valid : cut.outcome.1.kind.isInvalid = false) :
    ∃ production ∈ productions, ∃ imaginary pieces,
      production.Derives imaginary pieces ∧ written pieces = cut.inside := by
  unfold Text.Excerpt.outcome Grammar.outcome at valid
  split at valid
  next reading parsed =>
    rw [parseExcerpt, parse, Trial.result_firstOf] at parsed
    obtain ⟨production, known, read⟩ := List.exists_of_findSome?_eq_some parsed
    obtain ⟨-, derived, text, -⟩ := Production.parse_sound read
    exact ⟨production, known, _, _, derived, text⟩
  next => simp [Tree.invalid, Kind.isInvalid] at valid

theorem scan_in_context {cut : Text.Excerpt} (valid : cut.outcome.1.kind.isInvalid = false)
    (free : cut.before.getLast?.any Unicode.isWord = false)
    (closed : ∀ c, cut.after.head? = some c → Closes cut.inside c) :
    scan cut.whole cut.start = some cut.stop := by
  obtain ⟨production, known, imaginary, pieces, derived, text⟩ := exists_production_of_valid valid
  -- the scanner begins at the numeral, goes through all of it, and stops at its end
  have unbroken := derived.unbroken
  have begins := derived.starts known free
  rw [text] at unbroken begins
  have nonempty : cut.inside ≠ [] := by
    have positive := run_pos_of_starts (begins [])
    rw [List.append_nil, unbroken.run_eq] at positive
    exact List.ne_nil_of_length_pos positive
  have taken : run false (cut.inside ++ cut.after) = cut.inside := by
    rw [Candidate.run_append unbroken, run_closed nonempty closed, List.append_nil]
  rw [Text.Excerpt.whole, List.append_assoc, Text.Excerpt.start, scan_append,
    if_pos (begins cut.after), taken]
  rfl

theorem recognize_in_context (pre chars post : Text) {tree : Tree}
    (classified : classify chars 0 (Text.byteLength chars) = .ok tree)
    (valid : tree.kind.isInvalid = false)
    (free : pre.getLast?.any Unicode.isWord = false)
    (closed : ∀ c, post.head? = some c → Closes chars c)
    (fits : Text.byteLength (pre ++ chars ++ post) ≤ Range.largestBound) :
    recognize (pre ++ chars ++ post) (Text.byteLength pre) =
      .ok (some (tree.shift (Text.byteLength pre))) := by
  rw [Text.byteLength_append] at fits
  have total : Text.Excerpt.stop ⟨pre, chars, post⟩ ≤ Range.largestBound := by
    change Text.byteLength (pre ++ chars) ≤ _
    omega
  have short : Text.Excerpt.stop ⟨[], chars, []⟩ ≤ Range.largestBound := by
    rw [Text.byteLength_append] at fits
    change Text.byteLength chars ≤ _
    omega
  have alone : (Text.Excerpt.outcome ⟨[], chars, []⟩).1 = tree := by
    have whole := classify_whole ⟨[], chars, []⟩ short
    rw [Text.Excerpt.whole, List.append_nil] at whole
    exact Except.ok.inj (whole.symm.trans classified)
  have moved : (Text.Excerpt.outcome ⟨pre, chars, post⟩).1 = tree.shift (Text.byteLength pre) := by
    have further : Text.Excerpt.start ⟨pre, chars, post⟩ =
        Text.byteLength pre + Text.Excerpt.start ⟨[], chars, []⟩ := rfl
    rw [Text.Excerpt.outcome_moved further rfl, alone]
    intro unit
    cases post with
    | nil => rfl
    | cons c cs => exact (closed c rfl).not_word unit
  have still : (Text.Excerpt.outcome ⟨pre, chars, post⟩).1.kind.isInvalid = false := by
    rw [moved]
    exact valid
  have scanned := scan_in_context still free closed
  have classified := classify_whole ⟨pre, chars, post⟩ total
  rw [moved] at classified
  change scan (pre ++ chars ++ post) (Text.byteLength pre) = _ at scanned
  rw [recognize, scanned]
  change (classify (pre ++ chars ++ post) (Text.byteLength pre) _).map some = _
  exact congrArg (Except.map some) classified

theorem recognize_in_context_signed :
    (classify ['1', 'e', '+', '5', 'i'] 0 5).map (fun tree => tree.kind) =
        .ok (.float .decimal true) ∧
      Closes ['1', 'e', '+', '5', 'i'] '+' ∧
      ∃ tree, classify ['1', 'e', '+', '5', 'i'] 0 5 = .ok tree ∧
        recognize ['é', '(', '1', 'e', '+', '5', 'i', '+', '1'] 3 = .ok (some (tree.shift 3)) := by
  have closes : Closes ['1', 'e', '+', '5', 'i'] '+' := by
    refine ⟨by decide, by decide, ?_, fun _ => by decide⟩
    rintro _ ⟨⟩ marked
    exact absurd marked (by decide)
  refine ⟨rfl, closes, _, rfl, ?_⟩
  refine recognize_in_context ['é', '('] ['1', 'e', '+', '5', 'i'] ['+', '1'] rfl rfl (by decide) ?_
    (by decide)
  rintro _ ⟨⟩
  exact closes

end Numeral
