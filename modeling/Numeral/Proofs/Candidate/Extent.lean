import Mathlib.Order.Bounds.Basic
import Numeral.Proofs.Candidate.Context
import Numeral.Proofs.Search.Totality

set_option autoImplicit false

open scoped Computability

namespace Numeral

open Grammar

/-- No text has more bytes: offsets into memory have a sign. -/
def Text.largestLength : Nat := 9223372036854775807

namespace Candidate

def interiorChars : List Char :=
  ['0', '1', '2', '3', '4', '5', '6', '7', '8', '9',
   'A', 'B', 'C', 'D', 'E', 'F', 'G', 'H', 'I', 'J', 'K', 'L', 'M',
   'N', 'O', 'P', 'Q', 'R', 'S', 'T', 'U', 'V', 'W', 'X', 'Y', 'Z',
   'a', 'b', 'c', 'd', 'e', 'f', 'g', 'h', 'i', 'j', 'k', 'l', 'm',
   'n', 'o', 'p', 'q', 'r', 's', 't', 'u', 'v', 'w', 'x', 'y', 'z', '_', '.']

def extent : Language Char :=
  (oneOf interiorChars + oneOf ['e', 'E', 'p', 'P'] * oneOf ['+', '-'])∗

def StartsAt (text : Text) (offset : Nat) : Prop :=
  ∃ front back, text = front ++ back ∧ Text.byteLength front = offset ∧
    (∀ c, front.getLast? = some c → Unicode.isWord c = false) ∧
    ∃ d ∈ Radix.decimal.digits, [d] <+: back ∨ ['.', d] <+: back

/-- The candidate inside a cut is the longest there is from where it starts, and it is one
wherever else no word is in front, also if the text ends with it. -/
structure Longest (cut : Text.Excerpt) : Prop where
  nonempty : 0 < Text.byteLength cut.inside
  greatest : IsGreatest
    {length | ∃ word ∈ extent, word <+: cut.inside ++ cut.after ∧ Text.byteLength word = length}
    (Text.byteLength cut.inside)
  ascii : ∀ c ∈ cut.inside, c.toNat < 128
  one_line : ∀ c ∈ cut.inside, c ∉ ['\n', '\r', '\x0b', '\x0c']
  elsewhere : ∀ front : Text, (∀ c, front.getLast? = some c → Unicode.isWord c = false) →
    ∀ back, back = [] ∨ back = cut.after →
      scan (front ++ cut.inside ++ back) (Text.byteLength front) =
        some (Text.byteLength front + Text.byteLength cut.inside)

theorem isInterior_iff (c : Char) : isInterior c = true ↔ c ∈ interiorChars := by
  constructor
  next =>
    have every : ∀ code < 128, isInterior (Char.ofNat code) = true →
        Char.ofNat code ∈ interiorChars := by decide +kernel
    intro interior
    have listed := every c.toNat (asciiOnly_isInterior c interior)
    rw [Char.ofNat_toNat] at listed
    exact listed interior
  next =>
    have every : (interiorChars.all isInterior) = true := by decide +kernel
    exact List.all_eq_true.1 every c

theorem isMarker_iff (c : Char) : isMarker c = true ↔ c ∈ ['e', 'E', 'p', 'P'] := by
  simp [isMarker, or_assoc]

theorem isSign_iff (c : Char) : isSign c = true ↔ c ∈ ['+', '-'] := by
  simp [isSign]

theorem isMarker_isInterior {c : Char} (marked : isMarker c = true) : isInterior c = true := by
  have every : (['e', 'E', 'p', 'P'].all isInterior) = true := rfl
  exact List.all_eq_true.1 every c ((isMarker_iff c).1 marked)

theorem cons_extent {c : Char} {rest : Text} (interior : isInterior c = true)
    (later : rest ∈ extent) : c :: rest ∈ extent := by
  rw [extent, ← Language.one_add_self_mul_kstar_eq_kstar]
  exact .inr ⟨[c], .inl ⟨c, (isInterior_iff c).1 interior, rfl⟩, rest, later, rfl⟩

theorem signed_extent {marker sign : Char} {rest : Text} (marked : isMarker marker = true)
    (signed : isSign sign = true) (later : rest ∈ extent) : marker :: sign :: rest ∈ extent := by
  rw [extent, ← Language.one_add_self_mul_kstar_eq_kstar]
  have pair : [marker, sign] ∈ oneOf ['e', 'E', 'p', 'P'] * oneOf ['+', '-'] :=
    ⟨[marker], ⟨marker, (isMarker_iff marker).1 marked, rfl⟩,
      [sign], ⟨sign, (isSign_iff sign).1 signed, rfl⟩, rfl⟩
  exact .inr ⟨[marker, sign], .inr pair, rest, later, rfl⟩

theorem run_extent (text : Text) :
    run false text ∈ extent ∧ ∀ marker, isMarker marker = true →
      marker :: run true text ∈ extent := by
  -- a sign is no word by itself, so a run behind a marker is told together with the marker
  induction text with
  | nil =>
    have none : [] ∈ extent := Language.nil_mem_kstar _
    exact ⟨none, fun marker marked => cons_extent (isMarker_isInterior marked) none⟩
  | cons c cs ih =>
    have inside (interior : isInterior c = true) : c :: run (isMarker c) cs ∈ extent := by
      cases marked : isMarker c with
      | true => exact ih.2 c marked
      | false => exact cons_extent interior ih.1
    by_cases interior : isInterior c = true
    next =>
      simp only [run, interior, Bool.true_or, if_true]
      exact ⟨inside interior, fun marker marked =>
        cons_extent (isMarker_isInterior marked) (inside interior)⟩
    next =>
      have unmarked : isMarker c = false :=
        Bool.eq_false_iff.2 fun marked => interior (isMarker_isInterior marked)
      simp only [run, interior, Bool.false_or, Bool.false_and, Bool.true_and, unmarked]
      refine ⟨Language.nil_mem_kstar _, fun marker marked => ?_⟩
      by_cases signed : isSign c = true
      next =>
        rw [if_pos signed]
        exact signed_extent marked signed ih.1
      next =>
        rw [if_neg signed]
        exact cons_extent (isMarker_isInterior marked) (Language.nil_mem_kstar _)

theorem unbroken_iff_extent (word : Text) : Unbroken word ↔ word ∈ extent := by
  constructor
  next =>
    intro unbroken
    have member := (run_extent word).1
    rwa [unbroken] at member
  next =>
    rintro ⟨blocks, rfl, each⟩
    induction blocks with
    | nil => exact unbroken_of_interior (by simp)
    | cons block blocks ih =>
      have later := ih fun other member => each other (List.mem_cons_of_mem _ member)
      refine Unbroken.append ?_ later
      rcases each block List.mem_cons_self with ⟨c, interior, rfl⟩ | ⟨_, marker, _, sign, rfl⟩
      next => exact unbroken_of_interior (by simpa using (isInterior_iff c).2 interior)
      next =>
        obtain ⟨marker, marked, rfl⟩ := marker
        obtain ⟨sign, signed, rfl⟩ := sign
        have marked := (isMarker_iff marker).2 marked
        exact unbroken_signed (isMarker_isInterior marked) marked ((isSign_iff sign).2 signed)

theorem prefix_run {word text : Text} (member : word ∈ extent) (ahead : word <+: text) :
    word <+: run false text := by
  obtain ⟨rest, rfl⟩ := ahead
  exact ⟨_, (run_append ((unbroken_iff_extent word).2 member) rest).symm⟩

theorem run_greatest (text : Text) :
    IsGreatest {length | ∃ word ∈ extent, word <+: text ∧ Text.byteLength word = length}
      (Text.byteLength (run false text)) := by
  refine ⟨⟨_, (run_extent text).1, run_isPrefix false text, rfl⟩, ?_⟩
  rintro _ ⟨word, member, ahead, rfl⟩
  exact Text.byteLength_le_of_prefix (prefix_run member ahead)

theorem starts_iff {before : Option Char} {text : Text} :
    starts before text = true ↔
      (∀ c, before = some c → Unicode.isWord c = false) ∧
        ∃ d ∈ Radix.decimal.digits, [d] <+: text ∨ ['.', d] <+: text := by
  have free : (!before.any Unicode.isWord) = true ↔
      ∀ c, before = some c → Unicode.isWord c = false := by
    cases before <;> simp
  cases text with
  | nil => simp [starts]
  | cons c cs =>
    rw [starts, Bool.and_eq_true, free]
    refine and_congr_right fun _ => ?_
    simp only [← Radix.isDigit_iff, List.cons_prefix_cons, List.nil_prefix, and_true,
      Bool.or_eq_true, Bool.and_eq_true, beq_iff_eq, point]
    cases cs with
    | nil =>
      constructor
      next =>
        rintro (digit | ⟨-, next⟩)
        next => exact ⟨c, digit, .inl rfl⟩
        next => exact absurd next Bool.false_ne_true
      next =>
        rintro ⟨d, digit, rfl | ⟨-, none⟩⟩
        next => exact .inl digit
        next => simp at none
    | cons e cs =>
      simp only [List.head?_cons, Option.any_some, List.cons_prefix_cons, List.nil_prefix, and_true]
      constructor
      next =>
        rintro (digit | ⟨rfl, digit⟩)
        next => exact ⟨c, digit, .inl rfl⟩
        next => exact ⟨e, digit, .inr ⟨rfl, rfl⟩⟩
      next =>
        rintro ⟨d, digit, rfl | ⟨rfl, rfl⟩⟩
        next => exact .inl digit
        next => exact .inr ⟨rfl, digit⟩

theorem isSome_scan_iff (text : Text) (offset : Nat) :
    (scan text offset).isSome = true ↔ StartsAt text offset := by
  constructor
  next =>
    intro found
    obtain ⟨stop, found⟩ := Option.isSome_iff_exists.1 found
    obtain ⟨front, back, whole, length, begun, -⟩ := scan_eq_some found
    exact ⟨front, back, whole, length, starts_iff.1 begun⟩
  next =>
    rintro ⟨front, back, rfl, rfl, begun⟩
    rw [scan_append, if_pos (starts_iff.2 begun)]
    rfl

theorem starts_run {before other : Option Char} {text : Text} (begun : starts before text = true)
    (free : ∀ c, other = some c → Unicode.isWord c = false) (back : Text) :
    starts other (run false text ++ back) = true := by
  obtain ⟨-, d, digit, opens⟩ := starts_iff.1 begun
  have interior : isInterior d = true := isDigit_isInterior ((Radix.isDigit_iff .decimal d).2 digit)
  have alone : [d] ∈ extent := cons_extent interior (Language.nil_mem_kstar _)
  refine starts_iff.2 ⟨free, d, digit, opens.imp (fun first => ?_) fun pointed => ?_⟩
  next => exact (prefix_run alone first).trans (List.prefix_append _ back)
  next =>
    have pair : ['.', d] ∈ extent := cons_extent (by decide) alone
    exact (prefix_run pair pointed).trans (List.prefix_append _ back)

theorem longest_of_run {front word after : Text}
    (begun : starts front.getLast? (word ++ after) = true)
    (same : run false (word ++ after) = word) : Longest ⟨front, word, after⟩ where
  nonempty := by
    have nonempty := List.ne_nil_of_length_pos (run_pos_of_starts begun)
    rw [same] at nonempty
    exact Text.byteLength_pos nonempty
  greatest := by
    have greatest := run_greatest (word ++ after)
    rwa [same] at greatest
  ascii := by
    intro c inside
    rw [← same] at inside
    exact (run_chars false _ c inside).elim (asciiOnly_isInterior c) (asciiOnly_isSign c)
  one_line := by
    have none : (['\n', '\r', '\x0b', '\x0c'].all fun c => !isInterior c && !isSign c) = true := rfl
    intro c inside breaks
    rw [← same] at inside
    have outside := List.all_eq_true.1 none c breaks
    rcases run_chars false _ c inside with interior | signed
    next => simp [interior] at outside
    next => simp [signed] at outside
  elsewhere := by
    intro other free back known
    -- the word is all in the language, and so the scanner goes through it wherever it comes from
    have unbroken : Unbroken word := by
      have member := (run_extent (word ++ after)).1
      rwa [same, ← unbroken_iff_extent] at member
    have begins := starts_run begun free back
    have taken : run false (word ++ back) = word := by
      rcases known with rfl | rfl
      next => rw [List.append_nil, unbroken]
      next => exact same
    rw [same] at begins
    rw [List.append_assoc, scan_append, if_pos begins, taken, Text.byteLength_append]

theorem scan_longest (text : Text) (offset : Nat) :
    ((scan text offset).isSome = true ↔ StartsAt text offset) ∧
      (∀ stop, scan text offset = some stop →
        ∃ cut : Text.Excerpt, cut.whole = text ∧ Text.byteLength cut.before = offset ∧
          stop = offset + Text.byteLength cut.inside ∧ Longest cut ∧
          text.IsBoundary offset ∧ text.IsBoundary stop) ∧
      (Text.byteLength text ≤ Text.largestLength →
        Search.scan text offset = .ok (scan text offset)) := by
  refine ⟨isSome_scan_iff text offset, fun stop found => ?_, fun fits => ?_⟩
  next =>
    obtain ⟨front, back, rfl, rfl, begun, rfl⟩ := scan_eq_some found
    obtain ⟨after, runs, -⟩ := run_rest false back
    let cut : Text.Excerpt := ⟨front, run false back, after⟩
    have whole : cut.whole = front ++ back := by
      rw [Text.Excerpt.whole, List.append_assoc, ← runs]
    have stops : cut.stop = Text.byteLength front + Text.byteLength (run false back) :=
      Text.byteLength_append ..
    refine ⟨cut, whole, rfl, rfl, longest_of_run (runs ▸ begun) (by rw [← runs]), ?_, ?_⟩
    next => exact whole ▸ cut.isBoundary_start
    next => exact whole ▸ stops ▸ cut.isBoundary_stop
  next =>
    have room : Text.largestLength + 4 ≤ Bound.largestOffset := by decide
    refine Search.scan_of_room text offset ?_
    unfold Search.HasRoom
    omega

theorem scan_longest_signed :
    StartsAt ['é', '(', '1', 'e', '+', '5', '+', '1'] 3 ∧
      ¬StartsAt ['é', '9'] 2 ∧
      Search.scan ['é', '(', '1', 'e', '+', '5', '+', '1'] 3 = .ok (some 7) := by
  obtain ⟨starts, -, scanned⟩ := scan_longest ['é', '(', '1', 'e', '+', '5', '+', '1'] 3
  obtain ⟨barred, -, -⟩ := scan_longest ['é', '9'] 2
  have found : scan ['é', '(', '1', 'e', '+', '5', '+', '1'] 3 = some 7 := by decide +kernel
  have missing : scan ['é', '9'] 2 = none := by decide +kernel
  rw [found] at starts scanned
  rw [missing] at barred
  exact ⟨starts.1 rfl, fun starts => absurd (barred.2 starts) Bool.false_ne_true,
    scanned (by decide)⟩

end Candidate

end Numeral
