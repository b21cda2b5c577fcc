import Numeral.Proofs.Search.Follows
import Numeral.Proofs.Tree.Size

set_option autoImplicit false

namespace Numeral.Search

open Grammar

variable {cut : Text.Excerpt} {form : Form}

theorem takePoint_tracks (fits : cut.stop ≤ Range.largestBound) :
    Tracks cut form (takePoint form.radix) (Grammar.takePoint form) := by
  intro cursor inside
  have around : cut.inside = cursor.read ++ cursor.rest := inside.symm
  unfold takePoint Grammar.takePoint
  refine .read (byte_ahead around) (.read (isDigit_behind around fits _) ?_)
  refine .read (plus_shown inside fits (by decide)) ?_
  cases left : cursor.rest with
  | nil =>
    obtain ⟨followed, next⟩ := exists_isDigit cut form.radix ((cursor.shown cut.start).1 + 1)
    exact .read next (.stuckHere inside _)
  | cons c rest =>
    rw [left] at around
    by_cases pointed : c = point
    next =>
      subst pointed
      refine .read (isDigit_next around rfl _) ?_
      have seen : (some (Text.firstByte point) == some point) = true := by decide
      simp only [List.head?_cons, Option.map_some, seen, Bool.true_and, Cursor.behind, true_and]
      split
      next => exact .take inside fits left rfl rfl
      next => exact .stuckHere inside _
    next =>
      obtain ⟨followed, next⟩ := exists_isDigit cut form.radix ((cursor.shown cut.start).1 + 1)
      refine .read next ?_
      have seen : (some (Text.firstByte c) == some point) = false := by
        simpa [Text.firstByte_eq_iff (d := point) (by decide)] using pointed
      simp only [List.head?_cons, Option.map_some, seen, Bool.false_and, pointed, false_and]
      exact .stuckHere inside _

theorem asciiOnly_markers (radix : Radix) : Text.AsciiOnly radix.exponentMarkers.contains :=
  Text.asciiOnly_contains (by cases radix <;> rfl)

theorem takeMarker_tracks (fits : cut.stop ≤ Range.largestBound) :
    Tracks cut form (takeMarker form.radix) (Grammar.takeMarker form) := by
  intro cursor inside
  have around : cut.inside = cursor.read ++ cursor.rest := inside.symm
  unfold takeMarker Grammar.takeMarker
  refine .read (byte_ahead around) (.read (byte_behind around fits) ?_)
  rw [Text.lastByte_beq (d := separator) (by decide), (asciiOnly_markers _).any_firstByte]
  cases left : cursor.rest with
  | nil => exact .stuckHere inside _
  | cons c rest =>
    have same : (form.radix.exponentMarkers.contains c &&
        !(cursor.read.getLast? == some separator)) = true ↔
          c ∈ form.radix.exponentMarkers ∧ cursor.behind ≠ some separator := by
      simp [Cursor.behind]
    simp only [List.head?_cons, Option.any_some, same]
    split
    next marked =>
      have single : c.utf8Size = 1 := (asciiOnly_markers _).utf8Size_eq (by simpa using marked.1)
      exact .read (plus_shown inside fits (by decide))
        (.take inside fits left rfl (by rw [Text.byteLength, single]; rfl))
    next => exact .stuckHere inside _

theorem sign?_eq_some_iff {c : Char} {sign : Sign} : sign? c = some sign ↔ c = sign.char := by
  by_cases plus : c = '+' <;> by_cases minus : c = '-' <;> cases sign <;>
    simp_all [sign?, Sign.char]

theorem sign?_firstByte (c : Char) : sign? (Text.firstByte c) = sign? c := by
  simp [sign?, Text.firstByte_eq_iff (d := '+') (by decide),
    Text.firstByte_eq_iff (d := '-') (by decide)]

theorem takeSign_eq (form : Form) (cursor : Cursor) :
    Grammar.takeSign form cursor =
      match cursor.rest.head?.bind sign? with
      | some sign => cursor.take (.exponentSign sign form.radix) [sign.char] cursor.rest.tail
      | none => cursor := by
  unfold Grammar.takeSign
  split
  next rest left => rw [left]; rfl
  next rest left => rw [left]; rfl
  next plus minus =>
    have unsigned : cursor.rest.head?.bind sign? = none := by
      cases left : cursor.rest with
      | nil => rfl
      | cons c rest =>
        have first : c ≠ '+' := fun same => plus rest (by rw [left, same])
        have second : c ≠ '-' := fun same => minus rest (by rw [left, same])
        simp [sign?, first, second]
    rw [unsigned]

theorem takeSign_tracks (fits : cut.stop ≤ Range.largestBound) :
    Tracks cut form (takeSign form.radix) fun cursor => .done (Grammar.takeSign form cursor) := by
  intro cursor inside
  have around : cut.inside = cursor.read ++ cursor.rest := inside.symm
  refine .read (byte_ahead around) ?_
  simp only [takeSign_eq, Option.bind_map, Function.comp_def, sign?_firstByte]
  cases given : cursor.rest.head?.bind sign? with
  | none => exact .done rfl rfl
  | some sign =>
    obtain ⟨c, first, signed⟩ := Option.bind_eq_some_iff.1 given
    obtain rfl := sign?_eq_some_iff.1 signed
    obtain ⟨rest, left⟩ := List.head?_eq_some_iff.1 first
    have single : sign.char.utf8Size = 1 := by cases sign <;> rfl
    exact .read (plus_shown inside fits (by decide))
      (.take inside fits (by rw [left]; rfl) rfl (by rw [Text.byteLength, single]; rfl))

theorem takeSeparator_tracks (fits : cut.stop ≤ Range.largestBound) :
    Tracks cut form takeSeparator Grammar.takeSeparator := by
  intro cursor inside
  have around : cut.inside = cursor.read ++ cursor.rest := inside.symm
  unfold takeSeparator Grammar.takeSeparator
  refine .read (byte_ahead around) ?_
  rw [Text.firstByte_beq (d := separator) (by decide)]
  cases left : cursor.rest with
  | nil => exact .fail
  | cons c rest =>
    by_cases here : c = separator
    next =>
      simp only [List.head?_cons, here, beq_self_eq_true, if_true]
      exact .read (plus_shown inside fits (by decide)) (.take inside fits (here ▸ left) rfl rfl)
    next =>
      simp only [List.head?_cons, beq_iff_eq, Option.some.injEq, here, if_false]
      exact .fail

theorem asciiOnly_letters : Text.AsciiOnly radixLetters.contains :=
  Text.asciiOnly_contains rfl

theorem asciiOnly_start : Text.AsciiOnly fun c => Radix.decimal.isDigit c || c == point :=
  (Text.asciiOnly_isDigit .decimal).or (Text.asciiOnly_beq (by decide))

theorem expectUnprefixed_tracks (fits : cut.stop ≤ Range.largestBound) :
    Tracks cut form expectUnprefixed (Grammar.expectUnprefixed form) := by
  intro cursor inside
  have around : cut.inside = cursor.read ++ cursor.rest := inside.symm
  have first := byte_ahead around
  unfold Grammar.expectUnprefixed
  split
  next c rest left =>
    rw [left] at around first
    refine .read first (.read (plus_shown inside fits (by decide)) ?_)
    refine .read (byte_next around rfl) ?_
    rw [asciiOnly_letters.any_firstByte]
    cases letter : radixLetters.contains c with
    | true =>
      simp only [List.head?_cons, Option.any_some, letter, if_true]
      exact .stuckPast inside left rfl _
    | false =>
      simp only [List.head?_cons, Option.any_some, letter]
      exact .done rfl rfl
  next c rest alone left =>
    rw [left] at around first
    refine .read first ?_
    rw [Text.firstByte_beq (d := '0') (by decide)]
    by_cases zero : c = '0'
    next =>
      subst zero
      obtain rfl : rest = [] := by
        cases rest with
        | nil => rfl
        | cons d ds => exact (alone d ds rfl rfl).elim
      exact .read (plus_shown inside fits (by decide))
        (.read (byte_next around rfl) (.done rfl rfl))
    next =>
      rw [if_neg (by simpa using zero), asciiOnly_start.any_firstByte]
      split
      next start =>
        rw [if_pos (show (Radix.decimal.isDigit c || c == point) = true from start)]
        exact .done rfl rfl
      next start =>
        rw [if_neg (show ¬(Radix.decimal.isDigit c || c == point) = true from start)]
        exact .stuckHere inside _
  next left =>
    rw [left] at first
    exact .read first (.stuckHere inside _)

theorem prefixLetter?_none {radix : Radix} {text : Text} (found : prefixLetter? radix text = none) :
    text.head?.any radix.prefixLetters.contains = false := by
  cases text with
  | nil => rfl
  | cons c cs => simpa [prefixLetter?] using found

theorem takePrefix_tracks (fits : cut.stop ≤ Range.largestBound) :
    Tracks cut form (takePrefix form.radix) (Grammar.takePrefix form) := by
  intro cursor inside
  have around : cut.inside = cursor.read ++ cursor.rest := inside.symm
  have first := byte_ahead around
  have letters : Text.AsciiOnly form.radix.prefixLetters.contains :=
    Text.asciiOnly_contains (by cases form.radix <;> rfl)
  unfold Grammar.takePrefix
  split
  next rest left =>
    rw [left] at around first
    refine .read first (.read (plus_shown inside fits (by decide)) ?_)
    refine .read (byte_next around rfl) ?_
    rw [letters.any_firstByte]
    cases lettered : prefixLetter? form.radix rest with
    | some found =>
      obtain ⟨letter, after⟩ := found
      obtain ⟨known, rfl⟩ := prefixLetter?_some lettered
      have listed : form.radix.prefixLetters.contains letter = true := by simpa using known
      have single : letter.utf8Size = 1 := letters.utf8Size_eq listed
      simp only [List.head?_cons, Option.any_some, listed, if_true]
      exact .read (plus_shown inside fits (by decide))
        (.take inside fits left rfl (by simp [Text.byteLength, single]; rfl))
    | none =>
      rw [prefixLetter?_none lettered]
      by_cases octal : form.radix = .octal
      next =>
        simp only [octal, if_true]
        exact .take inside fits left rfl rfl
      next =>
        simp only [octal, if_false]
        exact .stuckPast inside left rfl _
  next other =>
    refine .read first ?_
    rw [Text.firstByte_beq (d := '0') (by decide)]
    have noZero : (cursor.rest.head? == some '0') = false := by
      simp only [beq_eq_false_iff_ne]
      intro zero
      obtain ⟨rest, left⟩ := List.head?_eq_some_iff.1 zero
      exact other rest left
    rw [noZero]
    exact .stuckHere inside _

theorem ne_separator {radix : Radix} {c : Char} (digit : radix.isDigit c = true) :
    c ≠ separator := by
  rintro rfl
  exact absurd (digit.symm.trans (underscore_not_digit radix)) (by decide)

theorem takeGroupTail_stops (fits : cut.stop ≤ Range.largestBound) (radix : Radix) (room : Nat)
    {front back : Text} (around : cut.inside = front ++ back) (ended : groupTail radix back = []) :
    Reads cut (takeGroupTail radix room (cut.start + Text.byteLength front))
      (cut.start + Text.byteLength front) := by
  cases room with
  | zero => exact .pure _
  | succ room =>
    have noDigit : startsWithDigit radix back = false := by
      cases back with
      | nil => rfl
      | cons c cs =>
        cases digit : radix.isDigit c with
        | false => exact digit
        | true => simp [groupTail, digit] at ended
    refine (plus_around around fits (by decide)).bind ((isDigit_ahead around radix).bind ?_)
    rw [noDigit, if_neg Bool.false_ne_true]
    refine (byte_ahead around).bind ?_
    rw [Text.firstByte_beq (d := separator) (by decide)]
    by_cases separated : back.head? = some separator
    next =>
      obtain ⟨rest, rfl⟩ := List.head?_eq_some_iff.1 separated
      have apart : (radix.hasSeparators && startsWithDigit radix rest) = false := by
        cases joined : radix.hasSeparators && startsWithDigit radix rest with
        | false => rfl
        | true => simp_all [groupTail, startsWithDigit]
      refine (isDigit_next around rfl radix).bind ?_
      simp only [List.head?_cons, beq_self_eq_true, Bool.and_true, apart]
      exact .pure _
    next =>
      obtain ⟨followed, next⟩ := exists_isDigit cut radix (cut.start + Text.byteLength front + 1)
      refine next.bind ?_
      have other : (back.head? == some separator) = false := by simpa using separated
      simp only [other, Bool.and_false, Bool.false_and]
      exact .pure _

theorem takeGroupTail_ends (fits : cut.stop ≤ Range.largestBound) (radix : Radix) {room : Nat}
    {front back : Text} (around : cut.inside = front ++ back)
    (enough : Text.byteLength back ≤ room) {search : Search} (across : Over cut search) :
    Ends (takeGroupTail radix room (cut.start + Text.byteLength front)) search
      (some (cut.start + Text.byteLength (front ++ groupTail radix back)))
      (search.write
        (separatorEntries (cut.start + Text.byteLength front) (groupTail radix back))) := by
  induction back generalizing front room search with
  | nil =>
    have stays := takeGroupTail_stops fits radix room around rfl search across
    simpa [groupTail, separatorEntries, write] using stays
  | cons c cs ih =>
    obtain ⟨room, rfl⟩ : ∃ less, room = less + 1 := by
      have positive := c.utf8Size_pos
      rw [Text.byteLength] at enough
      exact ⟨room - 1, by omega⟩
    cases digit : radix.isDigit c with
    | true =>
      have single : c.utf8Size = 1 := (Text.asciiOnly_isDigit radix).utf8Size_eq digit
      rw [Text.byteLength, single, Nat.add_comm] at enough
      have later := ih (around_concat around) (Nat.le_of_succ_le_succ enough) across
      rw [Text.byteLength_concat single, List.append_assoc] at later
      refine .bind (plus_around around fits (by decide) _ across) ?_
      refine .bind (isDigit_ahead around radix _ across) ?_
      simpa [startsWithDigit, groupTail, digit, separatorEntries, ne_separator digit, single,
        Nat.add_assoc] using later
    | false =>
      by_cases joined : (radix.hasSeparators && c == separator && startsWithDigit radix cs) = true
      next =>
        have parts := joined
        simp only [Bool.and_eq_true, beq_iff_eq] at parts
        obtain ⟨⟨separators, rfl⟩, starts⟩ := parts
        have one : separator.utf8Size = 1 := rfl
        have small := stop_around around
        rw [Text.byteLength, one, Nat.add_comm] at enough
        rw [Text.byteLength, one] at small
        have later := ih (around_concat around) (Nat.le_of_succ_le_succ enough)
          (across.write [separatorAt (cut.start + Text.byteLength front)])
        rw [Text.byteLength_concat one, List.append_assoc] at later
        refine .bind (plus_around around fits (by decide) _ across) ?_
        refine .bind (isDigit_ahead around radix _ across) ?_
        rw [startsWithDigit, digit, if_neg Bool.false_ne_true]
        refine .bind (byte_ahead around _ across) ?_
        refine .bind (isDigit_next around one radix _ across) ?_
        rw [Text.firstByte_beq (d := separator) (by decide), List.head?_cons, beq_self_eq_true,
          if_pos (by simp [separators, starts])]
        refine .bind (leaf_ends _ (by omega) (by omega) search) ?_
        simpa [groupTail, digit, separators, starts, separatorEntries, separatorAt, one, write,
          Nat.add_assoc] using later
      next =>
        have ended : groupTail radix (c :: cs) = [] := by simp [groupTail, digit, joined]
        rw [ended]
        simpa [separatorEntries, write] using
          takeGroupTail_stops fits radix _ around ended search across

def groupEntries (tag : Tag) (start : Nat) (word : Text) : List Entry :=
  ⟨tag, ⟨start, start + Text.byteLength word⟩, (separatorEntries start word).length⟩ ::
    separatorEntries start word

section

variable (fits : cut.stop ≤ Range.largestBound) (radix : Radix) (tag : Tag) {front cs : Text}
  {c : Char} (around : cut.inside = front ++ c :: cs) (digit : radix.isDigit c = true)
  {search : Search} (across : Over cut search)

include fits around digit across

theorem takeGroupTail_opened {room : Nat}
    (wide : search.span.stop ≤ cut.start + Text.byteLength front + 1 + room) :
    Ends (takeGroupTail radix room (cut.start + Text.byteLength front + 1))
      (search.write
        [⟨tag, ⟨cut.start + Text.byteLength front, cut.start + Text.byteLength front⟩, 0⟩])
      (some (cut.start + Text.byteLength (front ++ c :: groupTail radix cs)))
      (search.write
        (⟨tag, ⟨cut.start + Text.byteLength front, cut.start + Text.byteLength front⟩, 0⟩ ::
          separatorEntries (cut.start + Text.byteLength front) (c :: groupTail radix cs))) := by
  have single : c.utf8Size = 1 := (Text.asciiOnly_isDigit radix).utf8Size_eq digit
  have stop := stop_around around
  rw [Text.byteLength, single] at stop
  rw [across.span_eq] at wide
  change cut.stop ≤ _ at wide
  have enough : Text.byteLength cs ≤ room := by omega
  have loop := takeGroupTail_ends fits radix (around_concat around) enough
    (across.write
      [⟨tag, ⟨cut.start + Text.byteLength front, cut.start + Text.byteLength front⟩, 0⟩])
  rw [Text.byteLength_concat single, ← Nat.add_assoc, write_write] at loop
  simpa [separatorEntries, ne_separator digit, single, Nat.add_assoc] using loop

theorem takeGroup_ends (want : Want) :
    Ends (takeGroup radix tag want (cut.start + Text.byteLength front)) search
      (some (cut.start + Text.byteLength (front ++ c :: groupTail radix cs)))
      (search.write (groupEntries tag (cut.start + Text.byteLength front)
        (c :: groupTail radix cs))) := by
  obtain ⟨tail, left⟩ := groupTail_isPrefix radix cs
  have whole : cut.inside = front ++ c :: groupTail radix cs ++ tail := by
    rw [around, List.append_assoc, List.cons_append, left]
  have stop := stop_around whole
  have width : Text.byteLength (front ++ c :: groupTail radix cs) =
      Text.byteLength front + Text.byteLength (c :: groupTail radix cs) :=
    Text.byteLength_append ..
  have count := length_separatorEntries_le (cut.start + Text.byteLength front)
    (c :: groupTail radix cs)
  let second := cut.start + Text.byteLength front + 1
  have wide : search.span.stop ≤ second + (search.span.stop - second) := by omega
  have loop := takeGroupTail_opened fits radix tag around digit across wide
  rw [groupEntries, Nat.add_assoc, ← Text.byteLength_append]
  refine .bind (isDigit_ahead around radix _ across) ?_
  rw [startsWithDigit, digit, if_pos rfl]
  exact .bind (openNode_ends (by omega) tag search) <|
    .bind (plus_around around fits (by decide) _ (across.write _)) <| .bind (.get _) <|
    .bind loop <|
    .bind (closeNode_ends (by omega) (by omega) (Nat.le_trans count (by omega)) search) (.pure _ _)

end

theorem takeGroup_tracks (fits : cut.stop ≤ Range.largestBound) (form : Form) (radix : Radix)
    (tag : Tag) (grouped : tag.isDigitGroup = true) (want : Want) :
    Tracks cut form (takeGroup radix tag want) (Grammar.takeGroup form radix tag want) := by
  intro cursor inside
  have around : cut.inside = cursor.read ++ cursor.rest := inside.symm
  have first := isDigit_ahead around radix
  unfold Grammar.takeGroup
  cases left : cursor.rest with
  | nil =>
    rw [left] at first
    exact .read first (.stuckHere inside _)
  | cons c cs =>
    rw [left] at first around
    cases digit : radix.isDigit c with
    | false =>
      rw [startsWithDigit, digit] at first
      rw [group, digit]
      exact .read first (.stuckHere inside _)
    | true =>
      rw [group, digit, if_pos rfl]
      intro misses _
      have taken := takeGroup_ends fits radix tag around digit
        (over_search cut form misses (cursor.shown cut.start).2) want
      refine ⟨groupEntries tag (cursor.shown cut.start).1 (c :: groupTail radix cs), ?_, ?_⟩
      next => simpa [Trial.done, Cursor.shown] using taken
      next =>
        intro next found
        obtain rfl := Option.some.inj found
        simp [Cursor.shown, Cursor.take, Piece.allEntries_append, Piece.allEntries, Cursor.read,
          Piece.entries, grouped, groupEntries]

theorem takeInteger_tracks (fits : cut.stop ≤ Range.largestBound) :
    Tracks cut form takeInteger (Grammar.takeInteger form) := by
  intro cursor inside
  have around : cut.inside = cursor.read ++ cursor.rest := inside.symm
  have grouped := takeGroup_tracks fits form .decimal (.digits .decimal) rfl
    (.digit .decimal) cursor inside
  refine grouped.andThen (inside ▸ takeGroup_decides.within) fun next found => ?_
  obtain ⟨member, moves⟩ := takeGroup_moves found
  have stop : (next.shown cut.start).1 =
      (cursor.shown cut.start).1 + Text.byteLength (group .decimal cursor.rest) := by
    simp [Cursor.shown, moves.read_eq, Nat.add_assoc]
  obtain ⟨rest, left⟩ := group_isPrefix .decimal cursor.rest
  split
  next c digits leading =>
    rw [leading] at left stop
    have positive : 0 < Text.byteLength (c :: digits) := Text.byteLength_pos (by simp)
    have second : (cursor.shown cut.start).1 + 1 < (next.shown cut.start).1 := by
      rw [stop, Text.byteLength, show '0'.utf8Size = 1 from rfl]
      omega
    refine .read (plus_shown inside fits (by decide)) (.read (byte_ahead around) ?_)
    rw [← left, Text.firstByte_beq (d := '0') (by decide)]
    simp only [List.cons_append, List.head?_cons, beq_self_eq_true, second, decide_true,
      Bool.and_true, if_true]
    exact .stuckPast inside left.symm rfl _
  next alone =>
    refine .read (plus_shown inside fits (by decide)) (.read (byte_ahead around) ?_)
    rw [Text.firstByte_beq (d := '0') (by decide)]
    have fine : (cursor.rest.head? == some '0' &&
        decide ((cursor.shown cut.start).1 + 1 < (next.shown cut.start).1)) = false := by
      obtain ⟨d, isDigit, later, -, word⟩ := mem_digitGroup.1 member
      rw [word] at stop left alone
      rw [Bool.and_eq_false_imp]
      intro zero
      obtain rfl : d = '0' := by simpa [← left] using zero
      have lone : later = [] := by
        cases later with
        | nil => rfl
        | cons e es => exact (alone e es rfl).elim
      have single : '0'.utf8Size = 1 := rfl
      simp [stop, lone, Text.byteLength, single]
    rw [fine]
    exact .done rfl rfl

theorem takeExponent_tracks (fits : cut.stop ≤ Range.largestBound) :
    Tracks cut form (takeExponent form.radix) (Grammar.takeExponent form) := by
  have scaled : Tracks cut form
      (fun offset => takeSign form.radix offset >>=
        takeGroup .decimal (.exponentDigits form.radix) .exponentDigit)
      fun cursor => Grammar.takeGroup form .decimal (.exponentDigits form.radix) .exponentDigit
        (Grammar.takeSign form cursor) := by
    intro cursor inside
    have grouped := takeGroup_tracks fits form .decimal (.exponentDigits form.radix) rfl
      .exponentDigit
    exact (takeSign_tracks fits).andThen grouped (fun _ => Trial.within_done _)
      (fun cursor next found => Option.some.inj found ▸ takeSign_text form cursor) cursor inside
  refine (takeMarker_tracks fits).andThen scaled (fun _ => takeMarker_decides.within) ?_
  intro cursor next found
  obtain ⟨_, -, moves⟩ := takeMarker_moves found
  exact moves.text_eq

theorem takeImaginary_tracks (fits : cut.stop ≤ Range.largestBound) :
    Tracks cut form takeImaginary
      (Grammar.takeImaginary form (cut.after.head?.any Unicode.isWord)) := by
  intro cursor inside
  have around : cut.inside = cursor.read ++ cursor.rest := inside.symm
  unfold Grammar.takeImaginary
  refine .read (byte_ahead around) ?_
  rw [Text.firstByte_beq (d := imaginaryUnit) (by decide)]
  cases left : cursor.rest with
  | nil => exact .fail
  | cons c rest =>
    by_cases isUnit : c = imaginaryUnit
    next =>
      subst isUnit
      have beyond : Text.from? cut.whole ((cursor.shown cut.start).1 + 1) =
          some (rest ++ cut.after) := by
        have whole : cut.whole =
            cut.before ++ cursor.read ++ [imaginaryUnit] ++ (rest ++ cut.after) := by
          simp [Text.Excerpt.whole, around, left]
        have place : (cursor.shown cut.start).1 + 1 =
            Text.byteLength (cut.before ++ cursor.read ++ [imaginaryUnit]) := by
          simp [Cursor.shown, Text.Excerpt.start, Nat.add_assoc]
          rfl
        rw [Text.from?, whole, place, Text.splitAt?_byteLength]
        rfl
      have word : (rest ++ cut.after).head?.any Unicode.isWord =
          (rest.head?.map Unicode.isWord).getD (cut.after.head?.any Unicode.isWord) := by
        cases rest <;> rfl
      simp only [List.head?_cons, beq_self_eq_true, if_true]
      refine .read (plus_shown inside fits (by decide)) (.look fun misses => ?_)
      rw [show (cut.search form misses (cursor.shown cut.start).2).text = cut.whole from rfl, beyond,
        ← word]
      cases follows : (rest ++ cut.after).head?.any Unicode.isWord with
      | true =>
        simp only [follows, if_true]
        exact .stuckPast inside left rfl _
      | false =>
        simp only [follows]
        exact .take inside fits left rfl rfl
    next =>
      simp only [List.head?_cons, beq_iff_eq, Option.some.injEq, isUnit, if_false]
      exact .fail

theorem expectEnd_follows {cursor : Cursor} (inside : cursor.text = cut.inside) :
    Follows cut form (fun last => ((), (Cursor.shown cut.start last).2)) (cursor.shown cut.start).2
      (expectEnd (cursor.shown cut.start).1) (Grammar.expectEnd form cursor) := by
  have around : cut.inside = cursor.read ++ cursor.rest := inside.symm
  have stop := stop_around around
  unfold Grammar.expectEnd
  have place : (cursor.shown cut.start).1 = cut.stop ↔ cursor.rest = [] := by
    rw [stop, Cursor.shown]
    constructor
    next =>
      intro same
      by_contra more
      have positive := Text.byteLength_pos more
      omega
    next => exact fun ended => by rw [ended]; rfl
  refine .look fun misses => ?_
  rw [show (cut.search form misses (cursor.shown cut.start).2).span.stop = cut.stop from rfl]
  simp only [place]
  cases left : cursor.rest with
  | nil => exact .done rfl rfl
  | cons c rest => exact .stuckHere inside _

theorem takeStep_tracks (fits : cut.stop ≤ Range.largestBound) (step : Step) :
    Tracks cut form (takeStep form.radix step) (step.run form) := by
  cases step with
  | unprefixed => exact expectUnprefixed_tracks fits
  | radixPrefix => exact takePrefix_tracks fits
  | prefixSeparator => exact (takeSeparator_tracks fits).optional
  | digits => exact takeGroup_tracks fits form form.radix _ rfl _
  | maybeDigits => exact (takeGroup_tracks fits form form.radix _ rfl _).optional
  | integer => exact takeInteger_tracks fits
  | point => exact takePoint_tracks fits
  | exponent => exact takeExponent_tracks fits
  | maybeExponent => exact (takeExponent_tracks fits).optional

theorem takeSteps_tracks (fits : cut.stop ≤ Range.largestBound) (steps : List Step) :
    Tracks cut form (takeSteps form.radix steps) (runSteps form steps) := by
  induction steps with
  | nil => exact fun cursor _ => .done rfl rfl
  | cons step steps ih =>
    refine (takeStep_tracks fits step).andThen ih (fun _ => step.run_within) ?_
    intro cursor next found
    obtain ⟨_, -, moves⟩ := Step.run_moves found
    exact moves.text_eq

end Numeral.Search
