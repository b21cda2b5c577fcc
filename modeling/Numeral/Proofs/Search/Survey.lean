import Numeral.Grammar.Survey
import Numeral.Proofs.Candidate.Neutral
import Numeral.Proofs.Search.Forms

set_option autoImplicit false

namespace Numeral

open Grammar

namespace Candidate

theorem asciiOnly_isDigit : Text.AsciiOnly isDigit :=
  Text.asciiOnly_isDigit .decimal

theorem asciiOnly_isMarker : Text.AsciiOnly isMarker :=
  ((((Text.asciiOnly_beq (by decide)).or (Text.asciiOnly_beq (by decide))).or
    (Text.asciiOnly_beq (by decide))).or (Text.asciiOnly_beq (by decide)))

theorem isSign_not_isInterior {c : Char} (sign : isSign c = true) : isInterior c = false := by
  obtain rfl | rfl : c = '+' ∨ c = '-' := by simpa [isSign] using sign
  next => decide
  next => decide

theorem starts_after_word {before : Option Char} (word : before.any Unicode.isWord = true)
    (text : Text) : starts before text = false := by
  cases begun : starts before text with
  | false => rfl
  | true => exact absurd (word.symm.trans (starts_before begun)) (by decide)

theorem run_of_starts {before : Option Char} {text : Text} (signed : Bool)
    (found : starts before text = true) : run signed text = run false text := by
  obtain ⟨c, head, interior⟩ := starts_head found
  obtain ⟨cs, rfl⟩ := List.head?_eq_some_iff.1 head
  simp [run, interior]

end Candidate

namespace Search

theorem plus_eq_ok {offset count : Nat} (small : offset + count ≤ Bound.largestOffset) :
    plus offset count = .ok (offset + count) :=
  if_pos small

/-- Any offset of the text may be counted on past one more character. -/
def HasRoom (text : Text) : Prop :=
  Text.byteLength text + 4 ≤ Bound.largestOffset

theorem hasRoom_of_fits {text : Text} (fits : Text.byteLength text ≤ Range.largestBound) :
    HasRoom text := by
  have room : Range.largestBound + 4 ≤ Bound.largestOffset := by decide
  unfold HasRoom
  omega

theorem plus_ahead {front back : Text} {count : Nat} (room : HasRoom (front ++ back))
    (narrow : count ≤ 4) :
    plus (Text.byteLength front) count = .ok (Text.byteLength front + count) := by
  refine plus_eq_ok ?_
  rw [HasRoom, Text.byteLength_append] at room
  omega

theorem not_ended (front : Text) {back : Text} (nonempty : back ≠ []) :
    ¬Text.byteLength (front ++ back) ≤ Text.byteLength front := by
  have positive := Text.byteLength_pos nonempty
  rw [Text.byteLength_append]
  omega

section

variable (front back : Text) (c : Char)

theorem fetch_ahead :
    fetch (front ++ c :: back) (Text.byteLength front) = .ok (Text.firstByte c) := by
  rw [fetch, Text.byteAt?_ahead]
  rfl

theorem fetch_behind :
    fetch (front ++ [c] ++ back) (Text.byteLength (front ++ [c]) - 1) = .ok (Text.lastByte c) := by
  rw [fetch, Text.byteAt?_behind]

theorem isInteriorAt_eq :
    isInteriorAt (front ++ c :: back) (Text.byteLength front) =
      .ok (Candidate.isInterior c ||
        (front.getLast?.any Candidate.isMarker && Candidate.isSign c)) := by
  have interior := Candidate.asciiOnly_isInterior.firstByte c
  unfold isInteriorAt
  rw [fetch_ahead]
  simp only [bind, Except.bind, Candidate.asciiOnly_isSign.firstByte, interior]
  cases sign : Candidate.isSign c with
  | false => simp [pure, Except.pure]
  | true =>
    rcases List.eq_nil_or_concat' front with rfl | ⟨init, d, rfl⟩
    next => simp [Text.byteLength, pure, Except.pure]
    next =>
      have nonzero : Text.byteLength (init ++ [d]) ≠ 0 :=
        Nat.ne_of_gt (Text.byteLength_pos (by simp))
      rw [fetch_behind, decide_eq_true nonzero, Bool.and_self, if_pos rfl, List.getLast?_concat]
      simp [Candidate.isSign_not_isInterior sign, Candidate.asciiOnly_isMarker.lastByte, pure,
        Except.pure]

end

theorem interiorEnd_eq (front back : Text) (roomy : HasRoom (front ++ back)) :
    interiorEnd (front ++ back) (Text.byteLength back) (Text.byteLength front) =
      .ok (Text.byteLength
        (front ++ Candidate.run (front.getLast?.any Candidate.isMarker) back)) := by
  induction back generalizing front with
  | nil => simp [interiorEnd, Candidate.run, Text.byteLength, pure, Except.pure]
  | cons c cs ih =>
    obtain ⟨room, width⟩ : ∃ room, Text.byteLength (c :: cs) = room + 1 :=
      Nat.exists_eq_add_one.2 (Text.byteLength_pos (by simp))
    rw [width, interiorEnd, isInteriorAt_eq]
    simp only [bind, Except.bind]
    by_cases inside : (Candidate.isInterior c ||
        (front.getLast?.any Candidate.isMarker && Candidate.isSign c)) = true
    next =>
      have single : c.utf8Size = 1 := by
        simp only [Bool.or_eq_true, Bool.and_eq_true] at inside
        exact inside.elim Candidate.asciiOnly_isInterior.utf8Size_eq
          fun signed => Candidate.asciiOnly_isSign.utf8Size_eq signed.2
      have left : room = Text.byteLength cs := by
        rw [Text.byteLength, single] at width
        omega
      have later := ih (front ++ [c]) (by simpa using roomy)
      rw [Text.byteLength_concat single, List.append_assoc, List.singleton_append] at later
      rw [if_pos inside, plus_ahead roomy (by decide), left, Candidate.run, if_pos inside]
      simpa using later
    next =>
      rw [if_neg inside, Candidate.run, if_neg inside, List.append_nil]
      rfl

theorem pointed_eq (front cs : Text) (c : Char) :
    (some (Text.firstByte c) == some point &&
        ((front ++ c :: cs).byteAt? (Text.byteLength front + 1)).any Candidate.isDigit) =
      (c == point && cs.head?.any Candidate.isDigit) := by
  have first : (some (Text.firstByte c) == some point) = (c == point) :=
    (Text.asciiOnly_beq (d := point) (by decide)).firstByte c
  rw [first]
  by_cases pointed : c = point
  next =>
    subst pointed
    have second := Text.byteAt?_ahead (front ++ [point]) cs
    rw [Text.byteLength_concat rfl, List.append_assoc, List.singleton_append] at second
    rw [second, Candidate.asciiOnly_isDigit.any_firstByte]
  next => rw [beq_false_of_ne pointed, Bool.false_and, Bool.false_and]

theorem starts_ahead {front : Text} (free : front.getLast?.any Unicode.isWord = false)
    (back : Text) :
    (((front ++ back).byteAt? (Text.byteLength front)).any Candidate.isDigit ||
      ((front ++ back).byteAt? (Text.byteLength front) == some point &&
        ((front ++ back).byteAt? (Text.byteLength front + 1)).any Candidate.isDigit)) =
      Candidate.starts front.getLast? back := by
  cases back with
  | nil =>
    rw [Text.byteAt?_ahead]
    simp [Candidate.starts]
  | cons c cs =>
    have first : (front ++ c :: cs).byteAt? (Text.byteLength front) =
        some (Text.firstByte c) := Text.byteAt?_ahead front (c :: cs)
    rw [first, pointed_eq, Option.any_some, Candidate.asciiOnly_isDigit.firstByte,
      Candidate.starts, free, Bool.not_false, Bool.true_and]

theorem scan_of_room (text : Text) (offset : Nat) (room : HasRoom text) :
    scan text offset = .ok (Candidate.scan text offset) := by
  unfold scan Candidate.scan
  cases cut : Text.splitAt? text offset with
  | none => rfl
  | some parts =>
    obtain ⟨front, back⟩ := parts
    obtain ⟨rfl, rfl⟩ := Text.eq_of_splitAt? cut
    have left : Text.byteLength (front ++ back) - Text.byteLength front = Text.byteLength back := by
      rw [Text.byteLength_append, Nat.add_sub_cancel_left]
    have next := plus_ahead room (show 1 ≤ 4 by decide)
    simp only [Option.bind_some, next, bind, Except.bind, left, interiorEnd_eq front back room]
    cases word : front.getLast?.any Unicode.isWord with
    | true =>
      rw [Candidate.starts_after_word word]
      rfl
    | false =>
      rw [if_neg Bool.false_ne_true, starts_ahead word]
      cases begun : Candidate.starts front.getLast? back with
      | false => rfl
      | true =>
        rw [Candidate.run_of_starts _ begun, Text.byteLength_append]
        rfl

theorem scan_eq (text : Text) (offset : Nat) (fits : Text.byteLength text ≤ Range.largestBound) :
    scan text offset = .ok (Candidate.scan text offset) :=
  scan_of_room text offset (hasRoom_of_fits fits)

theorem spansFrom_eq (done rest : Text)
    (fits : Text.byteLength (done ++ rest) ≤ Range.largestBound) (room : Nat)
    (enough : Text.byteLength rest ≤ room) :
    spansFrom (done ++ rest) room (Text.byteLength done) = .ok (Candidate.after done rest) := by
  induction done, rest using Candidate.walk_induction generalizing room with
  | nil done =>
    rw [Candidate.after_nil]
    cases room with
    | zero => rfl
    | succ room => rw [spansFrom, if_pos (by simp)]; rfl
  | skip done c cs missing ih =>
    have width : Text.byteLength (c :: cs) = c.utf8Size + Text.byteLength cs := rfl
    have positive := c.utf8Size_pos
    obtain ⟨room, rfl⟩ : ∃ more, room = more + 1 := Nat.exists_eq_add_one.2 (by omega)
    have later := ih (by simpa using fits) room (by omega)
    rw [List.append_assoc, List.singleton_append, Text.byteLength_append] at later
    have scanned := scan_eq _ (Text.byteLength done) fits
    rw [Candidate.scan_append, missing, if_neg Bool.false_ne_true] at scanned
    have rest : Text.from? (done ++ c :: cs) (Text.byteLength done) = some (c :: cs) := by
      rw [Text.from?, Text.splitAt?_byteLength]
      rfl
    rw [spansFrom, if_neg (not_ended done (List.cons_ne_nil c cs)), scanned,
      Candidate.after_skip missing, ← later, rest]
    simp only [bind, Except.bind, List.head?_cons, Option.map_some, Option.getD_some]
    rw [plus_ahead (hasRoom_of_fits fits) c.utf8Size_le_four]
    rfl
  | found done chars rest same begun _ ih =>
    have nonempty := List.ne_nil_of_length_pos (Candidate.run_pos_of_starts begun)
    rw [same] at nonempty
    have positive := Text.byteLength_pos nonempty
    have width := Text.byteLength_append chars rest
    obtain ⟨room, rfl⟩ : ∃ more, room = more + 1 := Nat.exists_eq_add_one.2 (by omega)
    have later := ih (by simpa using fits) room (by omega)
    rw [List.append_assoc] at later
    have scanned := scan_eq _ (Text.byteLength done) fits
    rw [Candidate.scan_append, begun, if_pos rfl, same] at scanned
    have inside := not_ended done (List.append_ne_nil_of_left_ne_nil nonempty rest)
    rw [spansFrom, if_neg inside, scanned, Candidate.after_found same begun]
    simp only [bind, Except.bind]
    rw [later]
    rfl

theorem spans_eq (text : Text) (fits : Text.byteLength text ≤ Range.largestBound) :
    spans text = .ok (Candidate.all text) :=
  spansFrom_eq [] text fits _ (Nat.le_refl _)

end Search

end Numeral
