import Mathlib.Data.List.Basic
import Mathlib.Data.List.Induction
import Numeral.Proofs.Text.Bytes
import Numeral.Proofs.Text.Columns
import Numeral.Report.Cropping

set_option autoImplicit false

namespace Numeral.Text

theorem takeWhile_charIndices (text : Text) (offset n : Nat) :
    ((charIndices offset text).takeWhile fun entry => entry.1 < offset + n).length =
      charsBefore text n := by
  induction text generalizing offset n with
  | nil => cases n <;> rfl
  | cons c cs ih =>
    cases n with
    | zero => simp [charIndices, charsBefore]
    | succ n =>
      have first : offset < offset + (n + 1) := by omega
      simp only [charIndices, List.takeWhile_cons, first, decide_true, if_true, List.length_cons,
        charsBefore]
      by_cases fits : c.utf8Size ≤ n + 1
      next =>
        have rest := ih (offset + c.utf8Size) (n + 1 - c.utf8Size)
        rw [show offset + c.utf8Size + (n + 1 - c.utf8Size) = offset + (n + 1) by omega] at rest
        rw [rest]
      next =>
        -- the byte is in the middle of the character, which begins before it all the same
        have whole : n + 1 - c.utf8Size = 0 := by omega
        rw [whole, charsBefore_zero]
        cases cs with
        | nil => rfl
        | cons d ds =>
          have past : ¬offset + c.utf8Size < offset + (n + 1) := by omega
          simp [charIndices, past]

theorem charOffset_eq (text : Text) (byte : Nat) :
    charOffset text byte = charsBefore text byte := by
  have counted := takeWhile_charIndices text 0 byte
  rwa [Nat.zero_add] at counted

theorem lineStarts_append (front back : List UInt8) :
    lineStarts (front ++ back) =
      lineStarts front ++ (lineStarts back).map (front.length + ·) := by
  unfold lineStarts
  rw [List.zipIdx_append, List.filterMap_append, List.zipIdx_eq_map_add (i := 0 + front.length),
    List.filterMap_map, List.map_filterMap]
  congr 2
  funext entry
  by_cases ends : entry.1 = newline.toUInt8
  next => simp [ends, Nat.add_assoc]
  next => simp [ends]

theorem lineStarts_char (c : Char) :
    lineStarts (String.utf8EncodeChar c) = if c = newline then [1] else [] := by
  split
  next same =>
    subst same
    rfl
  next other =>
    refine List.filterMap_eq_nil_iff.2 fun entry member => if_neg fun ends => other ?_
    have byte := (asciiOnly_beq (d := newline) (by decide)).of_byte
      (List.fst_mem_of_mem_zipIdx member)
    rw [ends] at byte
    exact eq_of_beq (byte.symm.trans rfl)

theorem linesBefore_eq (bytes : List UInt8) :
    linesBefore bytes = ((lineStarts bytes).length, (lineStarts bytes).getLast?.getD 0) := by
  rw [linesBefore, List.getLast?_map, List.getLast?_zipIdx]
  rcases List.eq_nil_or_concat' (lineStarts bytes) with nothing | ⟨starts, last, same⟩
  next => simp [nothing]
  next => simp [same]

theorem lastLine_concat (front : Text) (c : Char) :
    lastLine (front ++ [c]) = if c = newline then [] else lastLine front ++ [c] := by
  rw [lastLine, List.reverse_concat, List.takeWhile_cons]
  by_cases ends : c = newline <;> simp [ends, lastLine]

theorem linesBefore_bytes (front : Text) :
    linesBefore (bytes front) =
      (front.count newline, byteLength front - byteLength (lastLine front)) := by
  rw [linesBefore_eq]
  -- from the end, where a newline makes the last line empty and all else makes it longer
  induction front using List.reverseRecOn with
  | nil => rfl
  | append_singleton front c ih =>
    obtain ⟨count, start⟩ := Prod.mk.inj ih
    have single : bytes [c] = String.utf8EncodeChar c := by simp [bytes]
    rw [bytes_append, lineStarts_append, single, lineStarts_char, lastLine_concat,
      List.count_append]
    by_cases ends : c = newline
    next =>
      subst ends
      have one : newline.utf8Size = 1 := rfl
      simp [count, byteLength, one]
    next =>
      simp [ends, count, start, Nat.add_sub_add_right]

end Numeral.Text
