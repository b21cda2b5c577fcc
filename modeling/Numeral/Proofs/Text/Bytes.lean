import Mathlib.Tactic.SplitIfs
import Numeral.Proofs.Text.Excerpt

set_option autoImplicit false

namespace Numeral.Text

@[simp] theorem bytes_append (front back : Text) :
    bytes (front ++ back) = bytes front ++ bytes back :=
  List.flatMap_append

theorem bytes_cons (c : Char) (cs : Text) : bytes (c :: cs) = String.utf8EncodeChar c ++ bytes cs :=
  List.flatMap_cons

@[simp] theorem length_bytes (text : Text) : (bytes text).length = byteLength text := by
  induction text with
  | nil => rfl
  | cons c cs ih => rw [bytes_cons, List.length_append, String.length_utf8EncodeChar, ih, byteLength]

theorem byteLength_lt_iff {a b whole : Text} (first : a <+: whole) (second : b <+: whole) :
    byteLength a < byteLength b ↔ a.length < b.length := by
  rcases List.prefix_or_prefix_of_prefix first second with ⟨t, rfl⟩ | ⟨t, rfl⟩
  next =>
    cases t with
    | nil => simp
    | cons c cs => simp [byteLength_pos]
  next =>
    rw [byteLength_append, List.length_append]
    omega

theorem byteLength_le_of_prefix {front text : Text} (ahead : front <+: text) :
    byteLength front ≤ byteLength text := by
  obtain ⟨rest, rfl⟩ := ahead
  simp

theorem byteLength_concat {front : Text} {c : Char} (single : c.utf8Size = 1) :
    byteLength (front ++ [c]) = byteLength front + 1 := by
  rw [byteLength_append, byteLength, single]
  rfl

theorem utf8EncodeChar_ne_nil (c : Char) : String.utf8EncodeChar c ≠ [] := by
  rw [← List.length_pos_iff, String.length_utf8EncodeChar]
  exact c.utf8Size_pos

def firstByte (c : Char) : Char :=
  Char.ofUInt8 ((String.utf8EncodeChar c).headD 0)

def lastByte (c : Char) : Char :=
  Char.ofUInt8 ((String.utf8EncodeChar c).getLastD 0)

theorem byteAt?_ahead (front back : Text) :
    byteAt? (front ++ back) (byteLength front) = back.head?.map firstByte := by
  rw [byteAt?, bytes_append, List.getElem?_append_right (by simp), length_bytes, Nat.sub_self]
  cases back with
  | nil => rfl
  | cons c cs =>
    obtain ⟨b, bs, encoded⟩ := List.exists_cons_of_ne_nil (utf8EncodeChar_ne_nil c)
    simp [bytes_cons, firstByte, encoded]

theorem byteAt?_behind (front back : Text) (c : Char) :
    byteAt? (front ++ [c] ++ back) (byteLength (front ++ [c]) - 1) = some (lastByte c) := by
  have positive := c.utf8Size_pos
  have length := String.length_utf8EncodeChar c
  have offset : byteLength (front ++ [c]) - 1 = byteLength front + (c.utf8Size - 1) := by
    rw [byteLength_append, byteLength, byteLength]
    omega
  have last : bytes [c] = String.utf8EncodeChar c := by rw [bytes_cons]; simp [bytes]
  rw [byteAt?, offset, bytes_append, bytes_append, List.append_assoc,
    List.getElem?_append_right (by simp), length_bytes, Nat.add_sub_cancel_left, last,
    List.getElem?_append_left (by omega), ← length, ← List.getLast?_eq_getElem?,
    List.getLast?_eq_some_getLast (utf8EncodeChar_ne_nil c), lastByte, List.getLastD_eq_getLast?,
    List.getLast?_eq_some_getLast (utf8EncodeChar_ne_nil c)]
  rfl

theorem ofUInt8_toNat (b : UInt8) : (Char.ofUInt8 b).toNat = b.toNat := rfl

theorem utf8EncodeChar_ascii {c : Char} (ascii : c.toNat < 128) :
    String.utf8EncodeChar c = [UInt8.ofNat c.toNat] := by
  have small : c.val.toNat ≤ 127 := Nat.le_of_lt_succ ascii
  simp only [String.utf8EncodeChar, small, if_true]
  rfl

-- No byte of a longer encoding is that of an ASCII character.
theorem utf8EncodeChar_wide {c : Char} (wide : 128 ≤ c.toNat) :
    ∀ b ∈ String.utf8EncodeChar c, 128 ≤ b.toNat := by
  have large : ¬c.val.toNat ≤ 127 := Nat.not_le.2 wide
  simp only [String.utf8EncodeChar, large, if_false]
  split_ifs <;> simp <;> omega

theorem ofUInt8_ascii {c : Char} (ascii : c.toNat < 128) :
    Char.ofUInt8 (UInt8.ofNat c.toNat) = c := by
  apply Char.toNat_inj.1
  rw [ofUInt8_toNat, UInt8.toNat_ofNat']
  omega

def AsciiOnly (test : Char → Bool) : Prop :=
  ∀ c, test c = true → c.toNat < 128

namespace AsciiOnly

variable {test : Char → Bool} (only : AsciiOnly test)

include only

theorem of_byte {c : Char} {b : UInt8} (member : b ∈ String.utf8EncodeChar c) :
    test (Char.ofUInt8 b) = test c := by
  by_cases ascii : c.toNat < 128
  next =>
    rw [utf8EncodeChar_ascii ascii, List.mem_singleton] at member
    rw [member, ofUInt8_ascii ascii]
  next =>
    have wide := utf8EncodeChar_wide (Nat.not_lt.1 ascii) b member
    have outside (d : Char) (large : 128 ≤ d.toNat) : test d = false := by
      cases passed : test d with
      | false => rfl
      | true =>
        have small := only d passed
        omega
    rw [outside c (Nat.not_lt.1 ascii), outside (Char.ofUInt8 b) wide]

theorem firstByte (c : Char) : test (firstByte c) = test c := by
  obtain ⟨b, bs, encoded⟩ := List.exists_cons_of_ne_nil (utf8EncodeChar_ne_nil c)
  refine only.of_byte ?_
  simp [encoded]

theorem lastByte (c : Char) : test (lastByte c) = test c := by
  refine only.of_byte ?_
  rw [List.getLastD_eq_getLast?, List.getLast?_eq_some_getLast (utf8EncodeChar_ne_nil c)]
  exact List.getLast_mem _

theorem utf8Size_eq {c : Char} (passed : test c = true) : c.utf8Size = 1 := by
  rw [← String.length_utf8EncodeChar, utf8EncodeChar_ascii (only c passed)]
  rfl

theorem any_firstByte (c? : Option Char) : (c?.map Text.firstByte).any test = c?.any test := by
  cases c? with
  | none => rfl
  | some c => exact only.firstByte c

theorem any_lastByte (c? : Option Char) : (c?.map Text.lastByte).any test = c?.any test := by
  cases c? with
  | none => rfl
  | some c => exact only.lastByte c

end AsciiOnly

theorem asciiOnly_beq {d : Char} (ascii : d.toNat < 128) : AsciiOnly (· == d) := by
  intro c same
  rwa [eq_of_beq same]

theorem firstByte_eq_iff {d : Char} (ascii : d.toNat < 128) (c : Char) :
    firstByte c = d ↔ c = d := by
  rw [← beq_iff_eq, (asciiOnly_beq ascii).firstByte c, beq_iff_eq]

theorem beq_some (c? : Option Char) (d : Char) : (c? == some d) = c?.any (· == d) := by
  cases c? <;> rfl

theorem firstByte_beq {d : Char} (ascii : d.toNat < 128) (c? : Option Char) :
    (c?.map firstByte == some d) = (c? == some d) := by
  rw [beq_some, (asciiOnly_beq ascii).any_firstByte, beq_some]

theorem lastByte_beq {d : Char} (ascii : d.toNat < 128) (c? : Option Char) :
    (c?.map lastByte == some d) = (c? == some d) := by
  rw [beq_some, (asciiOnly_beq ascii).any_lastByte, beq_some]

theorem exists_byteAt {text : Text} {offset : Nat} (inside : offset < byteLength text) :
    ∃ b, byteAt? text offset = some b := by
  rw [← length_bytes] at inside
  exact ⟨_, by rw [byteAt?, List.getElem?_eq_getElem inside]; rfl⟩

theorem byteAt?_eq_some_iff {d : Char} (ascii : d.toNat < 128) {text : Text} {offset : Nat} :
    byteAt? text offset = some d ↔ text.HasAt d offset := by
  constructor
  next =>
    intro found
    induction text generalizing offset with
    | nil => simp [byteAt?, bytes] at found
    | cons c cs ih =>
      obtain ⟨b, there, same⟩ := Option.map_eq_some_iff.1 found
      rw [bytes_cons] at there
      rw [hasAt_cons]
      by_cases within : offset < c.utf8Size
      next =>
        rw [List.getElem?_append_left (by rwa [String.length_utf8EncodeChar])] at there
        have whole := (asciiOnly_beq ascii).of_byte (List.mem_of_getElem? there)
        rw [same, beq_self_eq_true] at whole
        obtain rfl := eq_of_beq whole.symm
        have single : c.utf8Size = 1 := (asciiOnly_beq ascii).utf8Size_eq (beq_self_eq_true c)
        exact .inl ⟨rfl, by omega⟩
      next =>
        rw [List.getElem?_append_right (by rw [String.length_utf8EncodeChar]; omega),
          String.length_utf8EncodeChar] at there
        have later : byteAt? cs (offset - c.utf8Size) = some d := by
          rw [byteAt?, there, ← same]
          rfl
        exact .inr ⟨_, ih later, by omega⟩
  next =>
    rintro ⟨front, back, rfl, rfl⟩
    rw [byteAt?_ahead, List.head?_cons, Option.map_some, (firstByte_eq_iff ascii d).2 rfl]

theorem asciiOnly_contains {chars : List Char}
    (ascii : (chars.all fun d => decide (d.toNat < 128)) = true) : AsciiOnly chars.contains := by
  intro c member
  exact of_decide_eq_true (List.all_eq_true.1 ascii c (by simpa using member))

theorem AsciiOnly.or {first second : Char → Bool} (one : AsciiOnly first) (two : AsciiOnly second) :
    AsciiOnly fun c => first c || second c := by
  intro c passed
  exact (Bool.or_eq_true_iff.1 passed).elim (one c) (two c)

theorem asciiOnly_isDigit (radix : Radix) : AsciiOnly radix.isDigit := by
  intro c digit
  have bound : ∀ d : Char, c ≤ d → c.toNat ≤ d.toNat := fun d order => order
  have nine := bound '9'
  have seven := bound '7'
  have small := bound 'f'
  have capital := bound 'F'
  have codes : '9'.toNat = 57 ∧ '7'.toNat = 55 ∧ 'f'.toNat = 102 ∧ 'F'.toNat = 70 := by decide
  cases radix with
  | binary =>
    obtain rfl | rfl : c = '0' ∨ c = '1' := by simpa [Radix.isDigit] using digit
    next => decide
    next => decide
  | octal =>
    simp only [Radix.isDigit, Bool.and_eq_true, decide_eq_true_eq] at digit
    have := seven digit.2
    omega
  | decimal =>
    simp only [Radix.isDigit, Bool.and_eq_true, decide_eq_true_eq] at digit
    have := nine digit.2
    omega
  | hexadecimal =>
    simp only [Radix.isDigit, Bool.and_eq_true, Bool.or_eq_true, decide_eq_true_eq] at digit
    rcases digit with (⟨-, below⟩ | ⟨-, below⟩) | ⟨-, below⟩
    next => have := nine below; omega
    next => have := small below; omega
    next => have := capital below; omega

end Numeral.Text
