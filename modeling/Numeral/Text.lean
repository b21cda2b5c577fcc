/-!
Texts as lists of characters, measured and cut in bytes of their UTF-8 encoding. An offset that
falls inside a character is no place to cut.
-/

set_option autoImplicit false

namespace Numeral

abbrev Text := List Char

namespace Text

def byteLength : Text → Nat
  | [] => 0
  | c :: cs => c.utf8Size + byteLength cs

/-- Cuts after exactly `n` bytes, if that is between two characters or at an end. -/
def splitAt? : Text → Nat → Option (Text × Text)
  | cs, 0 => some ([], cs)
  | [], _ + 1 => none
  | c :: cs, n + 1 =>
    if c.utf8Size ≤ n + 1 then
      (splitAt? cs (n + 1 - c.utf8Size)).map fun parts => (c :: parts.1, parts.2)
    else none

structure Excerpt where
  before : Text
  inside : Text
  after : Text
  deriving DecidableEq

def excerpt? (text : Text) (start stop : Nat) : Option Excerpt :=
  if start ≤ stop then
    (splitAt? text start).bind fun front =>
      (splitAt? front.2 (stop - start)).map fun back => ⟨front.1, back.1, back.2⟩
  else none

def slice? (text : Text) (start stop : Nat) : Option Text :=
  (excerpt? text start stop).map Excerpt.inside

/-- How many characters begin before byte `n`: an offset inside a character counts it whole. -/
def charsBefore : Text → Nat → Nat
  | _, 0 => 0
  | [], _ + 1 => 0
  | c :: cs, n + 1 => charsBefore cs (n + 1 - c.utf8Size) + 1

def bytes (text : Text) : List UInt8 :=
  text.flatMap String.utf8EncodeChar

/-- A byte looked at as the character with its number: only that of an ASCII character looks like
what it stands for. -/
def byteAt? (text : Text) (offset : Nat) : Option Char :=
  (bytes text)[offset]?.map Char.ofUInt8

def from? (text : Text) (offset : Nat) : Option Text :=
  (splitAt? text offset).map Prod.snd

def newline : Char := '\n'

structure Line where
  chars : Text
  -- how many characters of the text end the line
  ending : Nat
  deriving DecidableEq

def Line.ofEnded (chars : Text) : Line :=
  if chars.getLast? = some '\r' then ⟨chars.dropLast, 2⟩ else ⟨chars, 1⟩

def linesFrom (line : Text) : Text → List Line
  | [] => if line.isEmpty then [] else [⟨line, 0⟩]
  | c :: cs =>
    if c = newline then Line.ofEnded line :: linesFrom [] cs else linesFrom (line ++ [c]) cs

def lines (text : Text) : List Line :=
  linesFrom [] text

def lastLine (text : Text) : Text :=
  (text.reverse.takeWhile (· != newline)).reverse

@[simp] theorem byteLength_append (a b : Text) :
    byteLength (a ++ b) = byteLength a + byteLength b := by
  induction a with
  | nil => simp [byteLength]
  | cons c cs ih => simp [byteLength, ih, Nat.add_assoc]

theorem splitAt?_byteLength (a b : Text) : splitAt? (a ++ b) (byteLength a) = some (a, b) := by
  induction a with
  | nil => cases b <;> rfl
  | cons c cs ih =>
    have pos := c.utf8Size_pos
    obtain ⟨n, hn⟩ : ∃ n, byteLength (c :: cs) = n + 1 := ⟨byteLength (c :: cs) - 1, by
      simp only [byteLength]; omega⟩
    have rest : n + 1 - c.utf8Size = byteLength cs := by
      simp only [byteLength] at hn; omega
    have fits : c.utf8Size ≤ n + 1 := by simp only [byteLength] at hn; omega
    simp [hn, splitAt?, fits, rest, ih]

theorem eq_of_splitAt? {text a b : Text} {n : Nat} (h : splitAt? text n = some (a, b)) :
    text = a ++ b ∧ byteLength a = n := by
  induction text generalizing n a b with
  | nil =>
    cases n with
    | zero =>
      simp only [splitAt?, Option.some.injEq, Prod.mk.injEq] at h
      rw [← h.1, ← h.2]
      exact ⟨rfl, rfl⟩
    | succ n => simp [splitAt?] at h
  | cons c cs ih =>
    cases n with
    | zero =>
      simp only [splitAt?, Option.some.injEq, Prod.mk.injEq] at h
      rw [← h.1, ← h.2]
      exact ⟨rfl, rfl⟩
    | succ n =>
      simp only [splitAt?] at h
      split at h
      next fits =>
        obtain ⟨⟨x, y⟩, hxy, hab⟩ := Option.map_eq_some_iff.1 h
        simp only [Prod.mk.injEq] at hab
        obtain ⟨rfl, rfl⟩ := hab
        have := ih hxy
        simp only [byteLength]
        refine ⟨by rw [this.1]; rfl, by omega⟩
      next => simp at h

theorem splitAt?_eq_some_iff {text a b : Text} {n : Nat} :
    splitAt? text n = some (a, b) ↔ text = a ++ b ∧ byteLength a = n :=
  ⟨eq_of_splitAt?, fun h => by rw [h.1, ← h.2, splitAt?_byteLength]⟩

end Text

end Numeral
