import Numeral.Radix
import Numeral.Text
import Numeral.Unicode.Word

/-!
Where in a text numerals may be. A candidate starts at a digit, or at a point before one, that
does not follow a word character; it extends over letters, digits, underscores and points, and
over a sign directly after an exponent marker.
-/

set_option autoImplicit false

namespace Numeral.Candidate

def isDigit : Char → Bool :=
  Radix.decimal.isDigit

def isInterior (c : Char) : Bool :=
  Unicode.isAsciiWord c || c == point

def isMarker (c : Char) : Bool :=
  c == 'e' || c == 'E' || c == 'p' || c == 'P'

def isSign (c : Char) : Bool :=
  c == '+' || c == '-'

def run (signed : Bool) : Text → Text
  | [] => []
  | c :: cs => if isInterior c || (signed && isSign c) then c :: run (isMarker c) cs else []

def starts (before : Option Char) : Text → Bool
  | [] => false
  | c :: cs =>
    !before.any Unicode.isWord && (isDigit c || (c == point && cs.head?.any isDigit))

def scan (text : Text) (offset : Nat) : Option Nat :=
  (Text.splitAt? text offset).bind fun parts =>
    if starts parts.1.getLast? parts.2 then
      some (offset + Text.byteLength (run false parts.2))
    else none

theorem run_isPrefix (signed : Bool) (text : Text) : run signed text <+: text := by
  induction text generalizing signed with
  | nil => simp [run]
  | cons c cs ih =>
    simp only [run]
    split
    next => exact (List.cons_prefix_cons).2 ⟨rfl, ih _⟩
    next => exact List.nil_prefix

theorem run_pos_of_starts {before : Option Char} {text : Text} (h : starts before text) :
    0 < (run false text).length := by
  cases text with
  | nil => simp [starts] at h
  | cons c cs =>
    have interior : isInterior c = true := by
      simp only [starts, Bool.and_eq_true, Bool.or_eq_true] at h
      rcases h.2 with digit | pointed
      · simp only [isDigit, Radix.isDigit, Bool.and_eq_true] at digit
        simp [isInterior, Unicode.isAsciiWord, digit.1, digit.2]
      · simp [isInterior, pointed.1]
    simp [run, interior]

/-- Every candidate from here on, as byte offsets, leftmost first. After one the search goes on
at its end. -/
def allFrom (offset : Nat) (before : Option Char) (text : Text) : List (Nat × Nat) :=
  if found : starts before text then
    let chars := run false text
    have := run_pos_of_starts found
    have := (run_isPrefix false text).length_le
    let stop := offset + Text.byteLength chars
    (offset, stop) :: allFrom stop chars.getLast? (text.drop chars.length)
  else
    match text with
    | [] => []
    | c :: cs => allFrom (offset + c.utf8Size) (some c) cs
termination_by text.length
decreasing_by
  · simp only [List.length_drop]; omega
  · simp

def all (text : Text) : List (Nat × Nat) :=
  allFrom 0 none text

end Numeral.Candidate
