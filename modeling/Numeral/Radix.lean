set_option autoImplicit false

namespace Numeral

inductive Radix where
  | binary
  | octal
  | decimal
  | hexadecimal
  deriving DecidableEq

namespace Radix

def base : Radix → Nat
  | binary => 2
  | octal => 8
  | decimal => 10
  | hexadecimal => 16

def isDigit : Radix → Char → Bool
  | binary, c => c == '0' || c == '1'
  | octal, c => '0' ≤ c && c ≤ '7'
  | decimal, c => '0' ≤ c && c ≤ '9'
  | hexadecimal, c => ('0' ≤ c && c ≤ '9') || ('a' ≤ c && c ≤ 'f') || ('A' ≤ c && c ≤ 'F')

/-- For octal the letter is optional. -/
def prefixLetters : Radix → List Char
  | binary => ['b', 'B']
  | octal => ['o', 'O']
  | decimal => []
  | hexadecimal => ['x', 'X']

def exponentMarkers : Radix → List Char
  | decimal => ['e', 'E']
  | hexadecimal => ['p', 'P']
  | _ => []

def hasSeparators : Radix → Bool
  | octal => false
  | _ => true

def name : Radix → String
  | binary => "binary"
  | octal => "octal"
  | decimal => "decimal"
  | hexadecimal => "hexadecimal"

def print : Radix → String
  | binary => "Binary"
  | octal => "Octal"
  | decimal => "Decimal"
  | hexadecimal => "Hexadecimal"

end Radix

def separator : Char := '_'

def point : Char := '.'

def imaginaryUnit : Char := 'i'

end Numeral
