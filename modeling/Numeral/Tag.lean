import Numeral.Form

set_option autoImplicit false

namespace Numeral

inductive Sign where
  | pos
  | neg
  deriving DecidableEq

def Sign.char : Sign → Char
  | .pos => '+'
  | .neg => '-'

def Sign.print : Sign → String
  | .pos => "Pos"
  | .neg => "Neg"

/-- The radix of an exponent's parts is that of the digits it scales; exponents themselves are
always decimal. -/
inductive Tag where
  | literal (kind : Kind)
  | radixPrefix (radix : Radix)
  | digits (radix : Radix)
  | separator
  | point (radix : Radix)
  | exponentMarker (radix : Radix)
  | exponentSign (sign : Sign) (radix : Radix)
  | exponentDigits (radix : Radix)
  | imaginary
  deriving DecidableEq

namespace Tag

def scope? : Tag → Option String
  | literal .invalid => some "invalid.illegal.constant.numeric"
  | literal _ => none
  | radixPrefix .decimal => none
  | radixPrefix radix => some ("keyword.other.unit." ++ radix.name)
  | digits radix => some ("constant.numeric." ++ radix.name)
  | separator => some "punctuation.separator.constant.numeric"
  | point .hexadecimal => some "constant.numeric.hexadecimal"
  | point _ => some "constant.numeric.decimal.point"
  | exponentMarker .hexadecimal => some "keyword.other.unit.exponent.hexadecimal"
  | exponentMarker _ => some "keyword.other.unit.exponent.decimal"
  | exponentSign .pos .hexadecimal => some "keyword.operator.plus.exponent.hexadecimal"
  | exponentSign .neg .hexadecimal => some "keyword.operator.minus.exponent.hexadecimal"
  | exponentSign .pos _ => some "keyword.operator.plus.exponent.decimal"
  | exponentSign .neg _ => some "keyword.operator.minus.exponent.decimal"
  | exponentDigits .hexadecimal => some "constant.numeric.exponent.hexadecimal"
  | exponentDigits _ => some "constant.numeric.exponent.decimal"
  | imaginary => some "keyword.other.unit.imaginary"

def print : Tag → String
  | literal kind => "Literal(" ++ kind.print ++ ")"
  | radixPrefix radix => "Prefix(" ++ radix.print ++ ")"
  | digits radix => "Digits(" ++ radix.print ++ ")"
  | separator => "Separator"
  | point radix => "Point(" ++ radix.print ++ ")"
  | exponentMarker radix => "ExponentMarker(" ++ radix.print ++ ")"
  | exponentSign sign radix => "ExponentSign(" ++ sign.print ++ ", " ++ radix.print ++ ")"
  | exponentDigits radix => "ExponentDigits(" ++ radix.print ++ ")"
  | imaginary => "Imaginary"

def title : Tag → String
  | literal kind => "Literal(" ++ kind.name ++ ")"
  | tag => tag.print

def isDigitGroup : Tag → Bool
  | digits _ | exponentDigits _ => true
  | _ => false

end Tag

end Numeral
