import Numeral.Radix

set_option autoImplicit false

namespace Numeral

inductive Form where
  | decimalFloat
  | hexFloat
  | decimalInt
  | binaryInt
  | octalInt
  | hexInt
  deriving DecidableEq

namespace Form

def precedence : List Form :=
  [decimalFloat, hexFloat, decimalInt, binaryInt, octalInt, hexInt]

/-- The radix of everything before the exponent. -/
def radix : Form → Radix
  | decimalFloat | decimalInt => .decimal
  | hexFloat | hexInt => .hexadecimal
  | binaryInt => .binary
  | octalInt => .octal

def isFloat : Form → Bool
  | decimalFloat | hexFloat => true
  | _ => false

def name : Form → String
  | decimalFloat => "decimal float"
  | hexFloat => "hexadecimal float"
  | decimalInt => "decimal integer"
  | binaryInt => "binary integer"
  | octalInt => "octal integer"
  | hexInt => "hexadecimal integer"

def print : Form → String
  | decimalFloat => "DecimalFloat"
  | hexFloat => "HexFloat"
  | decimalInt => "DecimalInt"
  | binaryInt => "BinaryInt"
  | octalInt => "OctalInt"
  | hexInt => "HexInt"

end Form

inductive Kind where
  | int (radix : Radix) (imaginary : Bool)
  | float (radix : Radix) (imaginary : Bool)
  | invalid
  deriving DecidableEq

namespace Kind

def ofForm (form : Form) (imaginary : Bool) : Kind :=
  if form.isFloat then .float form.radix imaginary else .int form.radix imaginary

def form? : Kind → Option Form
  | .int .binary _ => some .binaryInt
  | .int .octal _ => some .octalInt
  | .int .decimal _ => some .decimalInt
  | .int .hexadecimal _ => some .hexInt
  | .float .hexadecimal _ => some .hexFloat
  | .float _ _ => some .decimalFloat
  | .invalid => none

def radix? : Kind → Option Radix
  | .int radix _ | .float radix _ => some radix
  | .invalid => none

def isImaginary : Kind → Bool
  | .int _ imaginary | .float _ imaginary => imaginary
  | .invalid => false

def isInvalid : Kind → Bool
  | .invalid => true
  | _ => false

def name (kind : Kind) : String :=
  match kind.form? with
  | none => "invalid numeric literal"
  | some form => if kind.isImaginary then "imaginary " ++ form.name else form.name

private def printFields (radix : Radix) (imaginary : Bool) : String :=
  " \x7b radix: " ++ radix.print ++ ", imaginary: " ++ toString imaginary ++ " \x7d"

def print : Kind → String
  | .int radix imaginary => "Int" ++ printFields radix imaginary
  | .float radix imaginary => "Float" ++ printFields radix imaginary
  | .invalid => "Invalid"

@[simp] theorem form?_ofForm (form : Form) (imaginary : Bool) :
    (ofForm form imaginary).form? = some form := by
  cases form <;> rfl

@[simp] theorem isImaginary_ofForm (form : Form) (imaginary : Bool) :
    (ofForm form imaginary).isImaginary = imaginary := by
  cases form <;> rfl

end Kind

end Numeral
