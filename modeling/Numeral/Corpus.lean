import Numeral.Classify

set_option autoImplicit false

namespace Numeral.Corpus

def acceptedInts : List String :=
  ["42", "4_2", "0600", "0_600", "0o600", "0O600", "0xBadFace", "0xBad_Face",
   "0x_67_7a_2f_cc_40_c6", "170141183460469231731687303715884105727",
   "170_141183_460469_231731_687303_715884_105727", "0b1010", "0B_1_0", "0i", "42i", "0x_ffi"]

def rejectedInts : List String :=
  ["_42", "42_", "4__2", "0_xBadFace", "0o6_00", "08", "0b102", "0x", "42ix", "1i\u00e9"]

def acceptedFloats : List String :=
  ["0.", "72.40", "072.40", "2.71828", "1.e+0", "6.67428e-11", ".25", ".12345E+5", "1_5.",
   "0.15e+0_2", "0x1p-2", "0x2.p10", "0x1.Fp+0", "0X.8p-0", "0X_1FFFP-16", "1.5i", "1e9i",
   "0x1p-2i"]

def rejectedFloats : List String :=
  ["0x.p1", "1p-2", "0x1.6e-2", "1_.5", "1._5", "1.5_e1", "1.5e_1", "1.5e1_", "0x15e-2", "1e",
   "1e+-5", "1.5e5.5"]

def kindOf (entry : String) : Except Fault Kind :=
  (classify entry.toList 0 (Text.byteLength entry.toList)).map Tree.kind

def isInt : Kind → Bool
  | .int _ _ => true
  | _ => false

def isFloat : Kind → Bool
  | .float _ _ => true
  | _ => false

private def allAre (is : Kind → Bool) (entries : List String) : Bool :=
  entries.all fun entry => match kindOf entry with
    | .ok kind => is kind
    | .error _ => false

def check : Bool :=
  allAre isInt acceptedInts && allAre isFloat acceptedFloats &&
    allAre Kind.isInvalid rejectedInts && allAre Kind.isInvalid rejectedFloats

end Numeral.Corpus
