/-!
What stops an operation for good: a caller broke its promise. Ordinary bad numerals are not
faults, they are classified as invalid.
-/

set_option autoImplicit false

namespace Numeral

inductive Fault where
  | boundTooLarge (bound : Int)
  | outOfOrder (start stop : Nat)
  | outOfBounds (stop limit : Nat)
  | offBoundary (start stop : Nat)
  -- a label names a file that its report's context does not hold
  | unknownFile
  -- a text was cut outside of it or inside a character
  | badSlice
  -- an offset was counted on past the largest one
  | offsetTooLarge
  -- an offset was counted back past the first one
  | offsetTooSmall
  -- all of a tree was to be taken back, its root with it
  | rootDiscarded
  -- an asserted pattern did not match; the text says why
  | unmatched (why : String)
  -- a report is not the expected one
  | unexpectedReport
  deriving DecidableEq

private def internal (what : String) : String :=
  "numlit: " ++ what ++ "; this is a bug"

def Fault.message : Fault → Option String
  | .boundTooLarge bound =>
    some (internal ("range bound does not fit into u32: " ++ toString bound))
  | .outOfOrder start stop =>
    some ("out of order range: " ++ toString start ++ " > " ++ toString stop)
  | .outOfBounds stop limit =>
    some ("got out of bounds range: " ++ toString stop ++ " > " ++ toString limit)
  | .offBoundary start stop =>
    some ("range is not on char boundaries: " ++ toString start ++ ".." ++ toString stop)
  | .unknownFile => some (internal "diagnostic refers to a file that is not in its context")
  | .badSlice => none
  | .offsetTooLarge => none
  | .offsetTooSmall => none
  | .rootDiscarded => some (internal "attempted to roll back the root of a tree")
  | .unmatched why => some ("called `Result::unwrap()` on an `Err` value: " ++ why)
  | .unexpectedReport => none

end Numeral
