import Numeral.Fault
import Numeral.Text

/-!
Byte ranges. Bounds come from callers and may be anything; a range that was resolved against a
limit is in order, inside the limit, and fits into 32 bits.
-/

set_option autoImplicit false

namespace Numeral

structure Range where
  start : Nat
  stop : Nat
  deriving DecidableEq

inductive Bound where
  | included (offset : Nat)
  | excluded (offset : Nat)
  | unbounded
  deriving DecidableEq

structure Bounds where
  start : Bound
  stop : Bound
  deriving DecidableEq

namespace Bound

/-- Offsets are 64 bits wide. -/
def largestOffset : Nat := 18446744073709551615

-- the offset after the largest one is the largest again
def successor (offset : Nat) : Nat :=
  min (offset + 1) largestOffset

def asStart : Bound → Nat
  | included n => n
  | excluded n => successor n
  | unbounded => 0

def asStop (limit : Nat) : Bound → Nat
  | included n => successor n
  | excluded n => n
  | unbounded => limit

end Bound

namespace Range

/-- Ranges are kept in 32 bits. -/
def largestBound : Nat := 4294967295

def boundOf (n : Int) : Except Fault Nat :=
  if 0 ≤ n ∧ n ≤ largestBound then .ok n.toNat else .error (.boundTooLarge n)

def ofInts (start stop : Int) : Except Fault Range := do
  let first ← boundOf start
  let last ← boundOf stop
  return ⟨first, last⟩

def check (range : Range) (limit : Nat) : Except Fault Range :=
  if range.stop < range.start then .error (.outOfOrder range.start range.stop)
  else if limit < range.stop then .error (.outOfBounds range.stop limit)
  else .ok range

def resolve (bounds : Bounds) (limit : Nat) : Except Fault Range := do
  let range ← ofInts bounds.start.asStart (bounds.stop.asStop limit)
  range.check limit

def between (start stop : Nat) : Bounds :=
  ⟨.included start, .excluded stop⟩

def length (range : Range) : Nat :=
  range.stop - range.start

def isEmpty (range : Range) : Bool :=
  range.start == range.stop

def contains (outer inner : Range) : Bool :=
  outer.start ≤ inner.start && inner.stop ≤ outer.stop

def print (range : Range) : String :=
  toString range.start ++ ".." ++ toString range.stop

def text (range : Range) (source : Text) : Except Fault Text :=
  match Text.slice? source range.start range.stop with
  | some part => .ok part
  | none => .error .badSlice

end Range

/-- Cuts by bounds directly: no width limit, and nothing saturates. -/
def Bounds.text (bounds : Bounds) (source : Text) : Except Fault Text :=
  let start := match bounds.start with
    | .included n => n
    | .excluded n => n + 1
    | .unbounded => 0
  let stop := match bounds.stop with
    | .included n => n + 1
    | .excluded n => n
    | .unbounded => Text.byteLength source
  Range.text ⟨start, stop⟩ source

end Numeral
