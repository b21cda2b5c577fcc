import Numeral.Candidate
import Numeral.Grammar.Search

set_option autoImplicit false

namespace Numeral

namespace Search

def fetch (text : Text) (offset : Nat) : Except Fault Char :=
  match text.byteAt? offset with
  | some byte => .ok byte
  | none => .error .badSlice

def isInteriorAt (text : Text) (offset : Nat) : Except Fault Bool := do
  let byte ← fetch text offset
  if Candidate.isSign byte && offset ≠ 0 then
    return Candidate.isMarker (← fetch text (offset - 1))
  else return Candidate.isInterior byte

def interiorEnd (text : Text) : Nat → Nat → Except Fault Nat
  | 0, stop => return stop
  | room + 1, stop => do
    if ← isInteriorAt text stop then interiorEnd text room (← plus stop 1) else return stop

def scan (text : Text) (offset : Nat) : Except Fault (Option Nat) :=
  match Text.splitAt? text offset with
  | none => return none
  | some (before, _) =>
    if before.getLast?.any Unicode.isWord then return none
    else do
      let first := text.byteAt? offset
      let next ← plus offset 1
      let pointed := first == some point && (text.byteAt? next).any Candidate.isDigit
      if first.any Candidate.isDigit || pointed then
        return some (← interiorEnd text (Text.byteLength text - offset) offset)
      else return none

def spansFrom (text : Text) : Nat → Nat → Except Fault (List (Nat × Nat))
  | 0, _ => return []
  | room + 1, offset =>
    if Text.byteLength text ≤ offset then return []
    else do
      match ← scan text offset with
      | some stop => return (offset, stop) :: (← spansFrom text room stop)
      | none =>
        match text.from? offset with
        | none => throw .badSlice
        | some rest => spansFrom text room (← plus offset ((rest.head?.map Char.utf8Size).getD 1))

def spans (text : Text) : Except Fault (List (Nat × Nat)) :=
  spansFrom text (Text.byteLength text) 0

def classifyBetween (text : Text) (start stop : Nat) :
    Except Fault (List Entry × Option Obstacle) := do
  let span ← Range.resolve (Range.between start stop) (Text.byteLength text)
  classify text span

def classifyAsBetween (text : Text) (start stop : Nat) (form : Form) :
    Except Fault (Option (List Entry)) := do
  let span ← Range.resolve (Range.between start stop) (Text.byteLength text)
  classifyAs text span form

def recognize (text : Text) (offset : Nat) : Except Fault (Option (List Entry)) := do
  match ← scan text offset with
  | none => return none
  | some stop => return some (← classifyBetween text offset stop).1

def findAll (text : Text) : Except Fault (List (List Entry)) := do
  (← spans text).mapM fun ends => (classifyBetween text ends.1 ends.2).map Prod.fst

end Search

/-- What stands at an obstacle. Only the end of a numeral is looked for past it. -/
def Obstacle.found? (text : Text) (stop : Nat) (obstacle : Obstacle) :
    Except Fault (Option Char) := do
  let last : Bound := if obstacle.want = .finish then .unbounded else .excluded stop
  return (← Bounds.text ⟨.included obstacle.offset, last⟩ text).head?

namespace Search

/-- The entries of a candidate, and where an explanation points if it is invalid. -/
def explained (text : Text) (start stop : Nat) : Except Fault (List Entry × Option Range) := do
  let span ← Range.ofInts start stop
  let (entries, obstacle?) ← classify text span
  let _ ← Range.resolve (Range.between start stop) (Text.byteLength text)
  match obstacle? with
  | none => return (entries, none)
  | some obstacle =>
    let found? ← obstacle.found? text stop
    let last ← plus obstacle.offset ((found?.map Char.utf8Size).getD 0)
    let place ← Range.resolve (Range.between obstacle.offset last) (Text.byteLength text)
    return (entries, some place)

def explainedAll (text : Text) : Except Fault (List (List Entry × Option Range)) := do
  (← spans text).mapM fun ends => explained text ends.1 ends.2

end Search

end Numeral
