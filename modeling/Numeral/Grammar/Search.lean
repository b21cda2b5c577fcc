import Numeral.Classify

/-!
The grammar as a search over the bytes of a text that writes all its entries into one list. A rule
takes the offset where it starts and gives the one where it stops. What a rule wrote before it
failed stays, until whoever tried the rule takes it back.
-/

set_option autoImplicit false

namespace Numeral

open Grammar

structure Obstacle where
  offset : Nat
  want : Want
  form : Form
  deriving DecidableEq

structure Search where
  text : Text
  span : Range
  entries : List Entry
  furthest : Option Obstacle
  form : Form
  deriving DecidableEq

/-- A try that may fail; what it did to the search stays either way. -/
abbrev Attempt (α : Type) : Type :=
  OptionT (StateT Search (Except Fault)) α

namespace Search

def new (text : Text) (span : Range) : Except Fault Search := do
  let span ← span.check (Text.byteLength text)
  if (Text.splitAt? text span.start).isSome ∧ (Text.splitAt? text span.stop).isSome then
    return ⟨text, span, [⟨.literal .invalid, span, 0⟩], none, .decimalFloat⟩
  else throw (.offBoundary span.start span.stop)

def byte (offset : Nat) : Attempt (Option Char) := do
  let search ← get
  if offset < search.span.start ∨ search.span.stop ≤ offset then return none
  match search.text.byteAt? offset with
  | some byte => return some byte
  | none => throwThe Fault .badSlice

def isDigit (radix : Radix) (offset : Nat) : Attempt Bool := do
  return (← byte offset).any radix.isDigit

def plus (offset count : Nat) : Except Fault Nat :=
  if offset + count ≤ Bound.largestOffset then .ok (offset + count) else .error .offsetTooLarge

-- the offset in front of the first one is the largest there is
def behind (offset : Nat) : Nat :=
  if offset = 0 then Bound.largestOffset else offset - 1

def mark : Attempt Nat := do
  return (← get).entries.length

def rollback (mark : Nat) : Attempt Unit := do
  if mark = 0 then throwThe Fault .rootDiscarded
  modify fun search => { search with entries := search.entries.take mark }

def openNode (tag : Tag) (start : Nat) : Attempt Nat := do
  let range ← Range.ofInts start start
  let index ← mark
  modify fun search => { search with entries := search.entries ++ [⟨tag, range, 0⟩] }
  return index

-- counts are kept in 32 bits
def countOf (n : Nat) : Nat :=
  n % (Range.largestBound + 1)

def closeNode (index stop : Nat) : Attempt Unit := do
  let search ← get
  match search.entries[index]? with
  | none => throwThe Fault .badSlice
  | some entry =>
    let range ← Range.ofInts entry.range.start stop
    let below := countOf (search.entries.length - index - 1)
    set { search with entries := search.entries.set index ⟨entry.tag, range, below⟩ }

def leaf (tag : Tag) (start stop : Nat) : Attempt Unit := do
  let index ← openNode tag start
  closeNode index stop

def finish (tag : Tag) : Attempt Unit := do
  let search ← get
  match search.entries with
  | [] => throwThe Fault .badSlice
  | root :: rest =>
    set { search with entries := { root with tag := tag } :: rest }
    closeNode 0 root.range.stop

def note (obstacle : Obstacle) (search : Search) : Search :=
  if search.furthest.all fun best => best.offset < obstacle.offset then
    { search with furthest := some obstacle }
  else search

def miss {α : Type} (offset : Nat) (want : Want) : Attempt α := do
  modify fun search => search.note ⟨offset, want, search.form⟩
  failure

def optional (rule : Nat → Attempt Nat) (offset : Nat) : Attempt Nat := do
  let before ← mark
  rule offset <|> do
    rollback before
    return offset

def takeSeparator (offset : Nat) : Attempt Nat := do
  if (← byte offset) == some separator then
    let stop ← plus offset 1
    leaf .separator offset stop
    return stop
  else failure

def takeGroupTail (radix : Radix) : Nat → Nat → Attempt Nat
  | 0, stop => return stop
  | room + 1, stop => do
    let next ← plus stop 1
    if ← isDigit radix stop then takeGroupTail radix room next
    else
      let separated := (← byte stop) == some separator
      let followed ← isDigit radix next
      if radix.hasSeparators && separated && followed then
        leaf .separator stop next
        takeGroupTail radix room next
      else return stop

def takeGroup (radix : Radix) (tag : Tag) (want : Want) (offset : Nat) : Attempt Nat := do
  if ← isDigit radix offset then
    let group ← openNode tag offset
    let second ← plus offset 1
    let room := (← get).span.stop - second
    let stop ← takeGroupTail radix room second
    closeNode group stop
    return stop
  else miss offset want

def takeDigits (radix : Radix) : Nat → Attempt Nat :=
  takeGroup radix (.digits radix) (.digit radix)

def expectUnprefixed (offset : Nat) : Attempt Nat := do
  let first ← byte offset
  if first == some '0' then
    let next ← plus offset 1
    let second ← byte next
    if second.any radixLetters.contains then miss next (.digit .decimal)
    else return offset
  else if first.any fun c => Radix.decimal.isDigit c || c == point then return offset
  else miss offset (.digit .decimal)

def takePrefix (radix : Radix) (offset : Nat) : Attempt Nat := do
  if (← byte offset) == some '0' then
    let next ← plus offset 1
    let lettered := (← byte next).any radix.prefixLetters.contains
    if lettered then
      let stop ← plus offset 2
      leaf (.radixPrefix radix) offset stop
      return stop
    else if radix = .octal then
      leaf (.radixPrefix radix) offset next
      return next
    else miss next (.digit radix)
  else miss offset (.digit .decimal)

def takeInteger (offset : Nat) : Attempt Nat := do
  let stop ← takeGroup .decimal (.digits .decimal) (.digit .decimal) offset
  let second ← plus offset 1
  if (← byte offset) == some '0' && second < stop then miss second .finish
  else return stop

def takePoint (radix : Radix) (offset : Nat) : Attempt Nat := do
  let pointed := (← byte offset) == some point
  let preceded ← isDigit radix (behind offset)
  let next ← plus offset 1
  let followed ← isDigit radix next
  if pointed && (preceded || followed) then
    leaf (.point radix) offset next
    return next
  else miss offset .point

def sign? (c : Char) : Option Sign :=
  if c = '+' then some .pos else if c = '-' then some .neg else none

def takeSign (radix : Radix) (offset : Nat) : Attempt Nat := do
  match (← byte offset).bind sign? with
  | some sign =>
    let stop ← plus offset 1
    leaf (.exponentSign sign radix) offset stop
    return stop
  | none => return offset

def takeMarker (radix : Radix) (offset : Nat) : Attempt Nat := do
  let marked := (← byte offset).any radix.exponentMarkers.contains
  let separated := (← byte (behind offset)) == some separator
  if marked && !separated then
    let stop ← plus offset 1
    leaf (.exponentMarker radix) offset stop
    return stop
  else miss offset (.exponent radix)

def takeExponent (radix : Radix) (offset : Nat) : Attempt Nat := do
  let signed ← takeMarker radix offset
  let unsigned ← takeSign radix signed
  takeGroup .decimal (.exponentDigits radix) .exponentDigit unsigned

/-- Looks at the character after the unit even where the span is over. -/
def takeImaginary (offset : Nat) : Attempt Nat := do
  if (← byte offset) == some imaginaryUnit then
    let next ← plus offset 1
    match (← get).text.from? next with
    | none => throwThe Fault .badSlice
    | some rest =>
      if rest.head?.any Unicode.isWord then miss next .finish
      else
        leaf .imaginary offset next
        return next
  else failure

def expectEnd (offset : Nat) : Attempt Unit := do
  if offset = (← get).span.stop then return () else miss offset .finish

def takeStep (radix : Radix) : Step → Nat → Attempt Nat
  | .unprefixed => expectUnprefixed
  | .radixPrefix => takePrefix radix
  | .prefixSeparator => optional takeSeparator
  | .digits => takeDigits radix
  | .maybeDigits => optional (takeDigits radix)
  | .integer => takeInteger
  | .point => takePoint radix
  | .exponent => takeExponent radix
  | .maybeExponent => optional (takeExponent radix)

def takeSteps (radix : Radix) : List Step → Nat → Attempt Nat
  | [], offset => return offset
  | step :: steps, offset => do
    let next ← takeStep radix step offset
    takeSteps radix steps next

def takeAlternative (form : Form) (steps : List Step) : Attempt Bool := do
  let before ← mark
  let sequence : Attempt Bool := do
    let start := (← get).span.start
    let stop ← takeSteps form.radix steps start
    let last ← optional takeImaginary stop
    expectEnd last
    return last ≠ stop
  sequence <|> do
    rollback before
    failure

def takeForm (form : Form) : Attempt Unit := do
  modify fun search => { search with form := form }
  let imaginary ← (alternatives form).firstM (takeAlternative form)
  finish (.literal (.ofForm form imaginary))

def classify (text : Text) (span : Range) : Except Fault (List Entry × Option Obstacle) := do
  let search ← new text span
  match ← (Form.precedence.firstM takeForm).run.run search with
  | (some (), last) => return (last.entries, none)
  | (none, last) => return (last.entries, last.furthest)

def classifyAs (text : Text) (span : Range) (form : Form) : Except Fault (Option (List Entry)) := do
  let search ← new text span
  match ← (takeForm form).run.run search with
  | (some (), last) => return some last.entries
  | (none, _) => return none

end Search

end Numeral
