import Numeral.Report.Snippet
import Numeral.Unicode.Width

/-!
The lines in which a snippet is displayed: source lines, underlines below them, and marks at the
left that hold the two ends of a longer range together. Source lines far from any underline are
folded away.
-/

set_option autoImplicit false

namespace Numeral.Layout

structure Mark where
  char : Char
  severity : Severity
  deriving DecidableEq

inductive Part where
  | alone
  | opening
  | closing
  deriving DecidableEq

/-- A source line, `first` and `last` being its ends in characters. -/
structure SourceLine where
  number : Nat
  text : Text
  first : Nat
  last : Nat
  deriving DecidableEq

structure Strip where
  marks : List Mark
  -- columns
  start : Nat
  stop : Nat
  severity : Severity
  message : String
  part : Part
  deriving DecidableEq

structure Block where
  line : SourceLine
  marks : List Mark
  strips : List Strip
  deriving DecidableEq

inductive Line where
  | origin (isFirst : Bool) (path : String) (row column : Nat)
  | blank
  | content (line : SourceLine) (marks : List Mark)
  | strip (strip : Strip)
  | fold (marks : List Mark)
  deriving DecidableEq

def number (firstNumber first : Nat) : List Text.Line → List SourceLine
  | [] => []
  | line :: rest =>
    let stop := first + line.chars.length
    ⟨firstNumber, line.chars, first, stop⟩ :: number (firstNumber + 1) (stop + line.ending) rest

def SourceLine.column (line : SourceLine) (index : Nat) : Nat :=
  ((line.text.map Unicode.width ++ [1]).take index).foldr (· + ·) 0

namespace Block

def addStrip (strip : Strip) (block : Block) : Block :=
  { block with strips := block.strips ++ [strip] }

def addMark (mark : Mark) (block : Block) : Block :=
  match block.strips.getLast? with
  | none => { block with marks := block.marks ++ [mark] }
  | some strip =>
    { block with
      strips := block.strips.dropLast ++ [{ strip with marks := strip.marks ++ [mark] }] }

/-- Draws what a line shows of an underline, and says whether later lines may show more. -/
def draw (block : Block) (under : Underline) : Block × Bool :=
  let line := block.line
  let column (offset : Nat) := line.column (offset - line.first)
  if line.last < under.start then (block, true)
  else if (line.first ≤ under.start ∧ under.stop ≤ line.last) ∨
      (under.start = line.last ∧ under.stop ≤ under.start + 1) then
    (block.addStrip ⟨[], column under.start, column under.stop, under.severity, under.message,
      .alone⟩, false)
  else if line.first ≤ under.start then
    if under.start = line.first then (block.addMark ⟨'/', under.severity⟩, true)
    else
      let start := column under.start
      (block.addStrip ⟨[], start, start + 1, under.severity, "", .opening⟩, true)
  else if line.last < under.stop then (block.addMark ⟨'|', under.severity⟩, true)
  else if line.first ≤ under.stop then
    let start := column under.stop - 1
    ((block.addMark ⟨'|', under.severity⟩).addStrip
      ⟨[⟨'|', under.severity⟩], start, start + 1, under.severity, under.message, .closing⟩, false)
  else (block, true)

def drawAll (block : Block) : List Underline → Block × List Underline
  | [] => (block, [])
  | under :: rest =>
    let drawn := block.draw under
    let later := drawAll drawn.1 rest
    (later.1, if drawn.2 then under :: later.2 else later.2)

def lines (block : Block) : List Line :=
  .content block.line block.marks :: block.strips.map .strip

end Block

def blocks (unders : List Underline) : List SourceLine → List Block
  | [] => []
  | line :: rest =>
    let drawn := (Block.mk line [] []).drawAll unders
    drawn.1 :: blocks drawn.2 rest

def shorten (marks : List Mark) (run : List Line) : List Line :=
  if 8 < run.length then run.take 4 ++ .fold marks :: run.drop (run.length - 2)
  else if 2 < run.length then .fold marks :: run.drop (run.length - 1)
  else run

/-- `run` are the source lines since the last underline; those after the last of all are
dropped. -/
def fold (run : List Line) : List Line → List Line
  | [] => []
  | .content line marks :: rest => fold (run ++ [.content line marks]) rest
  | .strip strip :: rest => shorten strip.marks run ++ .strip strip :: fold [] rest
  | other :: rest => run ++ other :: fold [] rest

def position (offset : Nat) : List Line → Nat × Nat
  | [] => (1, 1)
  | .content line _ :: rest =>
    if line.first ≤ offset ∧ offset ≤ line.last then (line.number, offset - line.first + 1)
    else position offset rest
  | _ :: rest => position offset rest

def sliceLines (isFirst : Bool) (slice : Slice) : List Line :=
  let numbered := number slice.firstLine 0 (Text.lines slice.source)
  let shown := fold [] ((blocks slice.underlines numbered).flatMap Block.lines)
  let place := position ((slice.underlines.head?.map Underline.start).getD 0) shown
  .origin isFirst slice.path place.1 place.2 :: .blank :: shown ++ [.blank]

def bodyLines : List Slice → List Line
  | [] => []
  | slice :: rest => sliceLines true slice ++ rest.flatMap (sliceLines false)

end Numeral.Layout
