import Numeral.Candidate
import Numeral.Grammar.Production
import Numeral.Tree

set_option autoImplicit false

namespace Numeral

open Grammar

def separatorEntries (start : Nat) : Text → List Entry
  | [] => []
  | c :: cs =>
    let stop := start + c.utf8Size
    if c = separator then ⟨.separator, ⟨start, stop⟩, 0⟩ :: separatorEntries stop cs
    else separatorEntries stop cs

def Grammar.Piece.entries (start : Nat) (piece : Piece) : List Entry :=
  let below := if piece.tag.isDigitGroup then separatorEntries start piece.chars else []
  ⟨piece.tag, ⟨start, start + Text.byteLength piece.chars⟩, below.length⟩ :: below

def Grammar.Piece.allEntries (start : Nat) : List Piece → List Entry
  | [] => []
  | piece :: rest =>
    piece.entries start ++ allEntries (start + Text.byteLength piece.chars) rest

def Tree.ofReading (range : Range) (reading : Reading) : Tree :=
  ⟨.ofForm reading.form reading.imaginary, range, Piece.allEntries range.start reading.pieces⟩

def excerptAt (text : Text) (start stop : Nat) : Except Fault (Range × Text.Excerpt) := do
  let range ← Range.resolve (Range.between start stop) (Text.byteLength text)
  match Text.excerpt? text range.start range.stop with
  | some excerpt => return (range, excerpt)
  | none => throw (.offBoundary range.start range.stop)

def parseExcerpt (table : List Production) (excerpt : Text.Excerpt) : Trial Reading :=
  parse table excerpt.inside (excerpt.after.head?.any Unicode.isWord)

/-- Classifies by the given productions; beside an invalid tree comes the furthest miss. -/
def examineBy (table : List Production) (text : Text) (start stop : Nat) :
    Except Fault (Tree × Option Miss) := do
  let (range, excerpt) ← excerptAt text start stop
  let trial := parseExcerpt table excerpt
  match trial.result with
  | some reading => return (.ofReading range reading, none)
  | none => return (.invalid range, Miss.furthest trial.misses)

def examine : Text → Nat → Nat → Except Fault (Tree × Option Miss) :=
  examineBy productions

def classify (text : Text) (start stop : Nat) : Except Fault Tree :=
  (examine text start stop).map Prod.fst

def classifyAs (text : Text) (start stop : Nat) (form : Form) : Except Fault (Option Tree) := do
  let (range, excerpt) ← excerptAt text start stop
  return (parseExcerpt (productionsOf form) excerpt).result.map (Tree.ofReading range)

def recognize (text : Text) (offset : Nat) : Except Fault (Option Tree) :=
  match Candidate.scan text offset with
  | none => .ok none
  | some stop => (classify text offset stop).map some

def findAll (text : Text) : Except Fault (List Tree) :=
  (Candidate.all text).mapM fun ends => classify text ends.1 ends.2

end Numeral
