import Numeral.Report.Diagnostic
import Numeral.Source

set_option autoImplicit false

namespace Numeral

structure Underline where
  start : Nat
  stop : Nat
  severity : Severity
  message : String
  deriving DecidableEq

structure Slice where
  path : String
  firstLine : Nat
  source : Text
  underlines : List Underline
  deriving DecidableEq

structure Snippet where
  severity : Severity
  title : String
  slices : List Slice
  notes : List String
  deriving DecidableEq

structure Passage where
  index : Nat
  file : SourceFile
  labels : List Label
  deriving DecidableEq

namespace Passage

def add (label : Label) (file : SourceFile) : List Passage → List Passage
  | [] => [⟨label.file, file, [label]⟩]
  | passage :: rest =>
    if passage.index = label.file then
      { passage with labels := label :: passage.labels } :: rest
    else ⟨label.file, file, [label]⟩ :: passage :: rest

def gather (files : List SourceFile) : List Label → Except Fault (List Passage)
  | [] => .ok []
  | label :: rest =>
    match files[label.file]? with
    | none => .error .unknownFile
    | some file => (gather files rest).map (add label file)

/-- An empty range needs something to underline: the byte after it, or the last one at the end
of the text. -/
def widen (length : Nat) (range : Range) : Range :=
  if range.start = range.stop ∧ 0 < length then
    if range.stop = length then ⟨range.start - 1, range.stop⟩ else ⟨range.start, range.stop + 1⟩
  else range

def underline (source : Text) (skipped : Nat) (label : Label) (range : Range) : Underline :=
  ⟨Text.charsBefore source (range.start - skipped), Text.charsBefore source (range.stop - skipped),
    label.severity, label.message⟩

def shownRange (passage : Passage) (label : Label) : Range :=
  widen passage.file.length label.range

def earliest (passage : Passage) : Nat :=
  ((passage.labels.map fun label => (passage.shownRange label).start).min?).getD 0

def crop (passage : Passage) : Except Fault Slice :=
  match Text.splitAt? passage.file.text passage.earliest with
  | none => .error .badSlice
  | some (front, back) =>
    let source := Text.lastLine front ++ back
    let skipped := Text.byteLength front - Text.byteLength (Text.lastLine front)
    .ok ⟨passage.file.path, front.count Text.newline + 1, source,
      passage.labels.map fun label =>
        underline source skipped label (passage.shownRange label)⟩

end Passage

-- places are not named, they are only said to be known
def placeNote : String := "reported at: <location>"

namespace Diagnostic

def slices (files : List SourceFile) (diagnostic : Diagnostic) : Except Fault (List Slice) := do
  let passages ← Passage.gather files diagnostic.labels
  passages.mapM Passage.crop

def snippet (files : List SourceFile) (showsPlaces : Bool) (diagnostic : Diagnostic) :
    Except Fault Snippet := do
  let slices ← diagnostic.slices files
  let place := if showsPlaces && diagnostic.located then [placeNote] else []
  return ⟨diagnostic.severity, diagnostic.title, slices, diagnostic.notes ++ place⟩

end Diagnostic

end Numeral
