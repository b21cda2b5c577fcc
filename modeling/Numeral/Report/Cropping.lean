import Numeral.Report.Snippet

/-!
What a diagnostic shows of its source files, by offsets: the labels are gone through once, to mark
bytes of whole files, and then every file is cut and its marks are moved. That no cut and no
difference fails has to be proved.
-/

set_option autoImplicit false

namespace Numeral

namespace Text

def charIndices (offset : Nat) : Text → List (Nat × Char)
  | [] => []
  | c :: cs => (offset, c) :: charIndices (offset + c.utf8Size) cs

def charOffset (text : Text) (byte : Nat) : Nat :=
  ((charIndices 0 text).takeWhile fun entry => entry.1 < byte).length

def lineStarts (bytes : List UInt8) : List Nat :=
  bytes.zipIdx.filterMap fun entry =>
    if entry.1 = newline.toUInt8 then some (entry.2 + 1) else none

def linesBefore (bytes : List UInt8) : Nat × Nat :=
  ((lineStarts bytes).zipIdx.map fun entry => (entry.2 + 1, entry.1)).getLast?.getD (0, 0)

end Text

namespace Slice

def minus (offset count : Nat) : Except Fault Nat :=
  if count ≤ offset then .ok (offset - count) else .error .offsetTooSmall

def ofFile (file : SourceFile) : Slice :=
  ⟨file.path, 1, file.text, []⟩

def widened (source : Text) (range : Range) : Except Fault Range :=
  if range.start = range.stop ∧ source ≠ [] then
    if range.stop = Text.byteLength source then do
      let start ← minus range.stop 1
      return ⟨start, range.stop⟩
    else .ok ⟨range.start, range.start + 1⟩
  else .ok range

def mark (label : Label) (slice : Slice) : Except Fault Slice := do
  let range ← widened slice.source label.range
  let underline : Underline := ⟨range.start, range.stop, label.severity, label.message⟩
  return { slice with underlines := slice.underlines ++ [underline] }

/-- Marks every label, in the last slice as long as the file stays the same. -/
def markAll (files : List SourceFile) :
    List Label → Option Nat → List Slice → Except Fault (List Slice)
  | [], _, slices => .ok slices
  | label :: rest, current, slices =>
    match files[label.file]? with
    | none => .error .unknownFile
    | some file =>
      let begun := if current = some label.file then slices else slices ++ [ofFile file]
      match begun.getLast? with
      | none => markAll files rest (some label.file) begun
      | some slice => do
        let marked ← slice.mark label
        markAll files rest (some label.file) (begun.dropLast ++ [marked])

def rebase (source : Text) (skipped : Nat) (underline : Underline) : Except Fault Underline := do
  let start ← minus underline.start skipped
  let stop ← minus underline.stop skipped
  return { underline with
    start := Text.charOffset source start
    stop := Text.charOffset source stop }

def crop (slice : Slice) : Except Fault Slice :=
  match Text.splitAt? slice.source ((slice.underlines.map Underline.start).min?.getD 0) with
  | none => .error .badSlice
  | some (front, _) =>
    let (count, skipped) := Text.linesBefore (Text.bytes front)
    match Text.from? slice.source skipped with
    | none => .error .badSlice
    | some source => do
      let underlines ← slice.underlines.mapM (rebase source skipped)
      return { slice with firstLine := count + 1, source, underlines }

end Slice

def Diagnostic.prepare (files : List SourceFile) (diagnostic : Diagnostic) :
    Except Fault (List Slice) := do
  let marked ← Slice.markAll files diagnostic.labels none []
  marked.mapM Slice.crop

end Numeral
