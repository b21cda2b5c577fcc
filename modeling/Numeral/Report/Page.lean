import Numeral.Report.Layout

set_option autoImplicit false

namespace Numeral.Page

open Layout

inductive Style where
  | severity (severity : Severity)
  | frame
  | title

def Style.code : Style → String
  | .severity .error => "\x1b[1m\x1b[91m"
  | .severity .warning => "\x1b[1m\x1b[93m"
  | .severity .note => "\x1b[1m\x1b[92m"
  | .severity .help => "\x1b[1m\x1b[96m"
  | .frame => "\x1b[1m\x1b[94m"
  | .title => "\x1b[1m"

def paint (color : Bool) (style : Style) (text : String) : String :=
  if color then style.code ++ text ++ "\x1b[0m" else text

def repeated (n : Nat) (c : Char) : String :=
  String.ofList (List.replicate n c)

structure Frame where
  color : Bool
  -- digits of the largest line number
  numberWidth : Nat
  markWidth : Nat

namespace Frame

def numbers : List Line → List Nat
  | [] => []
  | .content line _ :: rest => line.number :: numbers rest
  | _ :: rest => numbers rest

def markCounts : List Line → List Nat
  | [] => []
  | .content _ marks :: rest => marks.length :: markCounts rest
  | .strip strip :: rest => strip.marks.length :: markCounts rest
  | _ :: rest => markCounts rest

def ofLines (color : Bool) (lines : List Line) : Frame where
  color := color
  numberWidth := ((numbers lines).max?.map fun n => (toString n).length).getD 0
  markWidth := (markCounts lines).max?.getD 0

def gutter (frame : Frame) (text : String) : String :=
  paint frame.color .frame (repeated (frame.numberWidth - text.length) ' ' ++ text ++ " |")

def marks (frame : Frame) (marks : List Mark) : String :=
  repeated (frame.markWidth - marks.length) ' ' ++
    String.join (marks.map fun mark =>
      paint frame.color (.severity mark.severity) (String.singleton mark.char))

def markColumn (frame : Frame) (marks : List Mark) : String :=
  if frame.markWidth = 0 then "" else " " ++ frame.marks marks

def message (frame : Frame) (severity : Severity) (text : String) : String :=
  let paint := paint frame.color (.severity severity)
  if text = "" then ""
  else match severity with
    | .error | .warning => " " ++ paint text
    | .note | .help => " " ++ paint (paint severity.name ++ paint (": " ++ text))

def strip (frame : Frame) (strip : Strip) : String :=
  let filler := if strip.part = .alone then ' ' else '_'
  let stroke := if strip.severity = .error then '^' else '-'
  frame.gutter "" ++ frame.markColumn strip.marks ++
    paint frame.color (.severity strip.severity)
      (repeated (strip.start + 1) filler ++ repeated (strip.stop - strip.start) stroke) ++
    frame.message strip.severity strip.message

def line (frame : Frame) : Line → String
  | .origin isFirst path row column =>
    repeated frame.numberWidth ' ' ++ paint frame.color .frame (if isFirst then "-->" else ":::") ++
      " " ++ path ++ ":" ++ toString row ++ ":" ++ toString column
  | .blank => frame.gutter ""
  | .content line marks =>
    frame.gutter (toString line.number) ++ frame.markColumn marks ++ " " ++
      String.ofList line.text
  | .strip strip => frame.strip strip
  | .fold marks =>
    "..." ++
      if frame.markWidth = 0 then "" else repeated frame.numberWidth ' ' ++ frame.marks marks

def title (frame : Frame) (severity : Severity) (title : String) : String :=
  paint frame.color (.severity severity) severity.name ++
    if title = "" then "" else ": " ++ paint frame.color .title title

def firstNoteLine (frame : Frame) (text : Text) : String :=
  repeated (frame.numberWidth + 1) ' ' ++ paint frame.color .frame "=" ++ " " ++
    paint frame.color (.severity .note) Severity.note.name ++
    if text.isEmpty then "" else ": " ++ String.ofList text

def laterNoteLine (frame : Frame) (text : Text) : String :=
  repeated (frame.numberWidth + 3 + Severity.note.name.length + 2) ' ' ++ String.ofList text

def note (frame : Frame) (text : String) : List String :=
  match Text.lines text.toList with
  | [] => []
  | first :: rest =>
    frame.firstNoteLine first.chars :: rest.map fun line => frame.laterNoteLine line.chars

end Frame

def render (color : Bool) (snippet : Snippet) : String :=
  let body := bodyLines snippet.slices
  let frame := Frame.ofLines color body
  "\n".intercalate
    (frame.title snippet.severity snippet.title :: body.map frame.line ++
      snippet.notes.flatMap frame.note)

end Numeral.Page
