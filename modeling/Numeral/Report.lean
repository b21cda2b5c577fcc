import Numeral.Report.Page

set_option autoImplicit false

namespace Numeral

structure Options where
  color : Bool
  showsLocations : Bool
  explains : Bool
  deriving DecidableEq

namespace Options

def golden (options : Options) : Options :=
  { options with color := false, showsLocations := false }

def print (options : Options) : String :=
  "Options \x7b color: " ++ toString options.color ++ ", show_report_locations: " ++
    toString options.showsLocations ++ ", explain: " ++ toString options.explains ++ " \x7d"

end Options

structure Report where
  options : Options
  diagnostics : List Diagnostic
  deriving DecidableEq

namespace Report

def insert (diagnostic : Diagnostic) (report : Report) : Report :=
  { report with diagnostics := report.diagnostics ++ [diagnostic] }

def errorCount (report : Report) : Nat :=
  report.diagnostics.countP fun diagnostic => diagnostic.severity = .error

@[simp] theorem errorCount_insert (diagnostic : Diagnostic) (report : Report) :
    (report.insert diagnostic).errorCount =
      report.errorCount + if diagnostic.severity = .error then 1 else 0 := by
  simp [errorCount, insert, List.countP_append, List.countP_cons]

def isOk (report : Report) : Bool :=
  report.errorCount == 0

def aborting (errors : Nat) : Snippet :=
  ⟨.error, "aborting due to " ++ toString errors ++ " error" ++ (if errors = 1 then "" else "s"),
    [], []⟩

def pieces (files : List SourceFile) (options : Options) (report : Report) :
    List (Except Fault String) :=
  let diagnostics := report.diagnostics.map fun diagnostic =>
    (diagnostic.snippet files options.showsLocations).map fun snippet =>
      Page.render options.color snippet ++ "\n\n"
  let ending := if report.errorCount = 0 then []
    else [.ok (Page.render options.color (aborting report.errorCount) ++ "\n")]
  diagnostics ++ ending

def renderWith (files : List SourceFile) (options : Options) (report : Report) :
    Except Fault String :=
  ((report.pieces files options).mapM id).map String.join

def render (files : List SourceFile) (report : Report) : Except Fault String :=
  report.renderWith files report.options

def renderGolden (files : List SourceFile) (report : Report) : Except Fault String :=
  report.renderWith files report.options.golden

inductive Written where
  | whole (text : String)
  | full (bytes : Nat)
  deriving DecidableEq

def writePieces (room : Nat) (written : String) :
    List (Except Fault String) → Except Fault Written
  | [] => .ok (.whole written)
  | .error fault :: _ => .error fault
  | .ok piece :: rest =>
    if (written ++ piece).utf8ByteSize ≤ room then writePieces room (written ++ piece) rest
    else .ok (.full room)

def write (files : List SourceFile) (room : Option Nat) (report : Report) :
    Except Fault Written :=
  match room with
  | none => (report.render files).map .whole
  | some room => writePieces room "" (report.pieces files report.options)

def check (files : List SourceFile) (expected : Option String) (report : Report) :
    Except Fault Unit := do
  let text ← report.renderGolden files
  if expected = some text then return () else throw .unexpectedReport

end Report

end Numeral
