import Numeral.Range

set_option autoImplicit false

namespace Numeral

inductive Severity where
  | error
  | warning
  | note
  | help
  deriving DecidableEq

def Severity.name : Severity → String
  | .error => "error"
  | .warning => "warning"
  | .note => "note"
  | .help => "help"

structure Label where
  file : Nat
  range : Range
  severity : Severity
  message : String
  deriving DecidableEq

/-- `located` is whether the diagnostic knows where it was reported. -/
structure Diagnostic where
  severity : Severity
  title : String
  labels : List Label
  notes : List String
  located : Bool
  deriving DecidableEq

-- Displays take two underscores in a row for the start of bold text.
def splitUnderscores : Text → Text
  | '_' :: '_' :: rest => '_' :: '\u200b' :: '_' :: splitUnderscores rest
  | c :: rest => c :: splitUnderscores rest
  | [] => []

def displayed (message : String) : String :=
  String.ofList (splitUnderscores message.toList)

namespace Diagnostic

def new (severity : Severity) (title : String) (located : Bool) : Diagnostic :=
  ⟨severity, title, [], [], located⟩

def label (file : Nat) (range : Range) (severity : Severity) (message : String)
    (diagnostic : Diagnostic) : Diagnostic :=
  { diagnostic with labels := diagnostic.labels ++ [⟨file, range, severity, displayed message⟩] }

def saying (file : Nat) (range : Range) (message : String) (diagnostic : Diagnostic) :
    Diagnostic :=
  diagnostic.label file range diagnostic.severity message

def remark (file : Nat) (range : Range) (message : String) (diagnostic : Diagnostic) :
    Diagnostic :=
  diagnostic.label file range .help message

def note (message : String) (diagnostic : Diagnostic) : Diagnostic :=
  { diagnostic with notes := diagnostic.notes ++ [displayed message] }

def reportedAt (shown : Bool) (diagnostic : Diagnostic) : Diagnostic :=
  { diagnostic with located := diagnostic.located || shown }

def invalidLiteral (file : Nat) (range : Range) (located : Bool) : Diagnostic :=
  (new .error "invalid numeric literal" located).saying file range "this is not a valid number"

end Diagnostic

end Numeral
