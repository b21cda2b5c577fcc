import Numeral.Workspace.Action
import Numeral.Workspace.Books

set_option autoImplicit false

namespace Numeral

def Opening.calls : Opening → Severity × String × List Amendment
  | .error title => (.error, title, [])
  | .warning title => (.warning, title, [])
  | .invalidLiteral spot =>
    (.error, "invalid numeric literal", [.saying spot "this is not a valid number"])

def Ending.event (number : Nat) : Ending → Event
  | .drop => .ended number false
  | .commit => .ended number true
  | .hold => .kept number

namespace Diagnostic

def events (journal : Nat) (ref : FileRef) (number : Nat) (diagnostic : Diagnostic) :
    List Event :=
  .begun journal diagnostic.severity diagnostic.title diagnostic.located ::
    (diagnostic.labels.map (Change.labelled ref) ++ diagnostic.notes.map Change.noted).map
      (Event.changed number) ++ [.ended number false]

def allEvents (journal : Nat) (ref : FileRef) (number : Nat) : List Diagnostic → List Event
  | [] => []
  | diagnostic :: rest =>
    diagnostic.events journal ref number ++ allEvents journal ref (number + 1) rest

end Diagnostic

namespace Workspace

def labelled? (workspace : Workspace) (spot : Spot) (severity : Severity) (message : String) :
    Option Change := do
  let ref ← workspace.files[spot.file]?
  let file ← workspace.deref? ref
  match file.span (Range.between spot.start spot.stop) with
  | .ok range => return .labelled ref ⟨ref.index, range, severity, displayed message⟩
  | .error _ => none

def change? (workspace : Workspace) (draft : Draft) : Amendment → Option Change
  | .saying spot message => workspace.labelled? spot draft.diagnostic.severity message
  | .remark spot message => workspace.labelled? spot .help message
  | .note message => some (.noted (displayed message))
  | .speculate => some .speculated
  | .reportedAt =>
    (workspace.journals[draft.journal]?).map fun journal =>
      .placed journal.report.options.showsLocations

def changes (workspace : Workspace) (draft : Draft) : List Amendment → List Change
  | [] => []
  | amendment :: rest =>
    match workspace.change? draft amendment with
    | some change => change :: workspace.changes draft rest
    | none => []

/-- The calls on a draft up to its end; it is dropped where one of them cannot be made. -/
def callsOn (workspace : Workspace) (number : Nat) (draft : Draft) (amendments : List Amendment)
    (ending : Ending) : List Event :=
  let changes := workspace.changes draft amendments
  changes.map (Event.changed number) ++
    [if changes.length = amendments.length then ending.event number else .ended number false]

def events? (workspace : Workspace) (books : Books) : Action → Option (List Event)
  | .newReport _ _ => some [.opened]
  | .openFile _ report path disk => do
    match disk.openFile path with
    | .ok _ => return []
    | .error title =>
      let journal ← workspace.reports[report]?
      let shown := (← workspace.journals[journal]?).report.options.showsLocations
      return [.begun journal .error title shown, .ended books.drafts.length false]
  | .literals file report => do
    let ref ← workspace.files[file]?
    let source ← workspace.deref? ref
    let journal ← workspace.reports[report]?
    let options := (← workspace.journals[journal]?).report.options
    return Diagnostic.allEvents journal ref books.drafts.length
      (source.leftBy options.explains options.showsLocations ref.index
        (Candidate.all source.text))
  | .literalAt file report offset => do
    let ref ← workspace.files[file]?
    let source ← workspace.deref? ref
    let journal ← workspace.reports[report]?
    let options := (← workspace.journals[journal]?).report.options
    return Diagnostic.allEvents journal ref books.drafts.length
      (source.leftBy options.explains options.showsLocations ref.index
        ((Candidate.scan source.text offset).toList.map (offset, ·)))
  | .diagnose report opening amendments ending => do
    let journal ← workspace.reports[report]?
    let shown := (← workspace.journals[journal]?).report.options.showsLocations
    match ← workspace.begin? journal opening with
    -- the place is made before the diagnostic, so there is none to be dropped
    | .error _ => return []
    | .ok _ =>
      let (severity, title, first) := opening.calls
      return .begun journal severity title shown ::
        workspace.callsOn books.drafts.length ⟨journal, .new severity title shown, false⟩
          (first ++ amendments) ending
  | .extend slot amendments ending => do
    let draft ← (← workspace.slots[slot]?)
    let number ← (← books.held[slot]?)
    return .resumed slot :: (workspace.release slot).callsOn number draft amendments ending
  | _ => some []

def log? (workspace : Workspace) (books : Books) : List Action → Option (List Event)
  | [] => some []
  | action :: rest => do
    let (next, _) ← workspace.apply action
    let events ← workspace.events? books action
    let later ← books.hearAll events
    return events ++ (← next.log? later rest)

end Workspace

end Numeral
