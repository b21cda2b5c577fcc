import Numeral.Workspace
import Numeral.Workspace.Disk

/-!
What can be done with a workspace, one action at a time. An action that names a handle which does
not exist is no action at all.
-/

set_option autoImplicit false

namespace Numeral

structure Spot where
  file : Nat
  start : Nat
  stop : Nat
  deriving DecidableEq

inductive Amendment where
  | saying (spot : Spot) (message : String)
  | remark (spot : Spot) (message : String)
  | note (message : String)
  | speculate
  | reportedAt
  deriving DecidableEq

inductive Opening where
  | error (title : String)
  | warning (title : String)
  | invalidLiteral (spot : Spot)
  deriving DecidableEq

inductive Ending where
  | drop
  | commit
  | hold
  deriving DecidableEq

inductive Action where
  | newContext
  | cloneContext (context : Nat)
  | newReport (context : Nat) (options : Options)
  | cloneReport (report : Nat)
  | addFile (context : Nat) (path : String) (text : Text)
  | getFile (context index : Nat)
  | openFile (context report : Nat) (path : String) (disk : Disk)
  | literals (file report : Nat)
  | literalAt (file report offset : Nat)
  | diagnose (report : Nat) (opening : Opening) (amendments : List Amendment) (ending : Ending)
  | extend (slot : Nat) (amendments : List Amendment) (ending : Ending)

inductive Outcome where
  | done
  -- the number of a new handle or slot
  | number (number : Nat)
  -- a new handle on a file, the file, and how many its context has
  | file (number : Nat) (file : SourceFile) (count : Nat)
  | noFile
  -- a file could not be opened, and its context still has this many
  | refused (count : Nat)
  | literals (found : List Literal)
  | literal (found : Option Literal)
  | fault (fault : Fault)

namespace Workspace

def locate (workspace : Workspace) (spot : Spot) : Option (Except Fault (Nat × Range)) := do
  let ref ← workspace.files[spot.file]?
  let file ← workspace.deref? ref
  return (file.span (Range.between spot.start spot.stop)).map fun range => (ref.index, range)

def amend (workspace : Workspace) (draft : Draft) :
    Amendment → Option (Except Fault Draft)
  | .saying spot message => do
    return (← workspace.locate spot).map fun place =>
      { draft with diagnostic := draft.diagnostic.saying place.1 place.2 message }
  | .remark spot message => do
    return (← workspace.locate spot).map fun place =>
      { draft with diagnostic := draft.diagnostic.remark place.1 place.2 message }
  | .note message => some (.ok { draft with diagnostic := draft.diagnostic.note message })
  | .speculate => some (.ok { draft with speculative := true })
  | .reportedAt => do
    let journal ← workspace.journals[draft.journal]?
    return .ok { draft with
      diagnostic := draft.diagnostic.reportedAt journal.report.options.showsLocations }

def amendAll (workspace : Workspace) (draft : Draft) :
    List Amendment → Option (Draft × Option Fault)
  | [] => some (draft, none)
  | amendment :: rest => do
    match ← workspace.amend draft amendment with
    | .ok next => workspace.amendAll next rest
    | .error fault => return (draft, some fault)

def begin? (workspace : Workspace) (journal : Nat) (opening : Opening) :
    Option (Except Fault Draft) := do
  let shown := (← workspace.journals[journal]?).report.options.showsLocations
  match opening with
  | .error title => return .ok ⟨journal, .new .error title shown, false⟩
  | .warning title => return .ok ⟨journal, .new .warning title shown, false⟩
  | .invalidLiteral spot =>
    return (← workspace.locate spot).map fun place =>
      ⟨journal, .invalidLiteral place.1 place.2 shown, false⟩

def finish (workspace : Workspace) (draft : Draft) : Ending → Workspace × Outcome
  | .drop => (workspace.drop draft, .done)
  | .commit => (workspace.drop { draft with speculative := false }, .done)
  | .hold => (workspace.hold draft, .number workspace.slots.length)

/-- Goes on with a draft to its end. One that meets a fault is dropped as it is then. -/
def complete (workspace : Workspace) (draft : Draft) (amendments : List Amendment)
    (ending : Ending) : Option (Workspace × Outcome) := do
  match ← workspace.amendAll draft amendments with
  | (last, none) => return workspace.finish last ending
  | (last, some fault) => return (workspace.drop last, .fault fault)

def apply (workspace : Workspace) : Action → Option (Workspace × Outcome)
  | .newContext => some (workspace.newContext, .number workspace.contexts.length)
  | .cloneContext context => do
    let store ← workspace.contexts[context]?
    return (workspace.addContext store, .number workspace.contexts.length)
  | .newReport context options => do
    let store ← workspace.contexts[context]?
    return (workspace.newReport store options, .number workspace.reports.length)
  | .cloneReport report => do
    let journal ← workspace.reports[report]?
    return (workspace.addReport journal, .number workspace.reports.length)
  | .addFile context path text => do
    let store ← workspace.contexts[context]?
    let next := workspace.addFile store ⟨path, text⟩
    return (next, .file workspace.files.length ⟨path, text⟩ (next.storeFiles store).length)
  | .getFile context index => do
    let store ← workspace.contexts[context]?
    let files := workspace.storeFiles store
    match files[index]? with
    | none => return (workspace, .noFile)
    | some file =>
      return (workspace.addHandle ⟨store, index⟩, .file workspace.files.length file files.length)
  | .openFile context report path disk => do
    let store ← workspace.contexts[context]?
    let journal ← workspace.reports[report]?
    match disk.openFile path with
    | .ok file =>
      let next := workspace.addFile store file
      return (next, .file workspace.files.length file (next.storeFiles store).length)
    | .error title =>
      let shown := (← workspace.journals[journal]?).report.options.showsLocations
      return (workspace.insert journal (.new .error title shown),
        .refused (workspace.storeFiles store).length)
  | .literals file report => do
    let ref ← workspace.files[file]?
    let source ← workspace.deref? ref
    let journal ← workspace.reports[report]?
    let options := (← workspace.journals[journal]?).report.options
    match source.literals options.explains options.showsLocations ref.index with
    | .ok found =>
      return (workspace.insertAll journal (found.filterMap Prod.snd),
        .literals (found.map Prod.fst))
    | .error fault =>
      let left := source.leftBy options.explains options.showsLocations ref.index
        (Candidate.all source.text)
      return (workspace.insertAll journal left, .fault fault)
  | .literalAt file report offset => do
    let ref ← workspace.files[file]?
    let source ← workspace.deref? ref
    let journal ← workspace.reports[report]?
    let options := (← workspace.journals[journal]?).report.options
    match source.literalAt options.explains options.showsLocations ref.index offset with
    | .ok none => return (workspace, .literal none)
    | .ok (some found) =>
      return (workspace.insertAll journal found.2.toList, .literal (some found.1))
    | .error fault =>
      let left := source.leftBy options.explains options.showsLocations ref.index
        ((Candidate.scan source.text offset).toList.map (offset, ·))
      return (workspace.insertAll journal left, .fault fault)
  | .diagnose report opening amendments ending => do
    let journal ← workspace.reports[report]?
    match ← workspace.begin? journal opening with
    | .ok draft => workspace.complete draft amendments ending
    | .error fault => return (workspace, .fault fault)
  | .extend slot amendments ending => do
    let draft ← (← workspace.slots[slot]?)
    (workspace.release slot).complete draft amendments ending

def run (workspace : Workspace) : List Action → Option (Workspace × List Outcome)
  | [] => some (workspace, [])
  | action :: rest => do
    let (next, outcome) ← workspace.apply action
    let (last, outcomes) ← next.run rest
    return (last, outcome :: outcomes)

end Workspace

end Numeral
