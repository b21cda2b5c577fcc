import Numeral.Report
import Numeral.Report.Explanation

/-!
Workspaces: what a run works on. Contexts hold source files and only ever gain some; reports
collect diagnostics about the files of one context. Both are used through handles, and a clone is
a second handle on the same thing.
-/

set_option autoImplicit false

namespace Numeral

structure FileRef where
  store : Nat
  index : Nat
  deriving DecidableEq

structure Journal where
  store : Nat
  report : Report
  deriving DecidableEq

/-- A diagnostic that has not ended yet, for the journal of that number. A speculative one is
reported only if it is committed. -/
structure Draft where
  journal : Nat
  diagnostic : Diagnostic
  speculative : Bool
  deriving DecidableEq

structure Workspace where
  stores : List (List SourceFile)
  journals : List Journal
  -- handles, by number
  contexts : List Nat
  reports : List Nat
  files : List FileRef
  -- drafts that are kept for later
  slots : List (Option Draft)
  deriving DecidableEq

namespace Workspace

def initial : Workspace :=
  ⟨[[]], [], [0], [], [], []⟩

def storeFiles (workspace : Workspace) (store : Nat) : List SourceFile :=
  (workspace.stores[store]?).getD []

def contextFiles? (workspace : Workspace) (context : Nat) : Option (List SourceFile) :=
  (workspace.contexts[context]?).map workspace.storeFiles

def deref? (workspace : Workspace) (ref : FileRef) : Option SourceFile :=
  (workspace.storeFiles ref.store)[ref.index]?

def file? (workspace : Workspace) (file : Nat) : Option SourceFile :=
  (workspace.files[file]?).bind workspace.deref?

def journal? (workspace : Workspace) (report : Nat) : Option Journal :=
  (workspace.reports[report]?).bind fun journal => workspace.journals[journal]?

def report? (workspace : Workspace) (report : Nat) : Option Report :=
  (workspace.journal? report).map Journal.report

def reportFiles (workspace : Workspace) (report : Nat) : List SourceFile :=
  ((workspace.journal? report).map fun journal => workspace.storeFiles journal.store).getD []

def sameFile? (workspace : Workspace) (a b : Nat) : Option Bool := do
  return (← workspace.files[a]?) = (← workspace.files[b]?)

def newContext (workspace : Workspace) : Workspace :=
  { workspace with
    stores := workspace.stores ++ [[]]
    contexts := workspace.contexts ++ [workspace.stores.length] }

def addContext (store : Nat) (workspace : Workspace) : Workspace :=
  { workspace with contexts := workspace.contexts ++ [store] }

def newReport (store : Nat) (options : Options) (workspace : Workspace) : Workspace :=
  { workspace with
    journals := workspace.journals ++ [⟨store, ⟨options, []⟩⟩]
    reports := workspace.reports ++ [workspace.journals.length] }

def addReport (journal : Nat) (workspace : Workspace) : Workspace :=
  { workspace with reports := workspace.reports ++ [journal] }

def addHandle (ref : FileRef) (workspace : Workspace) : Workspace :=
  { workspace with files := workspace.files ++ [ref] }

def addFile (store : Nat) (file : SourceFile) (workspace : Workspace) : Workspace :=
  let index := (workspace.storeFiles store).length
  { workspace with stores := workspace.stores.modify store (· ++ [file]) }.addHandle
    ⟨store, index⟩

def insert (journal : Nat) (diagnostic : Diagnostic) (workspace : Workspace) : Workspace :=
  { workspace with
    journals := workspace.journals.modify journal fun entry =>
      { entry with report := entry.report.insert diagnostic } }

def insertAll (journal : Nat) (diagnostics : List Diagnostic) (workspace : Workspace) :
    Workspace :=
  diagnostics.foldl (fun now diagnostic => now.insert journal diagnostic) workspace

def drop (draft : Draft) (workspace : Workspace) : Workspace :=
  if draft.speculative then workspace else workspace.insert draft.journal draft.diagnostic

def hold (draft : Draft) (workspace : Workspace) : Workspace :=
  { workspace with slots := workspace.slots ++ [some draft] }

def release (slot : Nat) (workspace : Workspace) : Workspace :=
  { workspace with slots := workspace.slots.set slot none }

end Workspace

end Numeral
