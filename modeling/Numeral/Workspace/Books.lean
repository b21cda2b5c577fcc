import Numeral.Workspace

/-!
The bookkeeping behind reports, step by step. The handles on a report share a list and, apart from
it, a counter; a diagnostic is built piece by piece, and is added to both where it ends, unless it
is speculative then. Committing one is to make it not speculative, and then to drop it.
-/

set_option autoImplicit false

namespace Numeral

structure Ledger where
  diagnostics : List Diagnostic
  errors : Nat
  deriving DecidableEq

namespace Ledger

def empty : Ledger :=
  ⟨[], 0⟩

def count (severity : Severity) (ledger : Ledger) : Ledger :=
  if severity = .error then { ledger with errors := ledger.errors + 1 } else ledger

def push (diagnostic : Diagnostic) (ledger : Ledger) : Ledger :=
  { ledger with diagnostics := ledger.diagnostics ++ [diagnostic] }

-- the counter is raised before the list is touched
def insert (diagnostic : Diagnostic) (ledger : Ledger) : Ledger :=
  (ledger.count diagnostic.severity).push diagnostic

def displayFrom (files : List SourceFile) (options : Options) (errors : Nat) :
    List Diagnostic → Except Fault (List String)
  | [] =>
    .ok (if errors = 0 then []
      else [Page.render options.color (Report.aborting errors) ++ "\n"])
  | diagnostic :: rest => do
    let errors := if diagnostic.severity = .error then errors + 1 else errors
    let snippet ← diagnostic.snippet files options.showsLocations
    let later ← displayFrom files options errors rest
    return (Page.render options.color snippet ++ "\n\n") :: later

def display (files : List SourceFile) (options : Options) (ledger : Ledger) :
    Except Fault String :=
  (displayFrom files options 0 ledger.diagnostics).map String.join

end Ledger

/-- One call that changes a draft. A label comes with the file it was made from. -/
inductive Change where
  | labelled (ref : FileRef) (label : Label)
  | noted (text : String)
  | speculated
  | placed (shown : Bool)
  deriving DecidableEq

def Draft.apply (draft : Draft) : Change → Draft
  | .labelled _ label =>
    { draft with
      diagnostic := { draft.diagnostic with labels := draft.diagnostic.labels ++ [label] } }
  | .noted text =>
    { draft with diagnostic := { draft.diagnostic with notes := draft.diagnostic.notes ++ [text] } }
  | .speculated => { draft with speculative := true }
  | .placed shown => { draft with diagnostic := draft.diagnostic.reportedAt shown }

/-- What happens to reports and drafts. Drafts are numbered as they are begun, reports as they are
opened. -/
inductive Event where
  | opened
  | begun (journal : Nat) (severity : Severity) (title : String) (located : Bool)
  | changed (draft : Nat) (change : Change)
  -- a draft is kept in a new slot, or taken out of one
  | kept (draft : Nat)
  | resumed (slot : Nat)
  | ended (draft : Nat) (committed : Bool)
  deriving DecidableEq

structure Books where
  ledgers : List Ledger
  -- what has ended is gone
  drafts : List (Option Draft)
  -- which draft is in which slot
  held : List (Option Nat)
  deriving DecidableEq

namespace Books

def initial : Books :=
  ⟨[], [], []⟩

def draft? (books : Books) (number : Nat) : Option Draft :=
  (books.drafts[number]?).join

def insert (journal : Nat) (diagnostic : Diagnostic) (books : Books) : Books :=
  { books with ledgers := books.ledgers.modify journal (·.insert diagnostic) }

def drop (draft : Draft) (books : Books) : Books :=
  if draft.speculative then books else books.insert draft.journal draft.diagnostic

def hear (books : Books) : Event → Option Books
  | .opened => some { books with ledgers := books.ledgers ++ [.empty] }
  | .begun journal severity title located =>
    if journal < books.ledgers.length then
      some { books with
        drafts := books.drafts ++ [some ⟨journal, .new severity title located, false⟩] }
    else none
  | .changed number change => do
    let draft ← books.draft? number
    return { books with drafts := books.drafts.set number (some (draft.apply change)) }
  | .kept number => do
    let _ ← books.draft? number
    return { books with held := books.held ++ [some number] }
  | .resumed slot => do
    let _ ← (← books.held[slot]?)
    return { books with held := books.held.set slot none }
  | .ended number committed => do
    let draft ← books.draft? number
    let last := if committed then { draft with speculative := false } else draft
    return { books with drafts := books.drafts.set number none }.drop last

def hearAll (books : Books) : List Event → Option Books
  | [] => some books
  | event :: rest => do
    let next ← books.hear event
    next.hearAll rest

end Books

end Numeral
