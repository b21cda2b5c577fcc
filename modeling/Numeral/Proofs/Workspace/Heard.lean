import Numeral.Proofs.Workspace.Log
import Numeral.Workspace.Events

set_option autoImplicit false

namespace Numeral

theorem getElem?_set_none {α : Type} {slots : List (Option α)} {slot other : Nat} {a : α}
    (found : (slots.set slot none)[other]? = some (some a)) :
    slots[other]? = some (some a) ∧ other ≠ slot := by
  rw [List.getElem?_set] at found
  split at found
  next => split at found <;> simp at found
  next different => exact ⟨found, Ne.symm different⟩

namespace Workspace

/-- The books list what the reports list, and keep in each slot the draft that is kept there, no
draft twice. -/
structure Agrees (workspace : Workspace) (books : Books) : Prop where
  journals_eq : (workspace.journals.map fun entry => entry.report.diagnostics) =
    books.ledgers.map Ledger.diagnostics
  slots_eq : workspace.slots = books.held.map fun held => held.bind books.draft?
  live : ∀ number, some number ∈ books.held → ∃ draft, books.draft? number = some draft
  once : ∀ (slot other number : Nat), books.held[slot]? = some (some number) →
    books.held[other]? = some (some number) → slot = other

structure Drafting (workspace : Workspace) (books : Books) (number : Nat) (draft : Draft) :
    Prop where
  agrees : workspace.Agrees books
  kept : books.draft? number = some draft
  apart : some number ∉ books.held

theorem agrees_initial : initial.Agrees .initial where
  journals_eq := rfl
  slots_eq := rfl
  live := by simp [Books.initial]
  once := by simp [Books.initial]

end Workspace

theorem Books.draft?_lt {books : Books} {number : Nat} {draft : Draft}
    (kept : books.draft? number = some draft) : number < books.drafts.length :=
  (List.getElem?_eq_some_iff.1 (Option.join_eq_some_iff.1 kept)).1

namespace Workspace

section

variable {workspace : Workspace} {books : Books}

namespace Agrees

variable (agrees : workspace.Agrees books)

include agrees

theorem length_eq : workspace.journals.length = books.ledgers.length := by
  simpa using congrArg List.length agrees.journals_eq

theorem of_drafts {drafts : List (Option Draft)}
    (same : ∀ number, some number ∈ books.held →
      Books.draft? { books with drafts := drafts } number = books.draft? number) :
    workspace.Agrees { books with drafts := drafts } where
  journals_eq := agrees.journals_eq
  slots_eq := by
    rw [agrees.slots_eq]
    apply List.map_congr_left
    intro held member
    cases held with
    | none => rfl
    | some number => exact (same number member).symm
  live := by
    intro number member
    rw [same number member]
    exact agrees.live number member
  once := agrees.once

theorem insert (journal : Nat) (diagnostic : Diagnostic) :
    (workspace.insert journal diagnostic).Agrees (books.insert journal diagnostic) where
  journals_eq := by
    have list (ledger : Ledger) : (ledger.insert diagnostic).diagnostics =
        ledger.diagnostics ++ [diagnostic] := by
      unfold Ledger.insert Ledger.count Ledger.push
      split <;> rfl
    apply List.ext_getElem?
    intro other
    have same := congrArg (fun lists => lists[other]?) agrees.journals_eq
    simp only [List.getElem?_map] at same
    simp only [Workspace.insert, Books.insert, List.getElem?_map, List.getElem?_modify]
    by_cases mine : journal = other
    next =>
      cases stored : workspace.journals[other]? <;>
        cases shared : books.ledgers[other]? <;>
          simp_all [Report.insert]
    next => simpa [mine] using same
  slots_eq := agrees.slots_eq
  live := agrees.live
  once := agrees.once

theorem drop (draft : Draft) : (workspace.drop draft).Agrees (books.drop draft) := by
  unfold Workspace.drop Books.drop
  split
  next => exact agrees
  next => exact agrees.insert draft.journal draft.diagnostic

theorem begin_heard {journal : Nat} (owned : journal < workspace.journals.length)
    (severity : Severity) (title : String) (located : Bool) :
    ∃ later, books.hear (.begun journal severity title located) = some later ∧
      workspace.Drafting later books.drafts.length
        ⟨journal, .new severity title located, false⟩ := by
  rw [agrees.length_eq] at owned
  -- the number of the new draft comes after those of all drafts in slots
  refine ⟨_, if_pos owned, agrees.of_drafts ?_, ?_, ?_⟩
  next =>
    intro number member
    obtain ⟨draft, kept⟩ := agrees.live number member
    rw [Books.draft?, List.getElem?_append_left (Books.draft?_lt kept), Books.draft?]
  next => simp [Books.draft?]
  next =>
    intro member
    obtain ⟨draft, kept⟩ := agrees.live _ member
    exact Nat.lt_irrefl _ (Books.draft?_lt kept)

theorem resume_heard {slot : Nat} {draft : Draft}
    (held : workspace.slots[slot]? = some (some draft)) :
    ∃ number later, books.held[slot]? = some (some number) ∧
      books.hear (.resumed slot) = some later ∧
      (workspace.release slot).Drafting later number draft := by
  rw [agrees.slots_eq, List.getElem?_map, Option.map_eq_some_iff] at held
  obtain ⟨number?, here, found⟩ := held
  obtain ⟨number, rfl, kept⟩ := Option.bind_eq_some_iff.1 found
  refine ⟨number, { books with held := books.held.set slot none }, here, ?_, ⟨?_, ?_, ?_, ?_⟩,
    kept, ?_⟩
  next => simp [Books.hear, here]
  next => exact agrees.journals_eq
  next =>
    rw [release, agrees.slots_eq, List.map_set]
    rfl
  next =>
    intro other member
    exact agrees.live other ((List.mem_or_eq_of_mem_set member).resolve_right (by simp))
  next =>
    intro first second other one two
    exact agrees.once first second other (getElem?_set_none one).1 (getElem?_set_none two).1
  next =>
    intro member
    obtain ⟨other, again⟩ := List.mem_iff_getElem?.1 member
    obtain ⟨there, different⟩ := getElem?_set_none again
    exact different (agrees.once other slot number there here)

end Agrees

namespace Drafting

variable {number : Nat} {draft : Draft} (drafting : workspace.Drafting books number draft)

include drafting

theorem set_agrees (last : Option Draft) :
    workspace.Agrees { books with drafts := books.drafts.set number last } := by
  apply drafting.agrees.of_drafts
  intro other member
  have different : number ≠ other := by
    rintro rfl
    exact drafting.apart member
  rw [Books.draft?, List.getElem?_set_ne different, Books.draft?]

theorem change_heard (change : Change) :
    ∃ later, books.hear (.changed number change) = some later ∧
      workspace.Drafting later number (draft.apply change) := by
  refine ⟨{ books with drafts := books.drafts.set number (some (draft.apply change)) }, ?_,
    drafting.set_agrees _, ?_, drafting.apart⟩
  next => rw [Books.hear, drafting.kept]; rfl
  next => simp [Books.draft?, Books.draft?_lt drafting.kept]

theorem changes_heard (changes : List Change) :
    ∃ later, books.hearAll (changes.map (Event.changed number)) = some later ∧
      workspace.Drafting later number (changes.foldl Draft.apply draft) := by
  induction changes generalizing books draft with
  | nil => exact ⟨books, rfl, drafting⟩
  | cons change rest ih =>
    obtain ⟨next, heard, going⟩ := drafting.change_heard change
    obtain ⟨later, all, last⟩ := ih going
    exact ⟨later, by rw [List.map_cons, Books.hearAll, heard]; exact all, last⟩

theorem end_heard (committed : Bool) :
    ∃ later, books.hear (.ended number committed) = some later ∧
      (workspace.drop (if committed then { draft with speculative := false } else draft)).Agrees
        later := by
  refine ⟨_, ?_, (drafting.set_agrees none).drop _⟩
  rw [Books.hear, drafting.kept]
  rfl

theorem keep_heard :
    ∃ later, books.hear (.kept number) = some later ∧ (workspace.hold draft).Agrees later := by
  refine ⟨{ books with held := books.held ++ [some number] }, ?_, ?_, ?_, ?_, ?_⟩
  next => rw [Books.hear, drafting.kept]; rfl
  next => exact drafting.agrees.journals_eq
  next =>
    rw [hold, drafting.agrees.slots_eq, List.map_append]
    exact congrArg (fun last => books.held.map (fun held => held.bind books.draft?) ++ [last])
      drafting.kept.symm
  next =>
    intro other member
    rcases List.mem_append.1 member with old | new
    next => exact drafting.agrees.live other old
    next =>
      obtain rfl := Option.some.inj (List.mem_singleton.1 new)
      exact ⟨draft, drafting.kept⟩
  next =>
    intro first second other one two
    rw [getElem?_concat] at one two
    -- the new slot is the only one with this draft, which was in none before
    split at one <;> split at two
    next same again => rw [same, again]
    next =>
      cases one
      exact absurd (List.mem_of_getElem? two) drafting.apart
    next =>
      cases two
      exact absurd (List.mem_of_getElem? one) drafting.apart
    next => exact drafting.agrees.once first second other one two

end Drafting

end

section

variable {workspace : Workspace} {draft : Draft}

theorem labelled?_of_locate {spot : Spot} {located : Except Fault (Nat × Range)}
    (found : workspace.locate spot = some located) (severity : Severity) (message : String) :
    (workspace.labelled? spot severity message).map draft.apply =
      (located.map fun place =>
        { draft with
          diagnostic := draft.diagnostic.label place.1 place.2 severity message }).toOption := by
  obtain ⟨ref, named, rest⟩ := Option.bind_eq_some_iff.1 found
  obtain ⟨file, stored, made⟩ := Option.bind_eq_some_iff.1 rest
  obtain rfl := Option.some.inj made
  cases placed : file.span (Range.between spot.start spot.stop) <;>
    simp [labelled?, named, stored, placed, Except.map, Except.toOption, Draft.apply,
      Diagnostic.label]

theorem change?_of_amend {amendment : Amendment} {amended : Except Fault Draft}
    (made : workspace.amend draft amendment = some amended) :
    (workspace.change? draft amendment).map draft.apply = amended.toOption := by
  cases amendment with
  | saying spot message =>
    obtain ⟨located, found, same⟩ := Option.bind_eq_some_iff.1 made
    obtain rfl := Option.some.inj same
    exact labelled?_of_locate found draft.diagnostic.severity message
  | remark spot message =>
    obtain ⟨located, found, same⟩ := Option.bind_eq_some_iff.1 made
    obtain rfl := Option.some.inj same
    exact labelled?_of_locate found .help message
  | note message =>
    obtain rfl := Option.some.inj made
    rfl
  | speculate =>
    obtain rfl := Option.some.inj made
    rfl
  | reportedAt =>
    obtain ⟨journal, kept, same⟩ := Option.bind_eq_some_iff.1 made
    obtain rfl := Option.some.inj same
    simp [change?, kept, Draft.apply, Except.toOption]

theorem changes_apply (change : Change) (amendments : List Amendment) :
    workspace.changes (draft.apply change) amendments = workspace.changes draft amendments := by
  have same (amendment : Amendment) :
      workspace.change? (draft.apply change) amendment = workspace.change? draft amendment := by
    cases amendment <;> cases change <;> rfl
  induction amendments with
  | nil => rfl
  | cons amendment rest ih => rw [changes, changes, same, ih]

theorem amendAll_changes {amendments : List Amendment} {last : Draft} {fault? : Option Fault}
    (made : workspace.amendAll draft amendments = some (last, fault?)) :
    last = (workspace.changes draft amendments).foldl Draft.apply draft ∧
      ((workspace.changes draft amendments).length = amendments.length ↔ fault? = none) := by
  induction amendments generalizing draft with
  | nil =>
    cases made
    simp [changes]
  | cons amendment rest ih =>
    obtain ⟨amended, first, later⟩ := Option.bind_eq_some_iff.1 made
    have change := change?_of_amend first
    cases amended with
    | error fault =>
      have stuck : workspace.change? draft amendment = none := by
        simpa [Except.toOption] using change
      cases later
      simp [changes, stuck]
    | ok next =>
      obtain ⟨found, called, rfl⟩ := Option.map_eq_some_iff.1 change
      have rest := ih later
      rw [changes_apply] at rest
      simpa [changes, called] using rest

theorem complete_heard {books : Books} {number : Nat} {amendments : List Amendment}
    {ending : Ending} {next : Workspace} {outcome : Outcome}
    (drafting : workspace.Drafting books number draft)
    (completed : workspace.complete draft amendments ending = some (next, outcome)) :
    ∃ later, books.hearAll (workspace.callsOn number draft amendments ending) = some later ∧
      next.Agrees later := by
  obtain ⟨⟨last, fault?⟩, made, finished⟩ := Option.bind_eq_some_iff.1 completed
  obtain ⟨rfl, whole⟩ := amendAll_changes made
  obtain ⟨middle, heard, going⟩ := drafting.changes_heard (workspace.changes draft amendments)
  have all (event : Event) :
      books.hearAll ((workspace.changes draft amendments).map (Event.changed number) ++ [event]) =
        middle.hear event := by
    rw [Books.hearAll_append, heard, Option.bind_some, Books.hearAll_singleton]
  rw [callsOn, all]
  cases fault? with
  | some fault =>
    rw [if_neg (by simp [whole])]
    cases finished
    exact going.end_heard false
  | none =>
    rw [if_pos (whole.2 rfl)]
    cases ending with
    | drop =>
      cases finished
      exact going.end_heard false
    | commit =>
      cases finished
      exact going.end_heard true
    | hold =>
      cases finished
      exact going.keep_heard

end

end Workspace

end Numeral
