import Mathlib.Data.List.Basic
import Mathlib.Data.List.Induction
import Numeral.Workspace.Books

/-!
What reports hold, told from the log alone: a draft is what it was begun as with all that was
added to it, and a report lists the drafts that were committed, or dropped while they were not
speculative, in the order in which they ended. The books agree, whatever is done in which order.
-/

set_option autoImplicit false

namespace Numeral

namespace Change

def label? : Change → Option Label
  | .labelled _ label => some label
  | _ => none

def note? : Change → Option String
  | .noted text => some text
  | _ => none

def locates : Change → Bool
  | .placed shown => shown
  | _ => false

end Change

namespace Event

def opening? : Event → Option Draft
  | .begun journal severity title located =>
    some ⟨journal, ⟨severity, title, [], [], located⟩, false⟩
  | _ => none

def change? (number : Nat) : Event → Option Change
  | .changed draft change => if draft = number then some change else none
  | _ => none

def ends (number : Nat) : Event → Bool
  | .ended draft _ => draft == number
  | _ => false

def concerns (number : Nat) : Event → Bool
  | .changed draft _ => draft == number
  | .kept draft => draft == number
  | .ended draft _ => draft == number
  | _ => false

end Event

abbrev Log := List Event

namespace Log

def openings (log : Log) : List Draft :=
  log.filterMap Event.opening?

def changes (log : Log) (number : Nat) : List Change :=
  log.filterMap (Event.change? number)

/-- What was begun, with all that was ever added to it. -/
def draft? (log : Log) (number : Nat) : Option Draft :=
  log.openings[number]?.map fun opening =>
    { journal := opening.journal
      diagnostic :=
        { severity := opening.diagnostic.severity
          title := opening.diagnostic.title
          labels := (log.changes number).filterMap Change.label?
          notes := (log.changes number).filterMap Change.note?
          located := opening.diagnostic.located || (log.changes number).any Change.locates }
      speculative := (log.changes number).contains .speculated }

def hasEnded (log : Log) (number : Nat) : Bool :=
  log.any (Event.ends number)

def listed? (log : Log) (journal : Nat) : Event → Option Diagnostic
  | .ended number committed =>
    (log.draft? number).bind fun draft =>
      if draft.journal = journal ∧ (committed = true ∨ draft.speculative = false) then
        some draft.diagnostic
      else none
  | _ => none

def listed (log : Log) (journal : Nat) : List Diagnostic :=
  log.filterMap (log.listed? journal)

/-- Nothing happens to a draft after its end; so it ends once at most. -/
def Orderly (log : Log) : Prop :=
  log.Pairwise fun earlier later =>
    ∀ number, earlier.ends number = true → later.concerns number = false

end Log

def Ledger.ofListed (diagnostics : List Diagnostic) : Ledger :=
  ⟨diagnostics, diagnostics.countP fun diagnostic => diagnostic.severity = .error⟩

theorem Ledger.insert_ofListed (diagnostics : List Diagnostic) (diagnostic : Diagnostic) :
    (ofListed diagnostics).insert diagnostic = ofListed (diagnostics ++ [diagnostic]) := by
  by_cases isError : diagnostic.severity = .error
  next => simp [insert, count, push, ofListed, isError, List.countP_append]
  next => simp [insert, count, push, ofListed, isError, List.countP_append]

theorem Books.drop_ended (books : Books) (draft : Draft) (committed : Bool) :
    books.drop (if committed then { draft with speculative := false } else draft) =
      { books with
        ledgers :=
          if committed = true ∨ draft.speculative = false then
            books.ledgers.modify draft.journal (·.insert draft.diagnostic)
          else books.ledgers } := by
  cases committed <;> cases speculative : draft.speculative <;>
    simp [drop, insert, speculative]

theorem getElem?_concat {α : Type} (list : List α) (a : α) (n : Nat) :
    (list ++ [a])[n]? = if n = list.length then some a else list[n]? := by
  split
  next last => rw [last, List.getElem?_concat_length]
  next other =>
    rw [List.getElem?_append]
    split
    next => rfl
    next outside =>
      rw [List.getElem?_eq_none (by simp; omega), List.getElem?_eq_none (by omega)]

namespace Log

variable {log : Log} {event : Event}

theorem openings_concat (log : Log) (event : Event) :
    openings (log ++ [event]) = log.openings ++ event.opening?.toList := by
  rw [openings, List.filterMap_append, openings]
  cases event <;> rfl

theorem changes_concat (log : Log) (event : Event) (number : Nat) :
    changes (log ++ [event]) number = log.changes number ++ (event.change? number).toList := by
  rw [changes, List.filterMap_append, changes, List.filterMap_cons]
  cases event.change? number <;> rfl

theorem draft?_change (log : Log) (number : Nat) (change : Change) :
    draft? (log ++ [.changed number change]) number =
      (log.draft? number).map fun draft => draft.apply change := by
  have same : openings (log ++ [.changed number change]) = log.openings := by
    rw [openings_concat]
    exact List.append_nil _
  have more : changes (log ++ [.changed number change]) number = log.changes number ++ [change] := by
    rw [changes_concat]
    simp [Event.change?]
  rw [draft?, draft?, same, more, Option.map_map]
  congr 1
  funext opening
  cases change <;>
    simp [Draft.apply, Change.label?, Change.note?, Change.locates, Diagnostic.reportedAt,
      List.filterMap_append, Bool.or_assoc]

theorem draft?_concat {number : Nat} (quiet : event.change? number = none)
    (known : number < log.openings.length ∨ event.opening? = none) :
    draft? (log ++ [event]) number = log.draft? number := by
  have opening : (openings (log ++ [event]))[number]? = log.openings[number]? := by
    rw [openings_concat]
    rcases known with inside | none
    next => rw [List.getElem?_append_left inside]
    next => simp [none]
  have same : changes (log ++ [event]) number = log.changes number := by
    rw [changes_concat, quiet]
    exact List.append_nil _
  rw [draft?, draft?, opening, same]

theorem listed_concat (journal : Nat)
    (settled : ∀ number, log.hasEnded number = true →
      draft? (log ++ [event]) number = log.draft? number) :
    listed (log ++ [event]) journal =
      log.listed journal ++ (listed? (log ++ [event]) journal event).toList := by
  have last : [event].filterMap (listed? (log ++ [event]) journal) =
      (listed? (log ++ [event]) journal event).toList := by
    rw [List.filterMap_cons]
    cases listed? (log ++ [event]) journal event <;> rfl
  rw [listed, List.filterMap_append, last, listed]
  congr 1
  apply List.filterMap_congr
  intro earlier member
  cases earlier with
  | ended number committed =>
    have finished : log.hasEnded number = true :=
      List.any_eq_true.2 ⟨_, member, by simp [Event.ends]⟩
    rw [listed?, listed?, settled number finished]
  | _ => rfl

theorem hasEnded_concat (log : Log) (event : Event) (number : Nat) :
    hasEnded (log ++ [event]) number = (log.hasEnded number || event.ends number) := by
  simp [hasEnded, List.any_append]

theorem ne_of_hasEnded {number other : Nat} (finished : log.hasEnded number = true)
    (going : log.hasEnded other = false) : number ≠ other := by
  rintro rfl
  exact absurd (finished.symm.trans going) (by decide)

theorem Orderly.concat (orderly : log.Orderly)
    (live : ∀ number, event.concerns number = true → log.hasEnded number = false) :
    Orderly (log ++ [event]) := by
  apply List.pairwise_append.2 ⟨orderly, List.pairwise_singleton _ _, _⟩
  intro earlier member last same number ends
  obtain rfl := List.mem_singleton.1 same
  have finished : log.hasEnded number = true := List.any_eq_true.2 ⟨earlier, member, ends⟩
  cases concerned : last.concerns number with
  | false => rfl
  | true => exact absurd (finished.symm.trans (live number concerned)) (by decide)

structure Describes (log : Log) (books : Books) : Prop where
  ledgers_eq : ∀ journal (ledger : Ledger), books.ledgers[journal]? = some ledger →
    ledger = .ofListed (log.listed journal)
  drafts_eq : ∀ number, books.drafts[number]? =
    (log.draft? number).map fun draft => if log.hasEnded number then none else some draft
  journal_lt : ∀ number draft, log.draft? number = some draft →
    draft.journal < books.ledgers.length
  begun : ∀ event ∈ log, ∀ number, event.concerns number = true → number < log.openings.length
  orderly : log.Orderly

theorem describes_initial : Describes [] .initial where
  ledgers_eq := by simp [Books.initial]
  drafts_eq := by simp [Books.initial, draft?, openings]
  journal_lt := by simp [draft?, openings]
  begun := by simp
  orderly := List.Pairwise.nil

namespace Describes

variable {books next : Books} (describes : log.Describes books)

include describes

theorem live {number : Nat} {draft : Draft} (kept : books.draft? number = some draft) :
    log.draft? number = some draft ∧ log.hasEnded number = false ∧
      number < log.openings.length := by
  have same := Option.join_eq_some_iff.1 kept
  rw [describes.drafts_eq, Option.map_eq_some_iff] at same
  obtain ⟨known, made, same⟩ := same
  cases finished : log.hasEnded number with
  | true => simp [finished] at same
  | false =>
    simp only [finished] at same
    obtain rfl := Option.some.inj same
    have inside : number < log.openings.length := by
      obtain ⟨opening, found, -⟩ := Option.map_eq_some_iff.1 made
      exact (List.getElem?_eq_some_iff.1 found).1
    exact ⟨made, rfl, inside⟩

theorem length_eq : books.drafts.length = log.openings.length := by
  have outside (n : Nat) : books.drafts.length ≤ n ↔ log.openings.length ≤ n := by
    rw [← List.getElem?_eq_none_iff, describes.drafts_eq, Option.map_eq_none_iff, draft?,
      Option.map_eq_none_iff, List.getElem?_eq_none_iff]
  exact Nat.le_antisymm ((outside _).2 (Nat.le_refl _)) ((outside _).1 (Nat.le_refl _))

theorem fresh :
    log.changes log.openings.length = [] ∧ log.hasEnded log.openings.length = false := by
  have unconcerned : ∀ event ∈ log, event.concerns log.openings.length = false := by
    intro event member
    cases concerned : event.concerns log.openings.length with
    | false => rfl
    | true => exact absurd (describes.begun event member _ concerned) (Nat.lt_irrefl _)
  constructor
  next =>
    apply List.filterMap_eq_nil_iff.2
    intro event member
    have other := unconcerned event member
    cases event with
    | changed number change => simpa [Event.concerns, Event.change?] using other
    | _ => rfl
  next =>
    apply List.any_eq_false.2
    intro event member
    have other := unconcerned event member
    cases event with
    | ended number committed => simpa [Event.concerns, Event.ends] using other
    | _ => simp [Event.ends]

theorem listed_eq_nil {journal : Nat} (unknown : books.ledgers.length ≤ journal) :
    log.listed journal = [] := by
  apply List.filterMap_eq_nil_iff.2
  intro event member
  cases event with
  | ended number committed =>
    cases known : log.draft? number with
    | none => simp [listed?, known]
    | some draft =>
      have bound := describes.journal_lt number draft known
      have other : draft.journal ≠ journal := by omega
      simp [listed?, known, other]
  | _ => rfl

theorem begun_concat (grown : (openings (log ++ [event])).length = log.openings.length ∨
      (openings (log ++ [event])).length = log.openings.length + 1)
    (live : ∀ number, event.concerns number = true → number < log.openings.length) :
    ∀ earlier ∈ log ++ [event], ∀ number, earlier.concerns number = true →
      number < (openings (log ++ [event])).length := by
  intro earlier member number concerned
  have bound : number < log.openings.length := by
    rcases List.mem_append.1 member with old | new
    next => exact describes.begun earlier old number concerned
    next =>
      obtain rfl := List.mem_singleton.1 new
      exact live number concerned
  omega

theorem quiet (silent : event.opening? = none)
    (changeless : ∀ number, event.change? number = none)
    (endless : ∀ number, event.ends number = false)
    (live : ∀ number, event.concerns number = true →
      log.hasEnded number = false ∧ number < log.openings.length) :
    Describes (log ++ [event]) books := by
  have draft (number : Nat) : draft? (log ++ [event]) number = log.draft? number :=
    draft?_concat (changeless number) (.inr silent)
  have ended (number : Nat) : hasEnded (log ++ [event]) number = log.hasEnded number := by
    rw [hasEnded_concat, endless, Bool.or_false]
  have openings : openings (log ++ [event]) = log.openings := by
    rw [openings_concat, silent]
    exact List.append_nil _
  refine ⟨?_, ?_, ?_, ?_, describes.orderly.concat fun number concerned => (live number concerned).1⟩
  next =>
    intro journal ledger found
    have last : listed? (log ++ [event]) journal event = none := by
      cases event with
      | ended number committed => simpa [Event.ends] using endless number
      | _ => rfl
    rw [listed_concat journal fun number _ => draft number, last]
    simpa using describes.ledgers_eq journal ledger found
  next =>
    intro number
    rw [draft, ended, describes.drafts_eq]
  next =>
    intro number known
    rw [draft]
    exact describes.journal_lt number known
  next =>
    exact describes.begun_concat (.inl (congrArg List.length openings))
      fun number concerned => (live number concerned).2

theorem opened : Describes (log ++ [.opened])
    { books with ledgers := books.ledgers ++ [.empty] } := by
  have same : Describes (log ++ [.opened]) books :=
    describes.quiet rfl (fun _ => rfl) (fun _ => rfl) (by simp [Event.concerns])
  refine ⟨?_, same.drafts_eq, ?_, same.begun, same.orderly⟩
  next =>
    intro journal ledger found
    by_cases old : journal < books.ledgers.length
    next =>
      rw [List.getElem?_append_left old] at found
      exact same.ledgers_eq journal ledger found
    next =>
      rw [List.getElem?_append_right (Nat.not_lt.1 old), List.getElem?_singleton] at found
      split at found
      next =>
        rw [same.listed_eq_nil (Nat.not_lt.1 old)]
        exact (Option.some.inj found).symm
      next => simp at found
  next =>
    intro number draft known
    rw [List.length_append]
    exact Nat.lt_add_right _ (same.journal_lt number draft known)

theorem draft?_begun (journal : Nat) (severity : Severity) (title : String) (located : Bool)
    (number : Nat) :
    draft? (log ++ [.begun journal severity title located]) number =
      if number = log.openings.length then some ⟨journal, .new severity title located, false⟩
      else log.draft? number := by
  have openings : openings (log ++ [.begun journal severity title located]) =
      log.openings ++ [⟨journal, .new severity title located, false⟩] := by
    rw [openings_concat]
    rfl
  have changes : changes (log ++ [.begun journal severity title located]) number =
      log.changes number := by
    rw [changes_concat]
    exact List.append_nil _
  rw [draft?, openings, changes, getElem?_concat]
  split
  next here =>
    rw [here, describes.fresh.1]
    simp [Diagnostic.new]
  next => rfl

theorem begins {journal : Nat} (owned : journal < books.ledgers.length) (severity : Severity)
    (title : String) (located : Bool) :
    Describes (log ++ [.begun journal severity title located])
      { books with
        drafts := books.drafts ++ [some ⟨journal, .new severity title located, false⟩] } := by
  have draft := describes.draft?_begun journal severity title located
  have ended (number : Nat) : hasEnded (log ++ [.begun journal severity title located]) number =
      log.hasEnded number := by simp [hasEnded_concat, Event.ends]
  refine ⟨?_, ?_, ?_, ?_, describes.orderly.concat (by simp [Event.concerns])⟩
  next =>
    intro other ledger found
    -- the new draft has a number of its own, and what has ended is left as it was
    have settled (number : Nat) (finished : log.hasEnded number = true) :=
      (draft number).trans (if_neg (ne_of_hasEnded finished describes.fresh.2))
    rw [listed_concat other settled]
    simpa [listed?] using describes.ledgers_eq other ledger found
  next =>
    intro number
    rw [draft, ended, getElem?_concat, describes.length_eq]
    split
    next here => simp [here, describes.fresh.2]
    next => rw [describes.drafts_eq]
  next =>
    intro number last known
    rw [draft] at known
    split at known
    next =>
      obtain rfl := Option.some.inj known
      exact owned
    next => exact describes.journal_lt number last known
  next =>
    exact describes.begun_concat (.inr (by rw [openings_concat, List.length_append]; rfl))
      (by simp [Event.concerns])

theorem changes_draft {number : Nat} {draft : Draft} (kept : books.draft? number = some draft)
    (change : Change) :
    Describes (log ++ [.changed number change])
      { books with drafts := books.drafts.set number (some (draft.apply change)) } := by
  obtain ⟨known, going, inside⟩ := describes.live kept
  have here : draft? (log ++ [.changed number change]) number = some (draft.apply change) := by
    rw [draft?_change, known]
    rfl
  have other {n : Nat} (different : n ≠ number) :
      draft? (log ++ [.changed number change]) n = log.draft? n :=
    draft?_concat (by simp [Event.change?, Ne.symm different]) (.inr rfl)
  have ended (n : Nat) : hasEnded (log ++ [.changed number change]) n = log.hasEnded n := by
    simp [hasEnded_concat, Event.ends]
  have concerns {n : Nat} (concerned : (Event.changed number change).concerns n = true) :
      number = n := by simpa [Event.concerns] using concerned
  refine ⟨?_, ?_, ?_, ?_, describes.orderly.concat fun n concerned => concerns concerned ▸ going⟩
  next =>
    intro journal ledger found
    -- only what goes on can be changed, so what is listed stays as it was
    have settled (n : Nat) (finished : log.hasEnded n = true) :
        draft? (log ++ [.changed number change]) n = log.draft? n :=
      other (ne_of_hasEnded finished going)
    rw [listed_concat journal settled]
    simpa [listed?] using describes.ledgers_eq journal ledger found
  next =>
    intro n
    rw [ended]
    by_cases same : number = n
    next =>
      rw [← same, here, going, List.getElem?_set_self (describes.length_eq ▸ inside)]
      rfl
    next => rw [other (Ne.symm same), List.getElem?_set_ne same, describes.drafts_eq]
  next =>
    intro n last found
    by_cases same : number = n
    next =>
      rw [← same, here] at found
      obtain rfl := Option.some.inj found
      have bound := describes.journal_lt number draft known
      cases change <;> exact bound
    next =>
      rw [other (Ne.symm same)] at found
      exact describes.journal_lt n last found
  next =>
    exact describes.begun_concat (.inl (by simp [openings_concat, Event.opening?]))
      fun n concerned => concerns concerned ▸ inside

theorem ends_draft {number : Nat} {draft : Draft} (kept : books.draft? number = some draft)
    (committed : Bool) :
    Describes (log ++ [.ended number committed])
      ({ books with drafts := books.drafts.set number none }.drop
        (if committed then { draft with speculative := false } else draft)) := by
  obtain ⟨known, going, inside⟩ := describes.live kept
  have same (n : Nat) : draft? (log ++ [.ended number committed]) n = log.draft? n :=
    draft?_concat rfl (.inr rfl)
  have concerns {n : Nat} (concerned : (Event.ended number committed).concerns n = true) :
      number = n := by simpa [Event.concerns] using concerned
  have mine (journal : Nat) : listed? (log ++ [.ended number committed]) journal
      (.ended number committed) =
        if draft.journal = journal ∧ (committed = true ∨ draft.speculative = false) then
          some draft.diagnostic
        else none := by
    rw [listed?, same, known]
    rfl
  rw [Books.drop_ended]
  refine ⟨?_, ?_, ?_, ?_, describes.orderly.concat fun n concerned => concerns concerned ▸ going⟩
  next =>
    intro journal ledger found
    rw [listed_concat journal fun n _ => same n, mine]
    by_cases counts : committed = true ∨ draft.speculative = false
    next =>
      simp only [if_pos counts, List.getElem?_modify, Option.map_eq_map,
        Option.map_eq_some_iff] at found
      obtain ⟨before, stored, rfl⟩ := found
      obtain rfl := describes.ledgers_eq journal before stored
      by_cases mine : draft.journal = journal
      next => simp [mine, counts, Ledger.insert_ofListed]
      next => simp [mine]
    next =>
      rw [if_neg counts] at found
      simpa [counts] using describes.ledgers_eq journal ledger found
  next =>
    intro n
    rw [hasEnded_concat, same]
    by_cases here : number = n
    next =>
      rw [← here, known, List.getElem?_set_self (describes.length_eq ▸ inside)]
      simp [Event.ends]
    next => simp [Event.ends, here, List.getElem?_set_ne here, describes.drafts_eq]
  next =>
    intro n last found
    rw [same] at found
    have bound := describes.journal_lt n last found
    split <;> simpa using bound
  next =>
    exact describes.begun_concat (.inl (by simp [openings_concat, Event.opening?]))
      fun n concerned => concerns concerned ▸ inside

theorem hear (heard : books.hear event = some next) : Describes (log ++ [event]) next := by
  cases event with
  | opened =>
    obtain rfl := Option.some.inj heard
    exact describes.opened
  | begun journal severity title located =>
    rw [Books.hear] at heard
    split at heard
    next owned =>
      obtain rfl := Option.some.inj heard
      exact describes.begins owned severity title located
    next => simp at heard
  | changed number change =>
    obtain ⟨draft, kept, made⟩ := Option.bind_eq_some_iff.1 heard
    obtain rfl := Option.some.inj made
    exact describes.changes_draft kept change
  | kept number =>
    obtain ⟨draft, kept, made⟩ := Option.bind_eq_some_iff.1 heard
    obtain rfl := Option.some.inj made
    obtain ⟨-, going, inside⟩ := describes.live kept
    have same : Describes (log ++ [.kept number]) books := by
      apply describes.quiet rfl (fun _ => rfl) (fun _ => rfl)
      intro n concerned
      obtain rfl : number = n := by simpa [Event.concerns] using concerned
      exact ⟨going, inside⟩
    exact ⟨same.ledgers_eq, same.drafts_eq, same.journal_lt, same.begun, same.orderly⟩
  | resumed slot =>
    obtain ⟨held, -, taken⟩ := Option.bind_eq_some_iff.1 heard
    obtain ⟨number, -, made⟩ := Option.bind_eq_some_iff.1 taken
    obtain rfl := Option.some.inj made
    have same : Describes (log ++ [.resumed slot]) books :=
      describes.quiet rfl (fun _ => rfl) (fun _ => rfl) (by simp [Event.concerns])
    exact ⟨same.ledgers_eq, same.drafts_eq, same.journal_lt, same.begun, same.orderly⟩
  | ended number committed =>
    obtain ⟨draft, kept, made⟩ := Option.bind_eq_some_iff.1 heard
    obtain rfl := Option.some.inj made
    exact describes.ends_draft kept committed

end Describes

end Log

theorem Books.hearAll_append (books : Books) (front back : List Event) :
    books.hearAll (front ++ back) = (books.hearAll front).bind fun next => next.hearAll back := by
  induction front generalizing books with
  | nil => rfl
  | cons event rest ih =>
    rw [List.cons_append, hearAll, hearAll]
    cases heard : books.hear event with
    | none => rfl
    | some next => exact ih next

theorem Books.hearAll_singleton (books : Books) (event : Event) :
    books.hearAll [event] = books.hear event := by
  rw [hearAll]
  cases books.hear event <;> rfl

theorem Log.describes_hearAll {log : Log} {books : Books}
    (heard : Books.initial.hearAll log = some books) : log.Describes books := by
  induction log using List.reverseRecOn generalizing books with
  | nil =>
    obtain rfl := Option.some.inj heard
    exact describes_initial
  | append_singleton log event ih =>
    rw [Books.hearAll_append] at heard
    obtain ⟨middle, front, last⟩ := Option.bind_eq_some_iff.1 heard
    rw [Books.hearAll_singleton] at last
    exact (ih front).hear last

end Numeral
