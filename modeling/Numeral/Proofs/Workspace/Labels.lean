import Numeral.Proofs.Report.Literals
import Numeral.Proofs.Report.Passages
import Numeral.Proofs.Workspace.Accounts
import Numeral.Proofs.Workspace.Stores

/-!
Labels keep only the number of their file, and the file is looked up when a report is displayed.
It is the one that the label was made from, as long as that is a file of the report's context.
-/

set_option autoImplicit false

namespace Numeral

/-- A label is numbered as the file that it is made from, and that is a file. -/
def Change.Sound (workspace : Workspace) : Change → Prop
  | .labelled ref label =>
    label.file = ref.index ∧ ∃ file, workspace.deref? ref = some file
  | _ => True

def Event.Sound (workspace : Workspace) : Event → Prop
  | .changed _ change => change.Sound workspace
  | _ => True

theorem Event.Sound.extends {before after : Workspace} {event : Event}
    (sound : event.Sound before) (longer : before.Extends after) : event.Sound after := by
  cases event with
  | changed number change =>
    cases change with
    | labelled ref label =>
      obtain ⟨same, file, stored⟩ := sound
      exact ⟨same, file, longer.deref? stored⟩
    | _ => exact trivial
  | _ => exact trivial

namespace SourceFile

variable {explains located : Bool} {index : Nat} {file : SourceFile}

theorem diagnose_files {range : Range} {miss? : Option Miss} {diagnostic : Diagnostic}
    (made : diagnose explains located index file range miss? = .ok diagnostic) :
    ∀ label ∈ diagnostic.labels, label.file = index := by
  have plain : ∀ label ∈ (Diagnostic.invalidLiteral index range located).labels,
      label.file = index := by
    simp [Diagnostic.invalidLiteral, Diagnostic.saying, Diagnostic.label, Diagnostic.new]
  unfold diagnose at made
  split at made
  next =>
    cases made
    exact plain
  next =>
    split at made
    next miss excerpt around =>
      cases placed : file.span (Range.between (miss.explain excerpt range.start).range.start
          (miss.explain excerpt range.start).range.stop) with
      | error fault => simp [placed, bind, Except.bind] at made
      | ok place =>
        simp only [placed, bind, Except.bind, pure, Except.pure] at made
        cases made
        rw [(Diagnostic.foldl_note _ _).1]
        exact List.forall_mem_append.2 ⟨plain, by simp⟩
    next =>
      cases made
      exact plain

theorem leftBetween_files (start stop : Nat) :
    ∀ diagnostic ∈ file.leftBetween explains located index start stop,
      ∀ label ∈ diagnostic.labels, label.file = index := by
  intro diagnostic member
  unfold leftBetween at member
  split at member
  next => simp at member
  next =>
    split at member
    next =>
      split at member
      next made =>
        obtain rfl := List.mem_singleton.1 member
        exact diagnose_files made
      next =>
        obtain rfl := List.mem_singleton.1 member
        simp [Diagnostic.invalidLiteral, Diagnostic.saying, Diagnostic.label, Diagnostic.new]
    next => simp at member

theorem leftBy_files (places : List (Nat × Nat)) :
    ∀ diagnostic ∈ file.leftBy explains located index places,
      ∀ label ∈ diagnostic.labels, label.file = index := by
  induction places with
  | nil => simp [leftBy]
  | cons ends rest ih =>
    intro diagnostic member
    rw [leftBy] at member
    rcases List.mem_append.1 member with first | later
    next => exact leftBetween_files _ _ diagnostic first
    next =>
      split at later
      next => exact ih diagnostic later
      next => simp at later

end SourceFile

namespace Workspace

variable {workspace next : Workspace} {books : Books} {action : Action} {outcome : Outcome}

theorem labelled?_sound {spot : Spot} {severity : Severity} {message : String} {change : Change}
    (made : workspace.labelled? spot severity message = some change) :
    change.Sound workspace := by
  obtain ⟨ref, named, made⟩ := Option.bind_eq_some_iff.1 made
  obtain ⟨file, stored, made⟩ := Option.bind_eq_some_iff.1 made
  split at made
  next =>
    cases made
    exact ⟨rfl, file, stored⟩
  next => simp at made

theorem change?_sound {draft : Draft} {amendment : Amendment} {change : Change}
    (made : workspace.change? draft amendment = some change) : change.Sound workspace := by
  cases amendment with
  | saying spot message => exact labelled?_sound made
  | remark spot message => exact labelled?_sound made
  | note message =>
    cases made
    exact trivial
  | speculate =>
    cases made
    exact trivial
  | reportedAt =>
    obtain ⟨journal, -, rfl⟩ := Option.map_eq_some_iff.1 made
    exact trivial

theorem changes_sound (draft : Draft) (amendments : List Amendment) :
    ∀ change ∈ workspace.changes draft amendments, change.Sound workspace := by
  induction amendments with
  | nil => simp [changes]
  | cons amendment rest ih =>
    rw [changes]
    split
    next change made => exact List.forall_mem_cons.2 ⟨change?_sound made, ih⟩
    next => simp

theorem callsOn_sound (number : Nat) (draft : Draft) (amendments : List Amendment)
    (ending : Ending) :
    ∀ event ∈ workspace.callsOn number draft amendments ending, event.Sound workspace := by
  intro event member
  rcases List.mem_append.1 member with early | last
  next =>
    obtain ⟨change, made, rfl⟩ := List.mem_map.1 early
    exact changes_sound draft amendments change made
  next =>
    obtain rfl := List.mem_singleton.1 last
    split
    next => cases ending <;> exact trivial
    next => exact trivial

theorem events_sound {journal : Nat} {ref : FileRef} {source : SourceFile}
    (stored : workspace.deref? ref = some source) (number : Nat) {diagnostics : List Diagnostic}
    (files : ∀ diagnostic ∈ diagnostics, ∀ label ∈ diagnostic.labels, label.file = ref.index) :
    ∀ event ∈ Diagnostic.allEvents journal ref number diagnostics, event.Sound workspace := by
  induction diagnostics generalizing number with
  | nil => simp [Diagnostic.allEvents]
  | cons diagnostic rest ih =>
    obtain ⟨first, later⟩ := List.forall_mem_cons.1 files
    intro event member
    rcases List.mem_append.1 member with early | late
    next =>
      rcases List.mem_append.1 early with front | last
      next =>
        rcases List.mem_cons.1 front with rfl | changed
        next => exact trivial
        next =>
          obtain ⟨change, made, rfl⟩ := List.mem_map.1 changed
          rcases List.mem_append.1 made with labelled | noted
          next =>
            obtain ⟨label, there, rfl⟩ := List.mem_map.1 labelled
            exact ⟨first label there, source, stored⟩
          next =>
            obtain ⟨text, -, rfl⟩ := List.mem_map.1 noted
            exact trivial
      next =>
        obtain rfl := List.mem_singleton.1 last
        exact trivial
    next => exact ih (number + 1) later event late

theorem events?_sound {events : List Event}
    (told : workspace.events? books action = some events) :
    ∀ event ∈ events, event.Sound workspace := by
  cases action with
  | newReport context options =>
    cases told
    simp [Event.Sound]
  | openFile context report path disk =>
    rw [events?] at told
    split at told
    next =>
      cases told
      simp
    next =>
      obtain ⟨journal, -, told⟩ := Option.bind_eq_some_iff.1 told
      obtain ⟨entry, -, told⟩ := Option.bind_eq_some_iff.1 told
      cases told
      simp [Event.Sound]
  | literals file report =>
    obtain ⟨ref, -, told⟩ := Option.bind_eq_some_iff.1 told
    obtain ⟨source, stored, told⟩ := Option.bind_eq_some_iff.1 told
    obtain ⟨journal, -, told⟩ := Option.bind_eq_some_iff.1 told
    obtain ⟨entry, -, told⟩ := Option.bind_eq_some_iff.1 told
    cases told
    exact events_sound stored _ (SourceFile.leftBy_files _)
  | literalAt file report offset =>
    obtain ⟨ref, -, told⟩ := Option.bind_eq_some_iff.1 told
    obtain ⟨source, stored, told⟩ := Option.bind_eq_some_iff.1 told
    obtain ⟨journal, -, told⟩ := Option.bind_eq_some_iff.1 told
    obtain ⟨entry, -, told⟩ := Option.bind_eq_some_iff.1 told
    cases told
    exact events_sound stored _ (SourceFile.leftBy_files _)
  | diagnose report opening amendments ending =>
    obtain ⟨journal, -, told⟩ := Option.bind_eq_some_iff.1 told
    obtain ⟨entry, -, told⟩ := Option.bind_eq_some_iff.1 told
    obtain ⟨begun, -, told⟩ := Option.bind_eq_some_iff.1 told
    cases begun with
    | error fault =>
      cases told
      simp
    | ok draft =>
      cases told
      exact List.forall_mem_cons.2 ⟨trivial, callsOn_sound _ _ _ _⟩
  | extend slot amendments ending =>
    obtain ⟨draft?, -, told⟩ := Option.bind_eq_some_iff.1 told
    obtain ⟨draft, -, told⟩ := Option.bind_eq_some_iff.1 told
    obtain ⟨number?, -, told⟩ := Option.bind_eq_some_iff.1 told
    obtain ⟨number, -, told⟩ := Option.bind_eq_some_iff.1 told
    cases told
    have same : (workspace.release slot).Extends workspace :=
      ⟨fun _ => List.prefix_rfl, List.prefix_rfl, List.prefix_rfl, List.prefix_rfl,
        List.prefix_rfl⟩
    refine List.forall_mem_cons.2 ⟨trivial, ?_⟩
    intro event member
    exact (callsOn_sound number draft amendments ending event member).extends same
  | _ =>
    cases told
    simp

theorem log?_sound {actions : List Action} {outcomes : List Outcome} {log : List Event}
    (ran : workspace.run actions = some (next, outcomes))
    (told : workspace.log? books actions = some log) : ∀ event ∈ log, event.Sound next := by
  induction actions generalizing workspace books outcomes log with
  | nil =>
    cases told
    simp
  | cons action rest ih =>
    obtain ⟨middle, outcome, others, applied, later, rfl⟩ := run_cons ran
    rw [log?, applied, Option.bind_eq_bind, Option.bind_some] at told
    obtain ⟨events, first, told⟩ := Option.bind_eq_some_iff.1 told
    obtain ⟨heard, -, told⟩ := Option.bind_eq_some_iff.1 told
    obtain ⟨more, second, told⟩ := Option.bind_eq_some_iff.1 told
    cases told
    intro event member
    rcases List.mem_append.1 member with early | late
    next =>
      exact (events?_sound first event early).extends
        ((apply_grows applied).extends.trans (run_extends later))
    next => exact ih later second event late

end Workspace

/-- A draft that ended as the diagnostic, and that the report counts, got the label, which was made
from the file. -/
def Log.Makes (log : Log) (journal : Nat) (diagnostic : Diagnostic) (ref : FileRef)
    (label : Label) : Prop :=
  ∃ number committed, Event.ended number committed ∈ log ∧
    log.listed? journal (.ended number committed) = some diagnostic ∧
    Event.changed number (.labelled ref label) ∈ log

theorem Log.label_of_listed {log : Log} {journal : Nat} {diagnostic : Diagnostic}
    (member : diagnostic ∈ log.listed journal) {label : Label}
    (inside : label ∈ diagnostic.labels) : ∃ ref, log.Makes journal diagnostic ref label := by
  obtain ⟨event, there, listed⟩ := List.mem_filterMap.1 member
  cases event with
  | ended number committed =>
    obtain ⟨draft, known, counted⟩ := Option.bind_eq_some_iff.1 listed
    split at counted
    next mine =>
      cases counted
      obtain ⟨opening, begun, rfl⟩ := Option.map_eq_some_iff.1 known
      obtain ⟨change, changed, labelled⟩ := List.mem_filterMap.1 inside
      obtain ⟨event, made, same⟩ := List.mem_filterMap.1 changed
      cases event with
      | changed other told =>
        obtain ⟨rfl, rfl⟩ : other = number ∧ told = change := by simpa [Event.change?] using same
        cases told with
        | labelled ref one =>
          obtain rfl : one = label := by simpa [Change.label?] using labelled
          exact ⟨ref, other, committed, there, listed, made⟩
        | _ => simp [Change.label?] at labelled
      | _ => simp [Event.change?] at same
    next => simp at counted
  | _ => simp [listed?] at listed

end Numeral
