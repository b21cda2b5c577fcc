import Numeral.Proofs.Results
import Numeral.Proofs.Workspace.Heard

set_option autoImplicit false

namespace Numeral

theorem Draft.apply_labels (ref : FileRef) (labels : List Label) (draft : Draft) :
    (labels.map (Change.labelled ref)).foldl Draft.apply draft =
      { draft with
        diagnostic := { draft.diagnostic with labels := draft.diagnostic.labels ++ labels } } := by
  induction labels generalizing draft with
  | nil => simp
  | cons label rest ih =>
    rw [List.map_cons, List.foldl_cons, ih]
    simp [apply]

theorem Draft.apply_notes (notes : List String) (draft : Draft) :
    (notes.map Change.noted).foldl Draft.apply draft =
      { draft with
        diagnostic := { draft.diagnostic with notes := draft.diagnostic.notes ++ notes } } := by
  induction notes generalizing draft with
  | nil => simp
  | cons note rest ih =>
    rw [List.map_cons, List.foldl_cons, ih]
    simp [apply]

@[simp] theorem Books.drafts_drop (draft : Draft) (books : Books) :
    (books.drop draft).drafts = books.drafts := by
  unfold drop
  split <;> rfl

theorem Books.length_hear {books next : Books} {event : Event}
    (heard : books.hear event = some next) :
    next.drafts.length = books.drafts.length + event.opening?.toList.length := by
  cases event with
  | opened =>
    obtain rfl := Option.some.inj heard
    rfl
  | begun journal severity title located =>
    rw [hear] at heard
    split at heard
    next =>
      obtain rfl := Option.some.inj heard
      simp [Event.opening?]
    next => simp at heard
  | changed number change =>
    obtain ⟨draft, -, made⟩ := Option.bind_eq_some_iff.1 heard
    obtain rfl := Option.some.inj made
    simp [Event.opening?]
  | kept number =>
    obtain ⟨draft, -, made⟩ := Option.bind_eq_some_iff.1 heard
    obtain rfl := Option.some.inj made
    rfl
  | resumed slot =>
    obtain ⟨held, -, taken⟩ := Option.bind_eq_some_iff.1 heard
    obtain ⟨number, -, made⟩ := Option.bind_eq_some_iff.1 taken
    obtain rfl := Option.some.inj made
    rfl
  | ended number committed =>
    obtain ⟨draft, -, made⟩ := Option.bind_eq_some_iff.1 heard
    obtain rfl := Option.some.inj made
    simp [Event.opening?]

theorem Books.length_hearAll {books later : Books} {log : Log}
    (heard : books.hearAll log = some later) :
    later.drafts.length = books.drafts.length + log.openings.length := by
  induction log generalizing books with
  | nil =>
    obtain rfl := Option.some.inj heard
    rfl
  | cons event rest ih =>
    obtain ⟨next, first, others⟩ := Option.bind_eq_some_iff.1 heard
    rw [ih others, length_hear first, Log.openings, Log.openings, List.filterMap_cons]
    cases event.opening? with
    | none => rfl
    | some opening => exact Nat.add_right_comm _ 1 _

namespace SourceFile

variable {explains located : Bool} {index : Nat} {file : SourceFile}

theorem leftBetween_of_ok {start stop : Nat} {found : Literal × Option Diagnostic}
    (made : file.literalBetween explains located index start stop = .ok found) :
    file.leftBetween explains located index start stop = found.2.toList := by
  unfold literalBetween at made
  unfold leftBetween
  cases examined : examine file.text start stop with
  | error fault => simp [examined, bind, Except.bind] at made
  | ok result =>
    simp only [examined, bind, Except.bind] at made ⊢
    split at made
    next invalid =>
      rw [if_pos invalid]
      split at made
      next => simp at made
      next diagnostic explained =>
        rw [explained]
        cases made
        rfl
    next valid =>
      rw [if_neg valid]
      cases made
      rfl

theorem leftBy_of_ok {places : List (Nat × Nat)} {found : List (Literal × Option Diagnostic)}
    (made : (places.mapM fun ends =>
      file.literalBetween explains located index ends.1 ends.2) = .ok found) :
    file.leftBy explains located index places = found.filterMap Prod.snd := by
  have related := (mapM_ok_iff _ _ _).1 made
  clear made
  induction related with
  | nil => rfl
  | @cons ends one rest more first _ ih =>
    rw [leftBy, leftBetween_of_ok first, first, ih, List.filterMap_cons]
    cases one.2 <;> rfl

end SourceFile

namespace Workspace

variable {workspace next : Workspace} {books : Books} {outcome : Outcome}

theorem run_cons {action : Action} {rest : List Action} {outcomes : List Outcome}
    (ran : workspace.run (action :: rest) = some (next, outcomes)) :
    ∃ middle outcome others, workspace.apply action = some (middle, outcome) ∧
      middle.run rest = some (next, others) ∧ outcomes = outcome :: others := by
  obtain ⟨⟨middle, outcome⟩, applied, followed⟩ := Option.bind_eq_some_iff.1 ran
  obtain ⟨⟨last, others⟩, later, same⟩ := Option.bind_eq_some_iff.1 followed
  cases same
  exact ⟨middle, outcome, others, applied, later, rfl⟩

theorem run_preserves {good : Workspace → Prop}
    (step : ∀ {before after : Workspace} {action : Action} {outcome : Outcome},
      before.apply action = some (after, outcome) → good before → good after)
    {actions : List Action} {outcomes : List Outcome}
    (ran : workspace.run actions = some (next, outcomes)) (begins : good workspace) :
    good next := by
  induction actions generalizing workspace outcomes with
  | nil =>
    cases ran
    exact begins
  | cons action rest ih =>
    obtain ⟨middle, outcome, others, applied, later, -⟩ := run_cons ran
    exact ih later (step applied begins)

structure Concerns (workspace : Workspace) (file report : Nat) (ref : FileRef)
    (source : SourceFile) (journal : Nat) (entry : Journal) : Prop where
  named : workspace.files[file]? = some ref
  stored : workspace.deref? ref = some source
  handle : workspace.reports[report]? = some journal
  kept : workspace.journals[journal]? = some entry

theorem literals_leaves {file report : Nat}
    (applied : workspace.apply (.literals file report) = some (next, outcome)) :
    ∃ ref source journal entry, workspace.Concerns file report ref source journal entry ∧
      next = workspace.insertAll journal (source.leftBy entry.report.options.explains
        entry.report.options.showsLocations ref.index (Candidate.all source.text)) := by
  obtain ⟨ref, named, applied⟩ := Option.bind_eq_some_iff.1 applied
  obtain ⟨source, stored, applied⟩ := Option.bind_eq_some_iff.1 applied
  obtain ⟨journal, handle, applied⟩ := Option.bind_eq_some_iff.1 applied
  obtain ⟨entry, kept, applied⟩ := Option.bind_eq_some_iff.1 applied
  refine ⟨ref, source, journal, entry, ⟨named, stored, handle, kept⟩, ?_⟩
  simp only at applied
  split at applied
  next found made =>
    cases applied
    rw [SourceFile.leftBy_of_ok made]
  next =>
    cases applied
    rfl

theorem literalAt_leaves {file report offset : Nat}
    (applied : workspace.apply (.literalAt file report offset) = some (next, outcome)) :
    ∃ ref source journal entry, workspace.Concerns file report ref source journal entry ∧
      next = workspace.insertAll journal (source.leftBy entry.report.options.explains
        entry.report.options.showsLocations ref.index
        ((Candidate.scan source.text offset).toList.map (offset, ·))) := by
  obtain ⟨ref, named, applied⟩ := Option.bind_eq_some_iff.1 applied
  obtain ⟨source, stored, applied⟩ := Option.bind_eq_some_iff.1 applied
  obtain ⟨journal, handle, applied⟩ := Option.bind_eq_some_iff.1 applied
  obtain ⟨entry, kept, applied⟩ := Option.bind_eq_some_iff.1 applied
  refine ⟨ref, source, journal, entry, ⟨named, stored, handle, kept⟩, ?_⟩
  simp only [SourceFile.literalAt] at applied
  cases scanned : Candidate.scan source.text offset with
  | none =>
    simp only [scanned] at applied
    cases applied
    rfl
  | some stop =>
    cases made : source.literalBetween entry.report.options.explains
        entry.report.options.showsLocations ref.index offset stop with
    | error fault =>
      simp only [scanned, made, Except.map] at applied
      cases applied
      rfl
    | ok found =>
      simp only [scanned, made, Except.map] at applied
      cases applied
      simp [SourceFile.leftBy, SourceFile.leftBetween_of_ok made, made]

namespace Agrees

variable (agrees : workspace.Agrees books) {journal : Nat}
  (owned : journal < workspace.journals.length) (ref : FileRef)

include agrees owned

theorem events_heard (diagnostic : Diagnostic) :
    ∃ later, books.hearAll (diagnostic.events journal ref books.drafts.length) = some later ∧
      (workspace.insert journal diagnostic).Agrees later := by
  obtain ⟨first, begun, drafting⟩ :=
    agrees.begin_heard owned diagnostic.severity diagnostic.title diagnostic.located
  obtain ⟨middle, changed, going⟩ := drafting.changes_heard
    (diagnostic.labels.map (Change.labelled ref) ++ diagnostic.notes.map Change.noted)
  rw [List.foldl_append, Draft.apply_labels, Draft.apply_notes] at going
  obtain ⟨later, ended, done⟩ := going.end_heard false
  refine ⟨later, ?_, done⟩
  rw [Diagnostic.events, List.cons_append, Books.hearAll, begun, Option.bind_eq_bind,
    Option.bind_some, Books.hearAll_append, changed, Option.bind_some, Books.hearAll_singleton,
    ended]

theorem allEvents_heard (diagnostics : List Diagnostic) :
    ∃ later,
      books.hearAll (Diagnostic.allEvents journal ref books.drafts.length diagnostics) =
        some later ∧
      (workspace.insertAll journal diagnostics).Agrees later := by
  induction diagnostics generalizing workspace books with
  | nil => exact ⟨books, rfl, agrees⟩
  | cons diagnostic rest ih =>
    obtain ⟨middle, heard, next⟩ := agrees.events_heard owned ref diagnostic
    have still : journal < (workspace.insert journal diagnostic).journals.length := by
      simpa [Workspace.insert] using owned
    -- the numbers go on where those of the first diagnostic end
    have length : middle.drafts.length = books.drafts.length + 1 := by
      rw [Books.length_hearAll heard]
      simp [Diagnostic.events, Log.openings, Event.opening?, Function.comp_def]
    obtain ⟨later, others, done⟩ := ih next still
    rw [length] at others
    refine ⟨later, ?_, done⟩
    rw [Diagnostic.allEvents, Books.hearAll_append, heard, Option.bind_some, others]

end Agrees

theorem begin?_calls {journal : Nat} {opening : Opening} {draft : Draft}
    (begun : workspace.begin? journal opening = some (.ok draft)) :
    ∃ entry, workspace.journals[journal]? = some entry ∧
      workspace.amendAll ⟨journal, .new opening.calls.1 opening.calls.2.1
        entry.report.options.showsLocations, false⟩ opening.calls.2.2 = some (draft, none) := by
  obtain ⟨entry, kept, made⟩ := Option.bind_eq_some_iff.1 begun
  refine ⟨entry, kept, ?_⟩
  cases opening with
  | error title =>
    cases made
    rfl
  | warning title =>
    cases made
    rfl
  | invalidLiteral spot =>
    obtain ⟨located, found, made⟩ := Option.bind_eq_some_iff.1 made
    cases located with
    | error fault => simp [Except.map] at made
    | ok place =>
      cases made
      simp [Opening.calls, amendAll, amend, found, Except.map, Diagnostic.invalidLiteral]

theorem amendAll_append {draft middle : Draft} {front : List Amendment}
    (first : workspace.amendAll draft front = some (middle, none)) (back : List Amendment) :
    workspace.amendAll draft (front ++ back) = workspace.amendAll middle back := by
  induction front generalizing draft with
  | nil =>
    cases first
    rfl
  | cons amendment rest ih =>
    obtain ⟨amended, made, later⟩ := Option.bind_eq_some_iff.1 first
    cases amended with
    | error fault => cases later
    | ok next =>
      rw [List.cons_append, amendAll, made]
      exact ih later

theorem Agrees.of_eq (agrees : workspace.Agrees books) (journals : next.journals = workspace.journals)
    (slots : next.slots = workspace.slots) : next.Agrees books :=
  ⟨journals ▸ agrees.journals_eq, slots ▸ agrees.slots_eq, agrees.live, agrees.once⟩

theorem Agrees.newReport_heard (agrees : workspace.Agrees books) (store : Nat)
    (options : Options) :
    (workspace.newReport store options).Agrees
      { books with ledgers := books.ledgers ++ [.empty] } where
  journals_eq := by
    rw [newReport, List.map_append, List.map_append, agrees.journals_eq]
    rfl
  slots_eq := agrees.slots_eq
  live := agrees.live
  once := agrees.once

theorem journal_lt {journal : Nat} {entry : Journal}
    (kept : workspace.journals[journal]? = some entry) : journal < workspace.journals.length :=
  (List.getElem?_eq_some_iff.1 kept).1

theorem diagnose_heard {report : Nat} {opening : Opening} {amendments : List Amendment}
    {ending : Ending} (agrees : workspace.Agrees books)
    (applied : workspace.apply (.diagnose report opening amendments ending) =
      some (next, outcome)) :
    ∃ events later,
      workspace.events? books (.diagnose report opening amendments ending) = some events ∧
        books.hearAll events = some later ∧ next.Agrees later := by
  obtain ⟨journal, handle, applied⟩ := Option.bind_eq_some_iff.1 applied
  obtain ⟨begun, begins, applied⟩ := Option.bind_eq_some_iff.1 applied
  obtain ⟨entry, kept, -⟩ := Option.bind_eq_some_iff.1 begins
  cases begun with
  | error fault =>
    cases applied
    exact ⟨[], books, by simp [events?, handle, kept, begins], rfl, agrees⟩
  | ok draft =>
    obtain ⟨same, here, first⟩ := begin?_calls begins
    obtain rfl := Option.some.inj (kept.symm.trans here)
    -- what the opening adds by itself is put in front of the amendments
    have completed : workspace.complete ⟨journal, .new opening.calls.1 opening.calls.2.1
        entry.report.options.showsLocations, false⟩ (opening.calls.2.2 ++ amendments) ending =
          some (next, outcome) := by
      rw [complete, amendAll_append first]
      exact applied
    obtain ⟨middle, heard, drafting⟩ := agrees.begin_heard (journal_lt kept) opening.calls.1
      opening.calls.2.1 entry.report.options.showsLocations
    obtain ⟨later, all, done⟩ := complete_heard drafting completed
    refine ⟨_, later, by simp [events?, handle, kept, begins]; rfl, ?_, done⟩
    rw [Books.hearAll, heard]
    exact all

theorem extend_heard {slot : Nat} {amendments : List Amendment} {ending : Ending}
    (agrees : workspace.Agrees books)
    (applied : workspace.apply (.extend slot amendments ending) = some (next, outcome)) :
    ∃ events later, workspace.events? books (.extend slot amendments ending) = some events ∧
      books.hearAll events = some later ∧ next.Agrees later := by
  obtain ⟨draft?, held, applied⟩ := Option.bind_eq_some_iff.1 applied
  obtain ⟨draft, rfl, applied⟩ := Option.bind_eq_some_iff.1 applied
  obtain ⟨number, middle, kept, heard, drafting⟩ := agrees.resume_heard held
  obtain ⟨later, all, done⟩ := complete_heard drafting applied
  refine ⟨_, later, by simp [events?, held, kept]; rfl, ?_, done⟩
  rw [Books.hearAll, heard]
  exact all

theorem apply_heard {action : Action} (agrees : workspace.Agrees books)
    (applied : workspace.apply action = some (next, outcome)) :
    ∃ events later, workspace.events? books action = some events ∧
      books.hearAll events = some later ∧ next.Agrees later := by
  cases action with
  | newContext =>
    cases applied
    exact ⟨[], books, rfl, rfl, agrees.of_eq rfl rfl⟩
  | cloneContext context =>
    obtain ⟨store, -, applied⟩ := Option.bind_eq_some_iff.1 applied
    cases applied
    exact ⟨[], books, rfl, rfl, agrees.of_eq rfl rfl⟩
  | newReport context options =>
    obtain ⟨store, -, applied⟩ := Option.bind_eq_some_iff.1 applied
    cases applied
    exact ⟨[.opened], _, rfl, rfl, agrees.newReport_heard store options⟩
  | cloneReport report =>
    obtain ⟨journal, -, applied⟩ := Option.bind_eq_some_iff.1 applied
    cases applied
    exact ⟨[], books, rfl, rfl, agrees.of_eq rfl rfl⟩
  | addFile context path text =>
    obtain ⟨store, -, applied⟩ := Option.bind_eq_some_iff.1 applied
    cases applied
    exact ⟨[], books, rfl, rfl, agrees.of_eq rfl rfl⟩
  | getFile context index =>
    obtain ⟨store, -, applied⟩ := Option.bind_eq_some_iff.1 applied
    refine ⟨[], books, rfl, rfl, ?_⟩
    simp only at applied
    split at applied
    next =>
      cases applied
      exact agrees
    next =>
      cases applied
      exact agrees.of_eq rfl rfl
  | openFile context report path disk =>
    obtain ⟨store, -, applied⟩ := Option.bind_eq_some_iff.1 applied
    obtain ⟨journal, handle, applied⟩ := Option.bind_eq_some_iff.1 applied
    split at applied
    next file opened =>
      cases applied
      exact ⟨[], books, by simp [events?, opened], rfl, agrees.of_eq rfl rfl⟩
    next title failed =>
      obtain ⟨entry, kept, applied⟩ := Option.bind_eq_some_iff.1 applied
      cases applied
      obtain ⟨later, heard, done⟩ := agrees.events_heard (journal_lt kept) ⟨0, 0⟩
        (.new .error title entry.report.options.showsLocations)
      refine ⟨_, later, ?_, heard, done⟩
      simp [events?, failed, handle, kept, Diagnostic.events, Diagnostic.new]
  | literals file report =>
    obtain ⟨ref, source, journal, entry, ⟨named, stored, handle, kept⟩, rfl⟩ :=
      literals_leaves applied
    obtain ⟨later, heard, done⟩ := agrees.allEvents_heard (journal_lt kept) ref _
    exact ⟨_, later, by simp [events?, named, stored, handle, kept], heard, done⟩
  | literalAt file report offset =>
    obtain ⟨ref, source, journal, entry, ⟨named, stored, handle, kept⟩, rfl⟩ :=
      literalAt_leaves applied
    obtain ⟨later, heard, done⟩ := agrees.allEvents_heard (journal_lt kept) ref _
    exact ⟨_, later, by simp [events?, named, stored, handle, kept], heard, done⟩
  | diagnose report opening amendments ending => exact diagnose_heard agrees applied
  | extend slot amendments ending => exact extend_heard agrees applied

theorem run_heard {actions : List Action} {outcomes : List Outcome}
    (agrees : workspace.Agrees books) (ran : workspace.run actions = some (next, outcomes)) :
    ∃ log later, workspace.log? books actions = some log ∧ books.hearAll log = some later ∧
      next.Agrees later := by
  induction actions generalizing workspace books outcomes with
  | nil =>
    cases ran
    exact ⟨[], books, rfl, rfl, agrees⟩
  | cons action rest ih =>
    obtain ⟨middle, outcome, others, applied, followed, -⟩ := run_cons ran
    obtain ⟨events, heard, known, first, going⟩ := apply_heard agrees applied
    obtain ⟨log, later, told, all, done⟩ := ih going followed
    refine ⟨events ++ log, later, ?_, ?_, done⟩
    next => simp [log?, applied, known, first, told]
    next => rw [Books.hearAll_append, first, Option.bind_some, all]

end Workspace

end Numeral
