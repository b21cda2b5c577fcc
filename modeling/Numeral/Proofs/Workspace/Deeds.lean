import Numeral.Proofs.Report.Golden
import Numeral.Proofs.Report.Literals
import Numeral.Proofs.Workspace.Stores

set_option autoImplicit false

namespace Numeral

/-- Something done to a report. A draft that is taken up again is told by its place among those
that are kept for the report then. -/
inductive Deed where
  | diagnose (opening : Opening) (amendments : List Amendment) (ending : Ending)
  | extend (place : Nat) (amendments : List Amendment) (ending : Ending)
  | literals (file : Nat)
  | literalAt (file offset : Nat)
  -- a file could not be opened
  | refuse (title : String)
  deriving DecidableEq

namespace Draft

/-- The draft without what depends on the report that it is for. -/
def bare (draft : Draft) : Draft :=
  { draft with journal := 0, diagnostic := draft.diagnostic.unlocated }

/-- What is reported when work on a draft stops, because of a fault or in the intended way. -/
def leaves (draft : Draft) : Option Fault → Ending → List Diagnostic
  | none, .commit => [draft.diagnostic]
  | none, .hold => []
  | none, .drop | some _, _ => if draft.speculative then [] else [draft.diagnostic]

def stays (draft : Draft) : Option Fault → Ending → List Draft
  | none, .hold => [draft]
  | _, _ => []

theorem leaves_bare (draft : Draft) (fault? : Option Fault) (ending : Ending) :
    (draft.leaves fault? ending).map Diagnostic.unlocated = draft.bare.leaves fault? ending := by
  have dropped : (if draft.speculative then [] else [draft.diagnostic]).map Diagnostic.unlocated =
      if draft.bare.speculative then [] else [draft.bare.diagnostic] := by
    rw [bare]
    split <;> rfl
  cases fault? with
  | some fault => exact dropped
  | none =>
    cases ending with
    | drop => exact dropped
    | commit => rfl
    | hold => rfl

theorem stays_bare (draft : Draft) (fault? : Option Fault) (ending : Ending) :
    (draft.stays fault? ending).map bare = draft.bare.stays fault? ending := by
  cases fault? <;> cases ending <;> rfl

theorem foldl_apply_journal (changes : List Change) (draft : Draft) :
    (changes.foldl apply draft).journal = draft.journal := by
  induction changes generalizing draft with
  | nil => rfl
  | cons change rest ih =>
    refine (ih (draft.apply change)).trans ?_
    cases change <;> rfl

end Draft

namespace Workspace

def keptFor (journal : Nat) (slots : List (Option Draft)) : List Draft :=
  slots.filterMap (Option.filter fun draft => draft.journal = journal)

def deed? (workspace : Workspace) (journal : Nat) : Action → Option Deed
  | .literals file report =>
    if workspace.reports[report]? = some journal then some (.literals file) else none
  | .literalAt file report offset =>
    if workspace.reports[report]? = some journal then some (.literalAt file offset) else none
  | .diagnose report opening amendments ending =>
    if workspace.reports[report]? = some journal then some (.diagnose opening amendments ending)
    else none
  | .openFile _ report path disk =>
    match disk.openFile path with
    | .ok _ => none
    | .error title =>
      if workspace.reports[report]? = some journal then some (.refuse title) else none
  | .extend slot amendments ending => do
    let draft ← (← workspace.slots[slot]?)
    let place := (keptFor journal (workspace.slots.take slot)).length
    if draft.journal = journal then some (.extend place amendments ending) else none
  | _ => none

def deeds (workspace : Workspace) (journal : Nat) : List Action → List Deed
  | [] => []
  | action :: rest =>
    match workspace.apply action with
    | none => []
    | some (next, _) => (workspace.deed? journal action).toList ++ next.deeds journal rest

def options? (workspace : Workspace) (journal : Nat) : Option Options :=
  (workspace.journals[journal]?).map fun entry => entry.report.options

def reported (workspace : Workspace) (journal : Nat) : List Diagnostic :=
  ((workspace.journals[journal]?).map fun entry =>
    entry.report.diagnostics.map Diagnostic.unlocated).getD []

def pending (workspace : Workspace) (journal : Nat) : List Draft :=
  (keptFor journal workspace.slots).map Draft.bare

def stopped (workspace : Workspace) (last : Draft) (fault? : Option Fault) (ending : Ending) :
    Workspace :=
  { workspace.insertAll last.journal (last.leaves fault? ending) with
    slots := workspace.slots ++ (last.stays fault? ending).map some }

variable {workspace next : Workspace} {journal other : Nat} {options : Options}
  {outcome : Outcome}

section

variable (workspace journal other) (diagnostics : List Diagnostic)

@[simp] theorem options?_insertAll :
    (workspace.insertAll other diagnostics).options? journal = workspace.options? journal := by
  simp only [options?, insertAll_eq, List.getElem?_modify]
  split <;> cases workspace.journals[journal]? <;> rfl

@[simp] theorem pending_insertAll :
    (workspace.insertAll other diagnostics).pending journal = workspace.pending journal := by
  rw [insertAll_eq]
  rfl

theorem reported_insertAll (opened : workspace.options? journal = some options) :
    (workspace.insertAll journal diagnostics).reported journal =
      workspace.reported journal ++ diagnostics.map Diagnostic.unlocated := by
  obtain ⟨entry, kept, -⟩ := Option.map_eq_some_iff.1 opened
  simp [reported, insertAll_eq, Report.append, kept]

theorem reported_insertAll_ne (different : other ≠ journal) :
    (workspace.insertAll other diagnostics).reported journal = workspace.reported journal := by
  simp [reported, insertAll_eq, different]

end

theorem complete_stops {draft : Draft} {amendments : List Amendment} {ending : Ending}
    (completed : workspace.complete draft amendments ending = some (next, outcome)) :
    ∃ last fault?, workspace.amendAll draft amendments = some (last, fault?) ∧
      next = workspace.stopped last fault? ending := by
  obtain ⟨⟨last, fault?⟩, made, finished⟩ := Option.bind_eq_some_iff.1 completed
  refine ⟨last, fault?, made, ?_⟩
  have dropped : workspace.drop last =
      { workspace.insertAll last.journal (if last.speculative then [] else [last.diagnostic]) with
        slots := workspace.slots ++ [] } := by
    rw [drop, List.append_nil]
    split <;> rfl
  have committed : workspace.drop { last with speculative := false } =
      { workspace.insertAll last.journal [last.diagnostic] with
        slots := workspace.slots ++ [] } := by
    rw [List.append_nil]
    rfl
  cases fault? with
  | some fault =>
    cases finished
    exact dropped
  | none =>
    cases ending with
    | drop =>
      cases finished
      exact dropped
    | commit =>
      cases finished
      exact committed
    | hold =>
      cases finished
      rfl

theorem amendAll_journal {draft last : Draft} {amendments : List Amendment} {fault? : Option Fault}
    (made : workspace.amendAll draft amendments = some (last, fault?)) :
    last.journal = draft.journal := by
  obtain ⟨rfl, -⟩ := amendAll_changes made
  exact Draft.foldl_apply_journal _ draft

theorem amendAll_release (slot : Nat) (draft : Draft) (amendments : List Amendment) :
    (workspace.release slot).amendAll draft amendments = workspace.amendAll draft amendments := by
  induction amendments generalizing draft with
  | nil => rfl
  | cons amendment rest ih =>
    have same : (workspace.release slot).amend draft amendment =
        workspace.amend draft amendment := by
      cases amendment <;> rfl
    rw [amendAll, amendAll, same]
    simp only [ih]

/-- What a deed changes, told without what depends on how the report is looked at. -/
inductive Effect (workspace : Workspace) (journal : Nat) (options : Options) (next : Workspace) :
    Deed → Prop where
  | fails {opening : Opening} {amendments : List Amendment} {ending : Ending} {fault : Fault}
      (begun : workspace.begin? journal opening = some (.error fault))
      (reported : next.reported journal = workspace.reported journal)
      (pending : next.pending journal = workspace.pending journal) :
      Effect workspace journal options next (.diagnose opening amendments ending)
  | diagnose {opening : Opening} {amendments : List Amendment} {ending : Ending}
      {draft last : Draft} {fault? : Option Fault}
      (begun : workspace.begin? journal opening = some (.ok draft))
      (amended : workspace.amendAll draft amendments = some (last, fault?))
      (reported : next.reported journal =
        workspace.reported journal ++ last.bare.leaves fault? ending)
      (pending : next.pending journal =
        workspace.pending journal ++ last.bare.stays fault? ending) :
      Effect workspace journal options next (.diagnose opening amendments ending)
  | extend {place : Nat} {amendments : List Amendment} {ending : Ending}
      {front back : List Draft} {draft last : Draft} {fault? : Option Fault}
      (held : workspace.pending journal = front ++ draft.bare :: back)
      (before : front.length = place)
      (amended : workspace.amendAll draft amendments = some (last, fault?))
      (reported : next.reported journal =
        workspace.reported journal ++ last.bare.leaves fault? ending)
      (pending : next.pending journal = front ++ back ++ last.bare.stays fault? ending) :
      Effect workspace journal options next (.extend place amendments ending)
  | literals {file : Nat} {ref : FileRef} {source : SourceFile}
      (named : workspace.files[file]? = some ref) (stored : workspace.deref? ref = some source)
      (reported : next.reported journal = workspace.reported journal ++
        source.leftBy options.explains false ref.index (Candidate.all source.text))
      (pending : next.pending journal = workspace.pending journal) :
      Effect workspace journal options next (.literals file)
  | literalAt {file offset : Nat} {ref : FileRef} {source : SourceFile}
      (named : workspace.files[file]? = some ref) (stored : workspace.deref? ref = some source)
      (reported : next.reported journal = workspace.reported journal ++
        source.leftBy options.explains false ref.index
          ((Candidate.scan source.text offset).toList.map (offset, ·)))
      (pending : next.pending journal = workspace.pending journal) :
      Effect workspace journal options next (.literalAt file offset)
  | refuse {title : String}
      (reported : next.reported journal =
        workspace.reported journal ++ [.new .error title false])
      (pending : next.pending journal = workspace.pending journal) :
      Effect workspace journal options next (.refuse title)

inductive Affects (workspace : Workspace) (journal : Nat) (next : Workspace) :
    Option Deed → Prop where
  | spared
      (kept : ∀ options, workspace.options? journal = some options →
        next.options? journal = some options)
      (reported : next.reported journal = workspace.reported journal)
      (pending : next.pending journal = workspace.pending journal) :
      Affects workspace journal next none
  | does {options : Options} {deed : Deed} (opened : workspace.options? journal = some options)
      (kept : next.options? journal = some options)
      (effect : workspace.Effect journal options next deed) :
      Affects workspace journal next (some deed)

theorem Affects.options?_eq {deed? : Option Deed}
    (affects : workspace.Affects journal next deed?)
    (opened : workspace.options? journal = some options) :
    next.options? journal = some options := by
  cases affects with
  | spared kept => exact kept options opened
  | does before kept => exact kept.trans (before.symm.trans opened)

def Housed (workspace : Workspace) : Prop :=
  ∀ draft, some draft ∈ workspace.slots → draft.journal < workspace.journals.length

theorem Housed.opened (housed : workspace.Housed) {draft : Draft}
    (held : some draft ∈ workspace.slots) :
    ∃ options, workspace.options? draft.journal = some options := by
  rw [options?, List.getElem?_eq_getElem (housed draft held)]
  exact ⟨_, rfl⟩

section

variable (workspace journal)

@[simp] theorem options?_stopped (last : Draft) (fault? : Option Fault) (ending : Ending) :
    (workspace.stopped last fault? ending).options? journal = workspace.options? journal :=
  options?_insertAll workspace journal last.journal _

theorem pending_stopped (last : Draft) (fault? : Option Fault) (ending : Ending) :
    (workspace.stopped last fault? ending).pending journal = workspace.pending journal ++
      if last.journal = journal then last.bare.stays fault? ending else [] := by
  rw [pending, stopped, keptFor, List.filterMap_append, List.map_append, ← Draft.stays_bare]
  congr 1
  cases fault? <;> cases ending <;> by_cases mine : last.journal = journal <;>
    simp [Draft.stays, Option.filter, mine]

theorem reported_stopped {last : Draft} (mine : last.journal = journal)
    (opened : workspace.options? journal = some options) (fault? : Option Fault)
    (ending : Ending) :
    (workspace.stopped last fault? ending).reported journal =
      workspace.reported journal ++ last.bare.leaves fault? ending := by
  subst mine
  rw [← Draft.leaves_bare]
  exact reported_insertAll workspace last.journal _ opened

theorem reported_stopped_ne {last : Draft} (different : last.journal ≠ journal)
    (fault? : Option Fault) (ending : Ending) :
    (workspace.stopped last fault? ending).reported journal = workspace.reported journal :=
  reported_insertAll_ne workspace journal last.journal _ different

end

theorem release_slots {slot : Nat} {draft : Draft}
    (held : workspace.slots[slot]? = some (some draft)) :
    ∃ back, workspace.slots = workspace.slots.take slot ++ some draft :: back ∧
      (workspace.release slot).slots = workspace.slots.take slot ++ none :: back := by
  obtain ⟨inside, here⟩ := List.getElem?_eq_some_iff.1 held
  refine ⟨workspace.slots.drop (slot + 1), ?_, ?_⟩
  next => rw [← here, ← List.drop_eq_getElem_cons inside, List.take_append_drop]
  next => rw [release, List.set_eq_take_append_cons_drop, if_pos inside]

theorem Affects.of_eq (journals : next.journals = workspace.journals)
    (slots : next.slots = workspace.slots) : workspace.Affects journal next none :=
  .spared (fun _ opened => by rwa [options?, journals]) (by rw [reported, journals, reported])
    (by rw [pending, slots, pending])

-- the report that is opened may be the one in question, which lists nothing before or after that
theorem affects_newReport (store : Nat) (options : Options) :
    workspace.Affects journal (workspace.newReport store options) none := by
  refine .spared (fun _ opened => ?_) ?_ rfl
  next =>
    obtain ⟨entry, found, same⟩ := Option.map_eq_some_iff.1 opened
    rw [options?, newReport, List.getElem?_append_left (List.getElem?_eq_some_iff.1 found).1, found,
      Option.map_some, same]
  unfold reported newReport
  rcases Nat.lt_trichotomy journal workspace.journals.length with old | rfl | beyond
  next => rw [List.getElem?_append_left old]
  next => simp
  next =>
    rw [List.getElem?_eq_none (Nat.le_of_lt beyond), List.getElem?_eq_none]
    simpa using Nat.succ_le_of_lt beyond

theorem extend_affects {slot : Nat} {amendments : List Amendment} {ending : Ending}
    (housed : workspace.Housed)
    (applied : workspace.apply (.extend slot amendments ending) = some (next, outcome)) :
    workspace.Affects journal next (workspace.deed? journal (.extend slot amendments ending)) := by
  obtain ⟨draft?, held, applied⟩ := Option.bind_eq_some_iff.1 applied
  obtain ⟨draft, rfl, completed⟩ := Option.bind_eq_some_iff.1 applied
  obtain ⟨last, fault?, amended, rfl⟩ := complete_stops completed
  rw [amendAll_release] at amended
  have stays := amendAll_journal amended
  obtain ⟨back, slots, released⟩ := release_slots held
  have deed : workspace.deed? journal (.extend slot amendments ending) =
      if draft.journal = journal then
        some (.extend (keptFor journal (workspace.slots.take slot)).length amendments ending)
      else none := by
    rw [deed?, held]
    rfl
  -- the slots in front tell the place, whoever else has drafts in them
  have kept : workspace.pending journal =
      (keptFor journal (workspace.slots.take slot)).map Draft.bare ++
        (keptFor journal (some draft :: back)).map Draft.bare := by
    rw [pending, ← List.map_append, keptFor, keptFor, keptFor, ← List.filterMap_append, ← slots]
  have left : (workspace.release slot).pending journal =
      (keptFor journal (workspace.slots.take slot)).map Draft.bare ++
        (keptFor journal back).map Draft.bare := by
    rw [pending, released, keptFor, List.filterMap_append, List.map_append]
    rfl
  rw [deed]
  split
  next mine =>
    obtain ⟨options, opened⟩ := housed.opened (List.mem_of_getElem? held)
    rw [mine] at opened
    have first : (keptFor journal (some draft :: back)).map Draft.bare =
        draft.bare :: (keptFor journal back).map Draft.bare := by
      simp [keptFor, Option.filter, mine]
    rw [first] at kept
    have owned := stays.trans mine
    refine .does opened ?_ (.extend kept (List.length_map _) amended ?_ ?_)
    next => exact (options?_stopped _ journal last fault? ending).trans opened
    next => exact reported_stopped (workspace.release slot) journal owned opened fault? ending
    next => rw [pending_stopped, left, if_pos owned]
  next different =>
    refine .spared (fun _ opened => ?_) ?_ ?_
    next => rwa [options?_stopped]
    next => exact reported_stopped_ne _ journal (stays ▸ different) fault? ending
    next =>
      rw [pending_stopped, left, kept, stays, if_neg different]
      simp [keptFor, Option.filter, different]

theorem begin?_journal {opening : Opening} {draft : Draft}
    (begun : workspace.begin? journal opening = some (.ok draft)) : draft.journal = journal := by
  obtain ⟨entry, -, begun⟩ := Option.bind_eq_some_iff.1 begun
  cases opening with
  | error title | warning title =>
    cases begun
    rfl
  | invalidLiteral spot =>
    obtain ⟨place, -, begun⟩ := Option.bind_eq_some_iff.1 begun
    cases place with
    | error fault => cases begun
    | ok place =>
      cases begun
      rfl

theorem diagnose_affects {report : Nat} {opening : Opening} {amendments : List Amendment}
    {ending : Ending}
    (applied : workspace.apply (.diagnose report opening amendments ending) =
      some (next, outcome)) :
    workspace.Affects journal next
      (workspace.deed? journal (.diagnose report opening amendments ending)) := by
  obtain ⟨owner, handle, applied⟩ := Option.bind_eq_some_iff.1 applied
  obtain ⟨begun, started, applied⟩ := Option.bind_eq_some_iff.1 applied
  obtain ⟨entry, kept, -⟩ := Option.bind_eq_some_iff.1 started
  have opened : workspace.options? owner = some entry.report.options := by rw [options?, kept]; rfl
  rw [deed?, handle]
  simp only [Option.some.injEq]
  cases begun with
  | error fault =>
    cases applied
    split
    next mine => exact .does (mine ▸ opened) (mine ▸ opened) (.fails (mine ▸ started) rfl rfl)
    next => exact .of_eq rfl rfl
  | ok draft =>
    obtain ⟨last, fault?, amended, rfl⟩ := complete_stops applied
    have stays := (amendAll_journal amended).trans (begin?_journal started)
    split
    next mine =>
      subst mine
      refine .does opened ?_ (.diagnose started amended ?_ ?_)
      next => rw [options?_stopped, opened]
      next => exact reported_stopped workspace owner stays opened fault? ending
      next => rw [pending_stopped, if_pos stays]
    next different =>
      refine .spared (fun _ opened => ?_) ?_ ?_
      next => rwa [options?_stopped]
      next => exact reported_stopped_ne _ journal (stays ▸ different) fault? ending
      next => rw [pending_stopped, stays, if_neg different, List.append_nil]

theorem insertAll_affects {report owner : Nat} {deed : Deed} (found : List Diagnostic)
    (handle : workspace.reports[report]? = some owner)
    (opened : workspace.options? owner = some options)
    (effect : ∀ next : Workspace,
      next.reported owner = workspace.reported owner ++ found.map Diagnostic.unlocated →
      next.pending owner = workspace.pending owner → workspace.Effect owner options next deed) :
    workspace.Affects journal (workspace.insertAll owner found)
      (if workspace.reports[report]? = some journal then some deed else none) := by
  rw [handle]
  simp only [Option.some.injEq]
  split
  next mine =>
    subst mine
    refine .does opened ?_ (effect _ (reported_insertAll workspace owner found opened)
      (pending_insertAll workspace owner owner found))
    rw [options?_insertAll, opened]
  next different =>
    refine .spared (fun _ opened => ?_)
      (reported_insertAll_ne workspace journal owner found different)
      (pending_insertAll workspace journal owner found)
    rwa [options?_insertAll]

theorem apply_affects {action : Action} (housed : workspace.Housed)
    (applied : workspace.apply action = some (next, outcome)) :
    workspace.Affects journal next (workspace.deed? journal action) := by
  have opened {owner : Nat} {entry : Journal} (kept : workspace.journals[owner]? = some entry) :
      workspace.options? owner = some entry.report.options := by rw [options?, kept]; rfl
  cases action with
  | newContext =>
    cases applied
    exact .of_eq rfl rfl
  | cloneContext context =>
    obtain ⟨store, -, applied⟩ := Option.bind_eq_some_iff.1 applied
    cases applied
    exact .of_eq rfl rfl
  | newReport context options =>
    obtain ⟨store, -, applied⟩ := Option.bind_eq_some_iff.1 applied
    cases applied
    exact affects_newReport store options
  | cloneReport report =>
    obtain ⟨owner, -, applied⟩ := Option.bind_eq_some_iff.1 applied
    cases applied
    exact .of_eq rfl rfl
  | addFile context path text =>
    obtain ⟨store, -, applied⟩ := Option.bind_eq_some_iff.1 applied
    cases applied
    exact .of_eq rfl rfl
  | getFile context index =>
    obtain ⟨store, -, applied⟩ := Option.bind_eq_some_iff.1 applied
    simp only at applied
    split at applied <;> cases applied <;> exact .of_eq rfl rfl
  | openFile context report path disk =>
    obtain ⟨store, -, applied⟩ := Option.bind_eq_some_iff.1 applied
    obtain ⟨owner, handle, applied⟩ := Option.bind_eq_some_iff.1 applied
    rw [deed?]
    cases found : disk.openFile path with
    | ok file =>
      rw [found] at applied
      cases applied
      exact .of_eq rfl rfl
    | error title =>
      rw [found] at applied
      obtain ⟨entry, kept, applied⟩ := Option.bind_eq_some_iff.1 applied
      cases applied
      let diagnostics : List Diagnostic :=
        [.new .error title entry.report.options.showsLocations]
      exact insertAll_affects diagnostics handle (opened kept) fun _ => .refuse
  | literals file report =>
    obtain ⟨ref, source, owner, entry, concerns, rfl⟩ := literals_leaves applied
    refine insertAll_affects _ concerns.handle (opened concerns.kept) fun next listed same => ?_
    rw [leftBy_unlocated] at listed
    exact .literals concerns.named concerns.stored listed same
  | literalAt file report offset =>
    obtain ⟨ref, source, owner, entry, concerns, rfl⟩ := literalAt_leaves applied
    refine insertAll_affects _ concerns.handle (opened concerns.kept) fun next listed same => ?_
    rw [leftBy_unlocated] at listed
    exact .literalAt concerns.named concerns.stored listed same
  | diagnose report opening amendments ending => exact diagnose_affects applied
  | extend slot amendments ending => exact extend_affects housed applied

def Reached (workspace : Workspace) : Prop :=
  ∃ actions outcomes, initial.run actions = some (workspace, outcomes)

theorem Reached.housed (reached : workspace.Reached) : workspace.Housed := by
  obtain ⟨actions, outcomes, ran⟩ := reached
  obtain ⟨log, books, -, heard, agrees⟩ := run_heard agrees_initial ran
  intro draft held
  rw [agrees.slots_eq] at held
  obtain ⟨number?, -, found⟩ := List.mem_map.1 held
  obtain ⟨number, rfl, kept⟩ := Option.bind_eq_some_iff.1 found
  have describes := Log.describes_hearAll heard
  rw [agrees.length_eq]
  exact describes.journal_lt number draft (describes.live kept).1

theorem Reached.apply {action : Action} (reached : workspace.Reached)
    (applied : workspace.apply action = some (next, outcome)) : next.Reached := by
  obtain ⟨actions, outcomes, ran⟩ := reached
  have one : workspace.run [action] = some (next, [outcome]) := by simp [run, applied]
  exact ⟨_, _, run_append ran one⟩

structure Begins (workspace last : Workspace) (journal : Nat) (deed : Deed) (rest : List Deed)
    (options : Options) (middle next : Workspace) (back : List Action) : Prop where
  reported : middle.reported journal = workspace.reported journal
  pending : middle.pending journal = workspace.pending journal
  effect : middle.Effect journal options next deed
  longer : middle.Extends last
  opened : last.options? journal = some options
  reached : next.Reached
  followed : ∃ outcomes, next.run back = some (last, outcomes)
  later : next.deeds journal back = rest

theorem run_options {last : Workspace} {actions : List Action} {outcomes : List Outcome}
    (reached : workspace.Reached) (ran : workspace.run actions = some (last, outcomes))
    (opened : workspace.options? journal = some options) :
    last.options? journal = some options := by
  have kept : last.Reached ∧ last.options? journal = some options := by
    apply run_preserves _ ran ⟨reached, opened⟩
    rintro before after action outcome applied ⟨reached, opened⟩
    exact ⟨reached.apply applied, (apply_affects reached.housed applied).options?_eq opened⟩
  exact kept.2

theorem deeds_cons {action : Action} (applied : workspace.apply action = some (next, outcome))
    (rest : List Action) :
    workspace.deeds journal (action :: rest) =
      (workspace.deed? journal action).toList ++ next.deeds journal rest := by
  rw [deeds, applied]

theorem run_spares {last : Workspace} {actions : List Action} {outcomes : List Outcome}
    (reached : workspace.Reached) (ran : workspace.run actions = some (last, outcomes))
    (none : workspace.deeds journal actions = []) :
    last.reported journal = workspace.reported journal ∧
      last.pending journal = workspace.pending journal := by
  induction actions generalizing workspace outcomes with
  | nil =>
    cases ran
    exact ⟨rfl, rfl⟩
  | cons action rest ih =>
    obtain ⟨middle, outcome, others, applied, followed, -⟩ := run_cons ran
    have affects : workspace.Affects journal middle (workspace.deed? journal action) :=
      apply_affects reached.housed applied
    rw [deeds_cons applied, List.append_eq_nil_iff, Option.toList_eq_nil_iff] at none
    rw [none.1] at affects
    obtain ⟨reported, pending⟩ := ih (reached.apply applied) followed none.2
    cases affects with
    | spared _ sameReported samePending =>
      exact ⟨reported.trans sameReported, pending.trans samePending⟩

theorem run_begins {last : Workspace} {actions : List Action} {outcomes : List Outcome}
    {deed : Deed} {later : List Deed} (reached : workspace.Reached)
    (ran : workspace.run actions = some (last, outcomes))
    (first : workspace.deeds journal actions = deed :: later) :
    ∃ options middle next back,
      Begins workspace last journal deed later options middle next back := by
  induction actions generalizing workspace outcomes with
  | nil => cases first
  | cons action rest ih =>
    obtain ⟨middle, outcome, others, applied, followed, -⟩ := run_cons ran
    have affects : workspace.Affects journal middle (workspace.deed? journal action) :=
      apply_affects reached.housed applied
    rw [deeds_cons applied] at first
    cases done : workspace.deed? journal action with
    | none =>
      rw [done] at first affects
      obtain ⟨options, before, after, back, begins⟩ := ih (reached.apply applied) followed first
      cases affects with
      | spared _ reported pending =>
        exact ⟨options, before, after, back, { begins with
          reported := begins.reported.trans reported
          pending := begins.pending.trans pending }⟩
    | some found =>
      -- this is the first deed, and the rest of the run does the others
      rw [done] at first affects
      obtain ⟨rfl, rest_eq⟩ := List.cons.inj first
      cases affects with
      | does opened kept effect =>
        exact ⟨_, workspace, middle, rest, rfl, rfl, effect, run_extends ran,
          run_options reached ran opened, reached.apply applied, ⟨_, followed⟩, rest_eq⟩

end Workspace

end Numeral
