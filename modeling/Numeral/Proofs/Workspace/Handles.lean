import Numeral.Proofs.Workspace.Runs

set_option autoImplicit false

namespace Numeral

inductive Birth where
  | fresh
  | clone (original : Nat)
  deriving DecidableEq

def Action.contextBirth? : Action → Option Birth
  | .newContext => some .fresh
  | .cloneContext context => some (.clone context)
  | _ => none

def Action.reportBirth? : Action → Option Birth
  | .newReport _ _ => some .fresh
  | .cloneReport report => some (.clone report)
  | _ => none

/-- The family of each handle, if there were `count` families and these handles before. -/
def familiesFrom (birth? : Action → Option Birth) (count : Nat) (families : List Nat) :
    List Action → List Nat
  | [] => families
  | action :: rest =>
    match birth? action with
    | none => familiesFrom birth? count families rest
    | some .fresh => familiesFrom birth? (count + 1) (families ++ [count]) rest
    | some (.clone original) =>
      familiesFrom birth? count (families ++ families[original]?.toList) rest

-- every run has a context at its beginning
def contextFamilies (actions : List Action) : List Nat :=
  familiesFrom Action.contextBirth? 1 [0] actions

def reportFamilies (actions : List Action) : List Nat :=
  familiesFrom Action.reportBirth? 0 [] actions

def Birth.Makes (birth? : Option Birth) (count next_count : Nat) (families next : List Nat) :
    Prop :=
  match birth? with
  | none => next = families ∧ next_count = count
  | some .fresh => next = families ++ [count] ∧ next_count = count + 1
  | some (.clone original) =>
    ∃ family, families[original]? = some family ∧ next = families ++ [family] ∧
      next_count = count

theorem familiesFrom_step {birth? : Action → Option Birth} {action : Action}
    {count next_count : Nat} {families next : List Nat}
    (made : Birth.Makes (birth? action) count next_count families next) (rest : List Action) :
    familiesFrom birth? next_count next rest =
      familiesFrom birth? count families (action :: rest) := by
  rw [familiesFrom]
  cases born : birth? action with
  | none =>
    rw [born] at made
    obtain ⟨rfl, rfl⟩ := made
    rfl
  | some birth =>
    rw [born] at made
    cases birth with
    | fresh =>
      obtain ⟨rfl, rfl⟩ := made
      rfl
    | clone original =>
      obtain ⟨family, found, rfl, rfl⟩ := made
      simp [found]

theorem Birth.Makes.bounded {birth? : Option Birth} {count next_count : Nat}
    {families next : List Nat} (made : Makes birth? count next_count families next)
    (bounded : ∀ family ∈ families, family < count) : ∀ family ∈ next, family < next_count := by
  intro family member
  cases birth? with
  | none =>
    obtain ⟨rfl, rfl⟩ := made
    exact bounded family member
  | some birth =>
    cases birth with
    | fresh =>
      obtain ⟨rfl, rfl⟩ := made
      rcases List.mem_append.1 member with old | new
      next => exact Nat.lt_succ_of_lt (bounded family old)
      next =>
        obtain rfl := List.mem_singleton.1 new
        exact Nat.lt_succ_self _
    | clone original =>
      obtain ⟨same, found, rfl, rfl⟩ := made
      rcases List.mem_append.1 member with old | new
      next => exact bounded family old
      next =>
        obtain rfl := List.mem_singleton.1 new
        exact bounded family (List.mem_of_getElem? found)

namespace Workspace

variable {workspace next : Workspace} {action : Action} {outcome : Outcome}

structure SameHandles (before after : Workspace) : Prop where
  stores_eq : after.stores = before.stores
  contexts_eq : after.contexts = before.contexts
  reports_eq : after.reports = before.reports
  files_eq : after.files = before.files
  journals_eq : after.journals.map Journal.store = before.journals.map Journal.store

namespace SameHandles

theorem refl (workspace : Workspace) : workspace.SameHandles workspace :=
  ⟨rfl, rfl, rfl, rfl, rfl⟩

theorem trans {first second third : Workspace} (one : first.SameHandles second)
    (two : second.SameHandles third) : first.SameHandles third :=
  ⟨two.stores_eq.trans one.stores_eq, two.contexts_eq.trans one.contexts_eq,
    two.reports_eq.trans one.reports_eq, two.files_eq.trans one.files_eq,
    two.journals_eq.trans one.journals_eq⟩

theorem journals_length {before after : Workspace} (same : before.SameHandles after) :
    after.journals.length = before.journals.length := by
  simpa using congrArg List.length same.journals_eq

end SameHandles

theorem sameHandles_insert (workspace : Workspace) (journal : Nat) (diagnostic : Diagnostic) :
    workspace.SameHandles (workspace.insert journal diagnostic) := by
  refine ⟨rfl, rfl, rfl, rfl, ?_⟩
  apply List.ext_getElem?
  intro other
  simp only [insert, List.getElem?_map, List.getElem?_modify]
  cases workspace.journals[other]? with
  | none => rfl
  | some entry =>
    simp only [Option.map_some, Option.map_eq_map, Option.some.injEq]
    split <;> rfl

theorem sameHandles_insertAll (workspace : Workspace) (journal : Nat)
    (diagnostics : List Diagnostic) :
    workspace.SameHandles (workspace.insertAll journal diagnostics) := by
  induction diagnostics generalizing workspace with
  | nil => exact .refl workspace
  | cons diagnostic rest ih =>
    exact (sameHandles_insert workspace journal diagnostic).trans (ih _)

theorem sameHandles_drop (workspace : Workspace) (draft : Draft) :
    workspace.SameHandles (workspace.drop draft) := by
  unfold drop
  split
  next => exact .refl workspace
  next => exact sameHandles_insert workspace draft.journal draft.diagnostic

theorem sameHandles_complete {draft : Draft} {amendments : List Amendment} {ending : Ending}
    (completed : workspace.complete draft amendments ending = some (next, outcome)) :
    workspace.SameHandles next := by
  obtain ⟨⟨last, fault?⟩, -, finished⟩ := Option.bind_eq_some_iff.1 completed
  cases fault? with
  | some fault =>
    cases finished
    exact sameHandles_drop workspace last
  | none =>
    cases ending with
    | drop =>
      cases finished
      exact sameHandles_drop workspace last
    | commit =>
      cases finished
      exact sameHandles_drop workspace _
    | hold =>
      cases finished
      exact ⟨rfl, rfl, rfl, rfl, rfl⟩

inductive Grows (workspace : Workspace) : Action → Workspace → Prop where
  | newContext : Grows workspace .newContext workspace.newContext
  | cloneContext {context store : Nat} (found : workspace.contexts[context]? = some store) :
      Grows workspace (.cloneContext context) (workspace.addContext store)
  | newReport {context store : Nat} {options : Options}
      (found : workspace.contexts[context]? = some store) :
      Grows workspace (.newReport context options) (workspace.newReport store options)
  | cloneReport {report journal : Nat} (found : workspace.reports[report]? = some journal) :
      Grows workspace (.cloneReport report) (workspace.addReport journal)
  | addFile {context store : Nat} {path : String} {text : Text}
      (found : workspace.contexts[context]? = some store) :
      Grows workspace (.addFile context path text) (workspace.addFile store ⟨path, text⟩)
  | openFile {context store report : Nat} {path : String} {disk : Disk} {file : SourceFile}
      (found : workspace.contexts[context]? = some store)
      (opened : disk.openFile path = .ok file) :
      Grows workspace (.openFile context report path disk) (workspace.addFile store file)
  | getFile {context store index : Nat} {file : SourceFile}
      (found : workspace.contexts[context]? = some store)
      (stored : (workspace.storeFiles store)[index]? = some file) :
      Grows workspace (.getFile context index) (workspace.addHandle ⟨store, index⟩)
  | quiet {action : Action} {next : Workspace} (same : workspace.SameHandles next)
      (contexts : action.contextBirth? = none) (reports : action.reportBirth? = none) :
      Grows workspace action next

theorem apply_grows (applied : workspace.apply action = some (next, outcome)) :
    workspace.Grows action next := by
  cases action with
  | newContext =>
    cases applied
    exact .newContext
  | cloneContext context =>
    obtain ⟨store, found, applied⟩ := Option.bind_eq_some_iff.1 applied
    cases applied
    exact .cloneContext found
  | newReport context options =>
    obtain ⟨store, found, applied⟩ := Option.bind_eq_some_iff.1 applied
    cases applied
    exact .newReport found
  | cloneReport report =>
    obtain ⟨journal, found, applied⟩ := Option.bind_eq_some_iff.1 applied
    cases applied
    exact .cloneReport found
  | addFile context path text =>
    obtain ⟨store, found, applied⟩ := Option.bind_eq_some_iff.1 applied
    cases applied
    exact .addFile found
  | getFile context index =>
    obtain ⟨store, found, applied⟩ := Option.bind_eq_some_iff.1 applied
    simp only at applied
    split at applied
    next =>
      cases applied
      exact .quiet (.refl workspace) rfl rfl
    next file stored =>
      cases applied
      exact .getFile found stored
  | openFile context report path disk =>
    obtain ⟨store, found, applied⟩ := Option.bind_eq_some_iff.1 applied
    obtain ⟨journal, -, applied⟩ := Option.bind_eq_some_iff.1 applied
    split at applied
    next file opened =>
      cases applied
      exact .openFile found opened
    next title =>
      obtain ⟨entry, -, applied⟩ := Option.bind_eq_some_iff.1 applied
      cases applied
      exact .quiet (sameHandles_insert workspace journal _) rfl rfl
  | literals file report =>
    obtain ⟨ref, source, journal, entry, -, rfl⟩ := literals_leaves applied
    exact .quiet (sameHandles_insertAll workspace journal _) rfl rfl
  | literalAt file report offset =>
    obtain ⟨ref, source, journal, entry, -, rfl⟩ := literalAt_leaves applied
    exact .quiet (sameHandles_insertAll workspace journal _) rfl rfl
  | diagnose report opening amendments ending =>
    obtain ⟨journal, -, applied⟩ := Option.bind_eq_some_iff.1 applied
    obtain ⟨begun, -, applied⟩ := Option.bind_eq_some_iff.1 applied
    cases begun with
    | error fault =>
      cases applied
      exact .quiet (.refl workspace) rfl rfl
    | ok draft => exact .quiet (sameHandles_complete applied) rfl rfl
  | extend slot amendments ending =>
    obtain ⟨draft?, -, applied⟩ := Option.bind_eq_some_iff.1 applied
    obtain ⟨draft, -, applied⟩ := Option.bind_eq_some_iff.1 applied
    have same := sameHandles_complete applied
    exact .quiet ⟨same.1, same.2, same.3, same.4, same.5⟩ rfl rfl

theorem Grows.contexts (grows : workspace.Grows action next) :
    Birth.Makes action.contextBirth? workspace.stores.length next.stores.length
      workspace.contexts next.contexts := by
  cases grows with
  | newContext => exact ⟨rfl, List.length_append⟩
  | cloneContext found => exact ⟨_, found, rfl, rfl⟩
  | addFile | openFile => exact ⟨rfl, List.length_modify ..⟩
  | newReport | cloneReport | getFile => exact ⟨rfl, rfl⟩
  | quiet same contexts reports =>
    rw [contexts]
    exact ⟨same.contexts_eq, congrArg List.length same.stores_eq⟩

theorem Grows.reports (grows : workspace.Grows action next) :
    Birth.Makes action.reportBirth? workspace.journals.length next.journals.length
      workspace.reports next.reports := by
  cases grows with
  | newReport => exact ⟨rfl, List.length_append⟩
  | cloneReport found => exact ⟨_, found, rfl, rfl⟩
  | newContext | cloneContext | addFile | openFile | getFile => exact ⟨rfl, rfl⟩
  | quiet same contexts reports =>
    rw [reports]
    exact ⟨same.reports_eq, same.journals_length⟩

theorem run_families {actions : List Action} {outcomes : List Outcome}
    (ran : workspace.run actions = some (next, outcomes)) :
    next.contexts =
        familiesFrom Action.contextBirth? workspace.stores.length workspace.contexts actions ∧
      next.reports =
        familiesFrom Action.reportBirth? workspace.journals.length workspace.reports actions := by
  induction actions generalizing workspace outcomes with
  | nil =>
    cases ran
    exact ⟨rfl, rfl⟩
  | cons action rest ih =>
    obtain ⟨middle, outcome, others, applied, later, rfl⟩ := run_cons ran
    have grows := apply_grows applied
    obtain ⟨contexts, reports⟩ := ih later
    rw [contexts, reports]
    exact ⟨familiesFrom_step grows.contexts rest, familiesFrom_step grows.reports rest⟩

structure Bounded (workspace : Workspace) : Prop where
  contexts_lt : ∀ store ∈ workspace.contexts, store < workspace.stores.length
  reports_lt : ∀ journal ∈ workspace.reports, journal < workspace.journals.length

theorem bounded_initial : initial.Bounded where
  contexts_lt := by simp [initial]
  reports_lt := by simp [initial]

theorem Grows.bounded (grows : workspace.Grows action next) (bounded : workspace.Bounded) :
    next.Bounded :=
  ⟨grows.contexts.bounded bounded.contexts_lt, grows.reports.bounded bounded.reports_lt⟩

theorem run_bounded {actions : List Action} {outcomes : List Outcome}
    (ran : workspace.run actions = some (next, outcomes)) (bounded : workspace.Bounded) :
    next.Bounded :=
  run_preserves (fun applied => (apply_grows applied).bounded) ran bounded

theorem run_initial_families {actions : List Action} {outcomes : List Outcome}
    (ran : initial.run actions = some (next, outcomes)) :
    next.contexts = contextFamilies actions ∧ next.reports = reportFamilies actions :=
  run_families ran

end Workspace

end Numeral
