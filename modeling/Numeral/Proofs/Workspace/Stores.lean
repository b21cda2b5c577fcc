import Mathlib.Data.List.Infix
import Numeral.Proofs.Workspace.Handles

set_option autoImplicit false

namespace Numeral

namespace Workspace

variable {workspace next : Workspace} {action : Action} {outcome : Outcome}

structure Extends (before after : Workspace) : Prop where
  stores : ∀ store, before.storeFiles store <+: after.storeFiles store
  contexts : before.contexts <+: after.contexts
  reports : before.reports <+: after.reports
  files : before.files <+: after.files
  journals : before.journals.map Journal.store <+: after.journals.map Journal.store

namespace Extends

theorem refl (workspace : Workspace) : workspace.Extends workspace :=
  ⟨fun _ => List.prefix_rfl, List.prefix_rfl, List.prefix_rfl, List.prefix_rfl, List.prefix_rfl⟩

theorem trans {first second third : Workspace} (one : first.Extends second)
    (two : second.Extends third) : first.Extends third :=
  ⟨fun store => (one.stores store).trans (two.stores store), one.contexts.trans two.contexts,
    one.reports.trans two.reports, one.files.trans two.files, one.journals.trans two.journals⟩

end Extends

theorem getElem?_ahead {α : Type} {front whole : List α} {n : Nat} {a : α}
    (ahead : front <+: whole) (found : front[n]? = some a) : whole[n]? = some a := by
  obtain ⟨back, rfl⟩ := ahead
  rw [List.getElem?_append_left (List.getElem?_eq_some_iff.1 found).1, found]

theorem storeFiles_addFile (workspace : Workspace) {store : Nat} (file : SourceFile)
    (inside : store < workspace.stores.length) :
    (workspace.addFile store file).storeFiles store = workspace.storeFiles store ++ [file] := by
  simp [storeFiles, addFile, addHandle, List.getElem?_eq_getElem inside]

theorem storeFiles_addFile_ne (workspace : Workspace) {store other : Nat} (file : SourceFile)
    (different : store ≠ other) :
    (workspace.addFile store file).storeFiles other = workspace.storeFiles other := by
  simp [storeFiles, addFile, addHandle, different]

theorem extends_addFile (workspace : Workspace) (store : Nat) (file : SourceFile) :
    workspace.Extends (workspace.addFile store file) := by
  refine ⟨fun other => ?_, List.prefix_rfl, List.prefix_rfl, List.prefix_append ..,
    List.prefix_rfl⟩
  by_cases same : store = other
  next =>
    subst same
    by_cases inside : store < workspace.stores.length
    next =>
      rw [storeFiles_addFile workspace file inside]
      exact List.prefix_append ..
    next =>
      -- a store that is not there has no files
      rw [storeFiles, List.getElem?_eq_none (Nat.not_lt.1 inside)]
      exact List.nil_prefix
  next =>
    rw [storeFiles_addFile_ne workspace file same]

theorem Grows.extends (grows : workspace.Grows action next) : workspace.Extends next := by
  cases grows with
  | newContext =>
    refine ⟨fun store => ?_, List.prefix_append .., List.prefix_rfl, List.prefix_rfl,
      List.prefix_rfl⟩
    unfold storeFiles
    cases old : workspace.stores[store]? with
    | none => exact List.nil_prefix
    | some files =>
      have still : workspace.newContext.stores[store]? = some files :=
        getElem?_ahead (List.prefix_append ..) old
      rw [still]
  | cloneContext found =>
    exact ⟨fun _ => List.prefix_rfl, List.prefix_append .., List.prefix_rfl, List.prefix_rfl,
      List.prefix_rfl⟩
  | newReport found =>
    refine ⟨fun _ => List.prefix_rfl, List.prefix_rfl, List.prefix_append .., List.prefix_rfl, ?_⟩
    rw [Workspace.newReport, List.map_append]
    exact List.prefix_append ..
  | cloneReport found =>
    exact ⟨fun _ => List.prefix_rfl, List.prefix_rfl, List.prefix_append .., List.prefix_rfl,
      List.prefix_rfl⟩
  | addFile | openFile => exact extends_addFile workspace _ _
  | getFile found stored =>
    exact ⟨fun _ => List.prefix_rfl, List.prefix_rfl, List.prefix_rfl, List.prefix_append ..,
      List.prefix_rfl⟩
  | quiet same contexts reports =>
    refine ⟨fun store => ?_, same.contexts_eq ▸ List.prefix_rfl, same.reports_eq ▸ List.prefix_rfl,
      same.files_eq ▸ List.prefix_rfl, same.journals_eq ▸ List.prefix_rfl⟩
    rw [storeFiles, storeFiles, same.stores_eq]

theorem run_extends {actions : List Action} {outcomes : List Outcome}
    (ran : workspace.run actions = some (next, outcomes)) : workspace.Extends next :=
  run_preserves (fun applied longer => longer.trans (apply_grows applied).extends) ran
    (.refl workspace)

def Stored (workspace : Workspace) : Prop :=
  ∀ ref ∈ workspace.files, ∃ file, workspace.deref? ref = some file

theorem Extends.deref? (extends_ : workspace.Extends next) {ref : FileRef} {file : SourceFile}
    (stored : workspace.deref? ref = some file) : next.deref? ref = some file :=
  getElem?_ahead (extends_.stores ref.store) stored

theorem deref?_addFile (workspace : Workspace) {store : Nat} (file : SourceFile)
    (inside : store < workspace.stores.length) :
    (workspace.addFile store file).deref? ⟨store, (workspace.storeFiles store).length⟩ =
      some file := by
  rw [Workspace.deref?, storeFiles_addFile workspace file inside, List.getElem?_concat_length]

theorem stored_concat {after : Workspace} {ref : FileRef} {file : SourceFile}
    (stored : workspace.Stored) (longer : workspace.Extends after)
    (files : after.files = workspace.files ++ [ref]) (found : after.deref? ref = some file) :
    after.Stored := by
  intro one member
  rw [files] at member
  rcases List.mem_append.1 member with old | new
  next =>
    obtain ⟨same, known⟩ := stored one old
    exact ⟨same, longer.deref? known⟩
  next =>
    obtain rfl := List.mem_singleton.1 new
    exact ⟨file, found⟩

theorem Grows.stored (grows : workspace.Grows action next) (bounded : workspace.Bounded)
    (stored : workspace.Stored) : next.Stored := by
  have longer := grows.extends
  have same (files : next.files = workspace.files) : next.Stored := by
    intro ref member
    rw [files] at member
    obtain ⟨file, known⟩ := stored ref member
    exact ⟨file, longer.deref? known⟩
  cases grows with
  | addFile found | openFile found =>
    have inside := bounded.contexts_lt _ (List.mem_of_getElem? found)
    exact stored_concat stored longer rfl (deref?_addFile workspace _ inside)
  | getFile found stored_here => exact stored_concat stored longer rfl stored_here
  | newContext | cloneContext | newReport | cloneReport => exact same rfl
  | quiet unchanged => exact same unchanged.files_eq

theorem run_stored {actions : List Action} {outcomes : List Outcome}
    (ran : workspace.run actions = some (next, outcomes)) (bounded : workspace.Bounded)
    (stored : workspace.Stored) : next.Stored := by
  have both : next.Bounded ∧ next.Stored := by
    apply run_preserves _ ran ⟨bounded, stored⟩
    rintro before after action outcome applied ⟨bounded, stored⟩
    have grows := apply_grows applied
    exact ⟨grows.bounded bounded, grows.stored bounded stored⟩
  exact both.2

end Workspace

/-- Which file a handle is on that comes out of an action: one that is new comes last in the
family of its context. -/
def Action.origin? (families : List Nat) (outcome : Outcome) : Action → Option FileRef
  | .addFile context _ _ | .openFile context _ _ _ =>
    match outcome with
    | .file _ _ count => families[context]?.map fun family => ⟨family, count - 1⟩
    | _ => none
  | .getFile context index =>
    match outcome with
    | .file _ _ _ => families[context]?.map fun family => ⟨family, index⟩
    | _ => none
  | _ => none

def fileOrigins (actions : List Action) (outcomes : List Outcome) : List FileRef :=
  (actions.zip outcomes).filterMap fun done =>
    done.1.origin? (contextFamilies actions) done.2

namespace Workspace

variable {workspace next : Workspace} {action : Action} {outcome : Outcome}

theorem apply_files (bounded : workspace.Bounded)
    (applied : workspace.apply action = some (next, outcome)) {families : List Nat}
    (known : workspace.contexts <+: families) :
    next.files = workspace.files ++ (action.origin? families outcome).toList := by
  have added {context store : Nat} (file : SourceFile)
      (found : workspace.contexts[context]? = some store) :
      (families[context]?.map fun family => FileRef.mk family
        (((workspace.addFile store file).storeFiles store).length - 1)) =
          some ⟨store, (workspace.storeFiles store).length⟩ := by
    have inside := bounded.contexts_lt store (List.mem_of_getElem? found)
    simp [getElem?_ahead known found, storeFiles_addFile workspace file inside]
  cases action with
  | addFile context path text =>
    obtain ⟨store, found, applied⟩ := Option.bind_eq_some_iff.1 applied
    cases applied
    simp only [Action.origin?, added _ found]
    rfl
  | openFile context report path disk =>
    obtain ⟨store, found, applied⟩ := Option.bind_eq_some_iff.1 applied
    obtain ⟨journal, -, applied⟩ := Option.bind_eq_some_iff.1 applied
    split at applied
    next file opened =>
      cases applied
      simp only [Action.origin?, added _ found]
      rfl
    next title =>
      obtain ⟨entry, -, applied⟩ := Option.bind_eq_some_iff.1 applied
      cases applied
      exact (List.append_nil _).symm
  | getFile context index =>
    obtain ⟨store, found, applied⟩ := Option.bind_eq_some_iff.1 applied
    simp only at applied
    split at applied
    next =>
      cases applied
      exact (List.append_nil _).symm
    next file stored =>
      cases applied
      simp only [Action.origin?, getElem?_ahead known found]
      rfl
  | _ =>
    have same : next.files = workspace.files := by
      cases apply_grows applied with
      | quiet unchanged => exact unchanged.files_eq
      | _ => rfl
    rw [same]
    exact (List.append_nil _).symm

theorem run_files {actions : List Action} {outcomes : List Outcome}
    (ran : workspace.run actions = some (next, outcomes)) (bounded : workspace.Bounded)
    {families : List Nat} (known : next.contexts <+: families) :
    next.files = workspace.files ++
      (actions.zip outcomes).filterMap fun done => done.1.origin? families done.2 := by
  induction actions generalizing workspace outcomes with
  | nil =>
    cases ran
    exact (List.append_nil _).symm
  | cons action rest ih =>
    obtain ⟨middle, outcome, others, applied, later, rfl⟩ := run_cons ran
    have grows := apply_grows applied
    -- the last families tell what the earlier ones were, as handles only come to their end
    have early : workspace.contexts <+: families :=
      (grows.extends.contexts.trans (run_extends later).contexts).trans known
    rw [ih later (grows.bounded bounded), apply_files bounded applied early,
      List.append_assoc, List.zip_cons_cons, List.filterMap_cons]
    congr 1
    cases action.origin? families outcome <;> rfl

theorem run_initial_files {actions : List Action} {outcomes : List Outcome}
    (ran : initial.run actions = some (next, outcomes)) :
    next.files = fileOrigins actions outcomes := by
  rw [run_files ran bounded_initial List.prefix_rfl, (run_initial_families ran).1]
  rfl

theorem run_append {front back : List Action} {middle last : Workspace}
    {early late : List Outcome} (first : workspace.run front = some (middle, early))
    (second : middle.run back = some (last, late)) :
    workspace.run (front ++ back) = some (last, early ++ late) := by
  induction front generalizing workspace early with
  | nil =>
    cases first
    exact second
  | cons action rest ih =>
    obtain ⟨after, outcome, others, applied, later, rfl⟩ := run_cons first
    simp [run, applied, ih later]

end Workspace

end Numeral
