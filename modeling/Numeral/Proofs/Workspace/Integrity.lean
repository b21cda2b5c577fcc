import Numeral.Proofs.Workspace.Labels

set_option autoImplicit false

namespace Numeral

def Action.reportStore? (families : List Nat) : Action → Option Nat
  | .newReport context _ => families[context]?
  | _ => none

def reportStores (actions : List Action) : List Nat :=
  actions.filterMap (Action.reportStore? (contextFamilies actions))

namespace Workspace

variable {workspace next : Workspace} {action : Action} {outcome : Outcome}

theorem Grows.journals (grows : workspace.Grows action next) {families : List Nat}
    (known : workspace.contexts <+: families) :
    next.journals.map Journal.store =
      workspace.journals.map Journal.store ++ (action.reportStore? families).toList := by
  cases grows with
  | @newReport context store options found =>
    rw [Workspace.newReport, List.map_append, Action.reportStore?, getElem?_ahead known found]
    rfl
  | quiet same contexts reports =>
    cases action with
    | newReport context options => simp [Action.reportBirth?] at reports
    | _ =>
      rw [same.journals_eq]
      exact (List.append_nil _).symm
  | _ => exact (List.append_nil _).symm

theorem run_journals {actions : List Action} {outcomes : List Outcome}
    (ran : workspace.run actions = some (next, outcomes)) {families : List Nat}
    (known : next.contexts <+: families) :
    next.journals.map Journal.store =
      workspace.journals.map Journal.store ++
        actions.filterMap (Action.reportStore? families) := by
  induction actions generalizing workspace outcomes with
  | nil =>
    cases ran
    exact (List.append_nil _).symm
  | cons action rest ih =>
    obtain ⟨middle, outcome, others, applied, later, rfl⟩ := run_cons ran
    have grows := apply_grows applied
    have early : workspace.contexts <+: families :=
      (grows.extends.contexts.trans (run_extends later).contexts).trans known
    rw [ih later, grows.journals early, List.append_assoc, List.filterMap_cons]
    congr 1
    cases action.reportStore? families <;> rfl

theorem run_initial_journals {actions : List Action} {outcomes : List Outcome}
    (ran : initial.run actions = some (next, outcomes)) :
    next.journals.map Journal.store = reportStores actions := by
  rw [run_journals ran List.prefix_rfl, (run_initial_families ran).1]
  rfl

end Workspace

theorem Report.renderWith_fault {report : Report} {files : List SourceFile} {options : Options}
    {fault : Fault}
    (gathers : ∀ diagnostic ∈ report.diagnostics, ∃ passages,
      Passage.gather files diagnostic.labels = .ok passages)
    (failed : report.renderWith files options = .error fault) : fault = .badSlice := by
  rw [renderWith_eq] at failed
  cases shown : report.diagnostics.mapM (page files options) with
  | ok pages => simp [shown, Except.map] at failed
  | error early =>
    rw [shown] at failed
    cases failed
    obtain ⟨diagnostic, member, wrong⟩ := mapM_error shown
    obtain ⟨passages, gathered⟩ := gathers diagnostic member
    have sliced : diagnostic.slices files = passages.mapM Passage.crop := by
      rw [Diagnostic.slices, gathered]
      rfl
    rw [page, Diagnostic.snippet, sliced] at wrong
    cases cropped : passages.mapM Passage.crop with
    | ok slices =>
      rw [cropped] at wrong
      cases wrong
    | error last =>
      rw [cropped] at wrong
      cases wrong
      obtain ⟨passage, -, found⟩ := mapM_error cropped
      exact Passage.crop_fault found

def Log.Own (log : Log) (journal store : Nat) : Prop :=
  ∀ diagnostic ref label, log.Makes journal diagnostic ref label → ref.store = store

/-- The labels of the passage, which are of a listed diagnostic, were all made from the passage's
file, and that file is what is shown. -/
structure Passage.Faithful (passage : Passage) (workspace : Workspace) (log : Log) (journal : Nat)
    (diagnostic : Diagnostic) : Prop where
  labels_made : ∀ label ∈ passage.labels, (∃ ref, log.Makes journal diagnostic ref label) ∧
    ∀ ref, log.Makes journal diagnostic ref label → workspace.deref? ref = some passage.file
  shown : ∀ slice, passage.crop = .ok slice →
    slice.path = passage.file.path ∧ ∃ skipped, passage.file.text = skipped ++ slice.source

def Workspace.Resolves (workspace : Workspace) (log : Log) (handle journal : Nat) : Prop :=
  ∃ report, workspace.report? handle = some report ∧
    (∀ diagnostic ∈ report.diagnostics, ∃ passages,
      Passage.gather (workspace.reportFiles handle) diagnostic.labels = .ok passages ∧
      passages.flatMap Passage.labels = diagnostic.labels ∧
      ∀ passage ∈ passages, passage.Faithful workspace log journal diagnostic) ∧
    ∀ options fault, report.renderWith (workspace.reportFiles handle) options = .error fault →
      fault ≠ .unknownFile

inductive Disk.Refuses (path : String) (disk : Disk) : String → Prop where
  | unread {why : ReadError} (failed : disk.read path = .error why) :
      Refuses path disk ("could not open input file `" ++ path ++ "`: " ++ why.message)
  | invalid {content : ByteArray} (read : disk.read path = .ok content)
      (broken : String.fromUTF8? content = none) :
      Refuses path disk ("input file `" ++ path ++ "` was not valid UTF-8")

theorem Disk.openFile_refuses {path title : String} {disk : Disk}
    (refuses : disk.Refuses path title) : disk.openFile path = .error title := by
  cases refuses with
  | unread failed => rw [openFile, failed]
  | invalid read broken =>
    rw [openFile, read]
    simp only [broken]

theorem Disk.openFile_reads {path : String} {disk : Disk} {content : ByteArray} {text : String}
    (read : disk.read path = .ok content) (valid : String.fromUTF8? content = some text) :
    disk.openFile path = .ok ⟨path, text.toList⟩ := by
  rw [openFile, read]
  simp only [valid]

namespace Workspace

/-- What is true of files and the handles on them after the actions, some of which came first. -/
structure KeepsFiles (first last : Workspace) (early actions : List Action)
    (before outcomes : List Outcome) : Prop where
  grows : ∀ context files, first.contextFiles? context = some files →
    ∃ more, last.contextFiles? context = some (files ++ more)
  denotes : ∀ (handle : Nat) (origin : FileRef),
    (fileOrigins early before)[handle]? = some origin →
      (fileOrigins actions outcomes)[handle]? = some origin ∧
      ∃ file, first.file? handle = some file ∧ last.file? handle = some file ∧
        ∀ context : Nat, (contextFamilies actions)[context]? = some origin.store →
          ∃ next count, last.apply (.getFile context origin.index) =
            some (next, .file last.files.length file count)
  sameFile_eq : ∀ (handle other : Nat) (one two : FileRef),
    (fileOrigins actions outcomes)[handle]? = some one →
    (fileOrigins actions outcomes)[other]? = some two →
      last.sameFile? handle other = some (decide (one.store = two.store ∧ one.index = two.index))

structure AddsFiles (last : Workspace) (actions : List Action) : Prop where
  adds : ∀ (context family : Nat) path text, (contextFamilies actions)[context]? = some family →
    ∃ files next, last.contextFiles? context = some files ∧
      last.apply (.addFile context path text) =
        some (next, .file last.files.length ⟨path, text⟩ (files.length + 1)) ∧
      next.files = last.files ++ [⟨family, files.length⟩] ∧
      next.contextFiles? context = some (files ++ [⟨path, text⟩])
  opens : ∀ (context family report journal : Nat) path (disk : Disk) content text,
    (contextFamilies actions)[context]? = some family →
    (reportFamilies actions)[report]? = some journal →
    disk.read path = .ok content → String.fromUTF8? content = some text →
      ∃ files next, last.contextFiles? context = some files ∧
        last.apply (.openFile context report path disk) =
          some (next, .file last.files.length ⟨path, text.toList⟩ (files.length + 1)) ∧
        next.files = last.files ++ [⟨family, files.length⟩] ∧
        next.contextFiles? context = some (files ++ [⟨path, text.toList⟩]) ∧
        next.journals = last.journals ∧ next.reports = last.reports ∧ next.slots = last.slots
  refuses : ∀ (context family report journal : Nat) path (disk : Disk) title,
    (contextFamilies actions)[context]? = some family →
    (reportFamilies actions)[report]? = some journal → disk.Refuses path title →
      ∃ files next old, last.contextFiles? context = some files ∧
        last.apply (.openFile context report path disk) = some (next, .refused files.length) ∧
        last.report? report = some old ∧
        next.report? report = some ⟨old.options, old.diagnostics ++
          [⟨.error, title, [], [], old.options.showsLocations⟩]⟩ ∧
        (∀ other : Nat, (reportFamilies actions)[other]? ≠ some journal →
          next.report? other = last.report? other) ∧
        next = { last with journals := next.journals }

section

variable {last : Workspace} {actions : List Action} {outcomes : List Outcome}

theorem contextFiles?_of_family {context family : Nat}
    (found : last.contexts[context]? = some family) :
    last.contextFiles? context = some (last.storeFiles family) := by
  rw [contextFiles?, found]
  rfl

theorem keepsFiles {first : Workspace} {early late : List Action} {before after : List Outcome}
    (began : initial.run early = some (first, before))
    (went : first.run late = some (last, after)) :
    KeepsFiles first last early (early ++ late) before (before ++ after) := by
  have ran := run_append began went
  have longer := run_extends went
  have files := run_initial_files ran
  have contexts := (run_initial_families ran).1
  refine ⟨?_, ?_, ?_⟩
  next =>
    intro context old known
    obtain ⟨store, found, rfl⟩ := Option.map_eq_some_iff.1 known
    obtain ⟨more, same⟩ := longer.stores store
    refine ⟨more, ?_⟩
    rw [same]
    exact contextFiles?_of_family (getElem?_ahead longer.contexts found)
  next =>
    intro handle origin known
    rw [← run_initial_files began] at known
    have still := getElem?_ahead longer.files known
    obtain ⟨file, stored⟩ := run_stored began bounded_initial (by simp [Stored, initial]) origin
      (List.mem_of_getElem? known)
    have kept := longer.deref? stored
    refine ⟨files ▸ still, file, by simp [file?, known, stored], by simp [file?, still, kept], ?_⟩
    intro context family
    rw [← contexts] at family
    have there : (last.storeFiles origin.store)[origin.index]? = some file := kept
    exact ⟨last.addHandle origin, (last.storeFiles origin.store).length,
      by simp [apply, family, there]⟩
  next =>
    intro handle other one two here there
    rw [← files] at here there
    have same : one = two ↔ one.store = two.store ∧ one.index = two.index := by
      cases one
      cases two
      simp
    simp [sameFile?, here, there, same]

theorem addsFiles (ran : initial.run actions = some (last, outcomes)) :
    last.AddsFiles actions := by
  obtain ⟨contexts, reports⟩ := run_initial_families ran
  have bounded := run_bounded ran bounded_initial
  refine ⟨?_, ?_, ?_⟩
  next =>
    intro context family path text known
    rw [← contexts] at known
    have inside := bounded.contexts_lt family (List.mem_of_getElem? known)
    have longer := storeFiles_addFile last ⟨path, text⟩ inside
    refine ⟨last.storeFiles family, last.addFile family ⟨path, text⟩,
      contextFiles?_of_family known, ?_, rfl, ?_⟩
    next => simp [apply, known, longer]
    next =>
      rw [← longer]
      exact contextFiles?_of_family known
  next =>
    intro context family report journal path disk content text known owned read valid
    rw [← contexts] at known
    rw [← reports] at owned
    have opened := Disk.openFile_reads read valid
    have inside := bounded.contexts_lt family (List.mem_of_getElem? known)
    have longer := storeFiles_addFile last ⟨path, text.toList⟩ inside
    refine ⟨last.storeFiles family, last.addFile family ⟨path, text.toList⟩,
      contextFiles?_of_family known, ?_, rfl, ?_, rfl, rfl, rfl⟩
    next => simp [apply, known, owned, opened, longer]
    next =>
      rw [← longer]
      exact contextFiles?_of_family known
  next =>
    intro context family report journal path disk title known owned refuses
    have failed := Disk.openFile_refuses refuses
    rw [← contexts] at known
    rw [← reports] at owned ⊢
    have inside := bounded.reports_lt journal (List.mem_of_getElem? owned)
    obtain ⟨entry, kept⟩ : ∃ entry, last.journals[journal]? = some entry :=
      ⟨_, List.getElem?_eq_getElem inside⟩
    refine ⟨last.storeFiles family,
      last.insert journal (.new .error title entry.report.options.showsLocations), entry.report,
      contextFiles?_of_family known, ?_, ?_, ?_, ?_, rfl⟩
    next => simp [apply, known, owned, kept, failed]
    next => simp [report?, journal?, owned, kept]
    next => simp [report?, journal?, owned, kept, insert, Report.insert, Diagnostic.new]
    next =>
      intro other different
      cases found : last.reports[other]? with
      | none => simp [report?, journal?, insert, found]
      | some stranger =>
        have apart : journal ≠ stranger := by
          rintro rfl
          exact different found
        simp [report?, journal?, insert, found, apart]

section

variable {log : Log} (ran : initial.run actions = some (last, outcomes))
  (told : initial.log? .initial actions = some log)

include ran told

theorem deref?_of_makes {journal store : Nat} (own : log.Own journal store)
    {diagnostic : Diagnostic} {ref : FileRef} {label : Label}
    (made : log.Makes journal diagnostic ref label) :
    last.deref? ref = (last.storeFiles store)[label.file]? ∧
      ∃ file, last.deref? ref = some file := by
  have here := own diagnostic ref label made
  obtain ⟨number, committed, -, -, member⟩ := made
  obtain ⟨numbered, stored⟩ := log?_sound ran told _ member
  refine ⟨?_, stored⟩
  rw [numbered, ← here]
  rfl

theorem gather_faithful {journal store : Nat} (own : log.Own journal store)
    {diagnostic : Diagnostic} (listed : diagnostic ∈ log.listed journal) :
    ∃ passages, Passage.gather (last.storeFiles store) diagnostic.labels = .ok passages ∧
      passages.flatMap Passage.labels = diagnostic.labels ∧
      ∀ passage ∈ passages, passage.Faithful last log journal diagnostic := by
  have known : ∀ label ∈ diagnostic.labels, ∃ file,
      (last.storeFiles store)[label.file]? = some file := by
    intro label inside
    obtain ⟨ref, made⟩ := Log.label_of_listed listed inside
    obtain ⟨same, file, stored⟩ := deref?_of_makes ran told own made
    exact ⟨file, same ▸ stored⟩
  obtain ⟨passages, gathered, flat, owned⟩ := Passage.exists_gather known
  refine ⟨passages, gathered, flat, ?_⟩
  intro passage member
  have mine := owned passage member
  refine ⟨fun label inside => ⟨?_, ?_⟩, fun slice cropped => Passage.crop_source cropped⟩
  next =>
    apply Log.label_of_listed listed
    rw [← flat]
    exact List.mem_flatMap.2 ⟨passage, member, inside⟩
  next =>
    intro ref made
    rw [(deref?_of_makes ran told own made).1, mine.labels_eq label inside, mine.stored]

theorem resolves {handle journal store : Nat}
    (family : (reportFamilies actions)[handle]? = some journal)
    (about : (reportStores actions)[journal]? = some store) (own : log.Own journal store) :
    last.Resolves log handle journal := by
  obtain ⟨known, books, same, heard, agrees⟩ := run_heard agrees_initial ran
  obtain rfl := Option.some.inj (told.symm.trans same)
  rw [← (run_initial_families ran).2] at family
  rw [← run_initial_journals ran, List.getElem?_map, Option.map_eq_some_iff] at about
  obtain ⟨entry, kept, rfl⟩ := about
  have account := agrees.accounts (Log.describes_hearAll heard) kept
  have files : last.reportFiles handle = last.storeFiles entry.store := by
    simp [reportFiles, journal?, family, kept]
  have gathers : ∀ diagnostic ∈ entry.report.diagnostics, ∃ passages,
      Passage.gather (last.reportFiles handle) diagnostic.labels = .ok passages ∧
      passages.flatMap Passage.labels = diagnostic.labels ∧
      ∀ passage ∈ passages, passage.Faithful last log journal diagnostic := by
    rw [account.diagnostics_eq, files]
    exact fun diagnostic listed => gather_faithful ran told own listed
  refine ⟨entry.report, by simp [report?, journal?, family, kept], gathers, ?_⟩
  intro options fault failed
  have only := Report.renderWith_fault
    (fun diagnostic listed => (gathers diagnostic listed).imp fun _ => And.left) failed
  rw [only]
  decide

end

end

end Workspace

/-- Over any run: files stay what they are, handles on them keep their meaning, reading a file
adds one or reports one error, and reports whose labels are all from their own context's files
display those files. -/
theorem files_stay {early late : List Action} {first last : Workspace}
    {before after : List Outcome}
    (began : Workspace.initial.run early = some (first, before))
    (went : first.run late = some (last, after)) :
    Workspace.KeepsFiles first last early (early ++ late) before (before ++ after) ∧
      last.AddsFiles (early ++ late) ∧
      ∃ log : Log, Workspace.initial.log? .initial (early ++ late) = some log ∧
        ∀ handle journal store : Nat, (reportFamilies (early ++ late))[handle]? = some journal →
          (reportStores (early ++ late))[journal]? = some store → log.Own journal store →
            last.Resolves log handle journal := by
  have ran := Workspace.run_append began went
  obtain ⟨log, books, told, -, -⟩ := Workspace.run_heard Workspace.agrees_initial ran
  refine ⟨Workspace.keepsFiles began went, Workspace.addsFiles ran, log, told, ?_⟩
  intro handle journal store family about own
  exact Workspace.resolves ran told family about own

def addedThenCloned : List Action :=
  [.addFile 0 "one" ['1'], .cloneContext 0, .newReport 1 ⟨true, true, true⟩]

def sharedFile : Workspace :=
  ⟨[[⟨"one", ['1']⟩]], [⟨0, ⟨⟨true, true, true⟩, []⟩⟩], [0, 0], [0], [⟨0, 0⟩], []⟩

def pointedAt : List Action :=
  [.diagnose 0 (.error "wrong") [.saying ⟨0, 0, 1⟩ "here"] .drop,
    .openFile 1 0 "two" (.unreadable "denied")]

theorem files_stay_cloned :
    ∃ last before after log, Workspace.initial.run addedThenCloned = some (sharedFile, before) ∧
      sharedFile.run pointedAt = some (last, after) ∧ last.file? 0 = some ⟨"one", ['1']⟩ ∧
      last.contextFiles? 1 = some [⟨"one", ['1']⟩] ∧ last.Resolves log 0 0 ∧
      ∃ next old, last.apply (.openFile 1 0 "three" .directory) = some (next, .refused 1) ∧
        last.report? 0 = some old ∧ next.report? 0 = some ⟨old.options, old.diagnostics ++
          [⟨.error, "could not open input file `three`: Is a directory (os error 21)",
            [], [], true⟩]⟩ := by
  have began : Workspace.initial.run addedThenCloned = some (sharedFile, _) := rfl
  have went : sharedFile.run pointedAt = some (_, _) := rfl
  obtain ⟨keeps, adds, log, told, resolves⟩ := files_stay began went
  obtain ⟨-, file, here, there, -⟩ := keeps.denotes 0 ⟨0, 0⟩ rfl
  obtain rfl := Option.some.inj (here.symm.trans rfl)
  obtain ⟨files, next, old, held, refused, before, after, -, -⟩ :=
    adds.refuses 1 0 0 0 "three" .directory _ rfl rfl (.unread rfl)
  obtain rfl := Option.some.inj (held.symm.trans rfl)
  obtain rfl := Option.some.inj (before.symm.trans rfl)
  refine ⟨_, _, _, log, began, went, there, rfl, resolves 0 0 0 rfl rfl ?_,
    next, _, refused, before, after⟩
  have same : Workspace.initial.log? .initial (addedThenCloned ++ pointedAt) =
      some [.opened, .begun 0 .error "wrong" true,
        .changed 0 (.labelled ⟨0, 0⟩ ⟨0, ⟨0, 1⟩, .error, "here"⟩), .ended 0 false,
        .begun 0 .error "could not open input file `two`: denied" true, .ended 1 false] := rfl
  obtain rfl := Option.some.inj (told.symm.trans same)
  rintro diagnostic ref label ⟨number, committed, -, -, made⟩
  simp only [List.mem_cons, List.not_mem_nil, reduceCtorEq, Event.changed.injEq,
    Change.labelled.injEq, false_or, or_false] at made
  rw [made.2.1]

end Numeral
