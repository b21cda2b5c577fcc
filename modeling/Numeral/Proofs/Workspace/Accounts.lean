import Numeral.Proofs.Workspace.Handles

set_option autoImplicit false

namespace Numeral

namespace Diagnostic

structure ShownAs (files : List SourceFile) (showsPlaces : Bool) (diagnostic : Diagnostic)
    (snippet : Snippet) : Prop where
  severity_eq : snippet.severity = diagnostic.severity
  title_eq : snippet.title = diagnostic.title
  slices_ok : diagnostic.slices files = .ok snippet.slices
  notes_eq : snippet.notes = diagnostic.notes ++
    if showsPlaces && diagnostic.located then ["reported at: <location>"] else []

theorem snippet_eq_ok_iff {files : List SourceFile} {showsPlaces : Bool} {diagnostic : Diagnostic}
    {snippet : Snippet} :
    diagnostic.snippet files showsPlaces = .ok snippet ↔
      diagnostic.ShownAs files showsPlaces snippet := by
  rw [Diagnostic.snippet]
  cases cut : diagnostic.slices files with
  | error fault =>
    constructor
    next =>
      intro made
      cases made
    next =>
      rintro ⟨-, -, sliced, -⟩
      cases cut.symm.trans sliced
  | ok slices =>
    constructor
    next =>
      intro made
      cases made
      exact ⟨rfl, rfl, cut, rfl⟩
    next =>
      obtain ⟨severity, title, shown, notes⟩ := snippet
      rintro ⟨rfl, rfl, sliced, rfl⟩
      obtain rfl := Except.ok.inj (cut.symm.trans sliced)
      rfl

end Diagnostic

namespace Report

variable (files : List SourceFile) (options : Options)

def page (diagnostic : Diagnostic) : Except Fault String :=
  (diagnostic.snippet files options.showsLocations).map fun snippet =>
    Page.render options.color snippet ++ "\n\n"

def closing (errors : Nat) : List String :=
  if errors = 0 then [] else [Page.render options.color (aborting errors) ++ "\n"]

def errorsIn (diagnostics : List Diagnostic) : Nat :=
  diagnostics.countP fun diagnostic => diagnostic.severity = .error

theorem renderWith_eq (report : Report) :
    report.renderWith files options =
      ((report.diagnostics.mapM (page files options)).map
        (· ++ closing options report.errorCount)).map String.join := by
  have pieces : report.pieces files options =
      report.diagnostics.map (page files options) ++
        (closing options report.errorCount).map .ok := by
    unfold pieces closing
    split <;> rfl
  rw [renderWith, pieces, mapM_map_id]

theorem displayFrom_eq (errors : Nat) (diagnostics : List Diagnostic) :
    Ledger.displayFrom files options errors diagnostics =
      (diagnostics.mapM (page files options)).map
        (· ++ closing options (errors + errorsIn diagnostics)) := by
  induction diagnostics generalizing errors with
  | nil => rfl
  | cons diagnostic rest ih =>
    have count : (if diagnostic.severity = .error then errors + 1 else errors) + errorsIn rest =
        errors + errorsIn (diagnostic :: rest) := by
      simp only [errorsIn, List.countP_cons, decide_eq_true_eq]
      split <;> omega
    rw [Ledger.displayFrom, List.mapM_cons, ih, count, page]
    cases diagnostic.snippet files options.showsLocations with
    | error fault => rfl
    | ok snippet => cases rest.mapM (page files options) <;> rfl

theorem display_ofListed (report : Report) :
    (Ledger.ofListed report.diagnostics).display files options =
      report.renderWith files options := by
  rw [Ledger.display, Ledger.ofListed, displayFrom_eq, Nat.zero_add, renderWith_eq]
  rfl

theorem aborting_eq (errors : Nat) :
    aborting errors = ⟨.error, "aborting due to " ++ toString errors ++
      (if errors = 1 then " error" else " errors"), [], []⟩ := by
  by_cases single : errors = 1
  next =>
    subst single
    rfl
  next => simp [aborting, single, String.append_assoc]

def ending (errors : Nat) : String :=
  if errors = 0 then ""
  else Page.render options.color ⟨.error, "aborting due to " ++ toString errors ++
    (if errors = 1 then " error" else " errors"), [], []⟩ ++ "\n"

/-- One snippet for each diagnostic, and then the number of errors, if there are any. -/
def Displays (report : Report) (text : String) : Prop :=
  let errors := (report.diagnostics.filter fun diagnostic => diagnostic.severity = .error).length
  ∃ snippets,
    List.Forall₂ (Diagnostic.ShownAs files options.showsLocations) report.diagnostics snippets ∧
    text = String.join (snippets.map fun snippet => Page.render options.color snippet ++ "\n\n") ++
      ending options errors

theorem join_closing (errors : Nat) :
    String.join (closing options errors) = ending options errors := by
  rw [closing, ending, aborting_eq]
  split <;> simp

theorem renderWith_eq_ok_iff (report : Report) (text : String) :
    report.renderWith files options = .ok text ↔ report.Displays files options text := by
  have shown : report.diagnostics.mapM (page files options) =
      (report.diagnostics.mapM (Diagnostic.snippet files options.showsLocations)).map
        (List.map fun snippet => Page.render options.color snippet ++ "\n\n") :=
    mapM_map_result _ _ _
  have counted : (report.diagnostics.filter fun diagnostic =>
      diagnostic.severity = .error).length = report.errorCount :=
    List.countP_eq_length_filter.symm
  have told : ∀ snippets,
      List.Forall₂ (Diagnostic.ShownAs files options.showsLocations) report.diagnostics snippets ↔
        report.diagnostics.mapM (Diagnostic.snippet files options.showsLocations) =
          .ok snippets := by
    intro snippets
    rw [mapM_ok_iff]
    simp only [Diagnostic.snippet_eq_ok_iff]
  unfold Displays
  simp only [told, counted, ← join_closing]
  rw [renderWith_eq, shown]
  cases report.diagnostics.mapM (Diagnostic.snippet files options.showsLocations) with
  | error fault => simp [Except.map]
  | ok snippets => simp [Except.map, eq_comm]

end Report

/-- The report accounts for what the log says of it, and so does what it shares with its clones:
the list and the counter agree, and what is displayed is counted once more with the same result. -/
structure Report.Accounts (report : Report) (log : Log) (books : Books) (journal : Nat) : Prop where
  diagnostics_eq : report.diagnostics = log.listed journal
  ledger_eq : books.ledgers[journal]? = some ⟨report.diagnostics, report.errorCount⟩
  errorCount_eq : report.errorCount =
    (report.diagnostics.filter fun diagnostic => diagnostic.severity = .error).length
  isOk_iff : report.isOk = true ↔ report.errorCount = 0
  display_eq : ∀ files options, report.renderWith files options =
    Ledger.display files options ⟨report.diagnostics, report.errorCount⟩
  displays_iff : ∀ files options text,
    report.renderWith files options = .ok text ↔ report.Displays files options text

theorem Workspace.Agrees.accounts {workspace : Workspace} {books : Books} {log : Log}
    (agrees : workspace.Agrees books) (describes : log.Describes books) {journal : Nat}
    {entry : Journal} (kept : workspace.journals[journal]? = some entry) :
    entry.report.Accounts log books journal := by
  have same := congrArg (fun lists => lists[journal]?) agrees.journals_eq
  simp only [List.getElem?_map, kept, Option.map_some] at same
  obtain ⟨ledger, shared, listed⟩ := Option.map_eq_some_iff.1 same.symm
  have told := describes.ledgers_eq journal ledger shared
  have lists : entry.report.diagnostics = log.listed journal := by rw [← listed, told]; rfl
  rw [← lists] at told
  rw [told] at shared
  refine ⟨lists, shared, List.countP_eq_length_filter, by simp [Report.isOk], ?_, ?_⟩
  next =>
    intro files options
    exact (Report.display_ofListed files options entry.report).symm
  next =>
    intro files options text
    exact Report.renderWith_eq_ok_iff files options entry.report text

/-- After any run each report lists exactly what was committed, or dropped while it was not
speculative, in the order of the ends, and its clones are one with it. -/
theorem reports_account {actions : List Action} {last : Workspace} {outcomes : List Outcome}
    (ran : Workspace.initial.run actions = some (last, outcomes)) :
    ∃ (log : Log) (books : Books),
      Workspace.initial.log? .initial actions = some log ∧
      Books.initial.hearAll log = some books ∧ log.Orderly ∧
      (∀ (handle journal : Nat), (reportFamilies actions)[handle]? = some journal →
        ∃ report, last.report? handle = some report ∧ report.Accounts log books journal) ∧
      (∀ handle clone : Nat,
        (reportFamilies actions)[clone]? = (reportFamilies actions)[handle]? →
          last.report? clone = last.report? handle) ∧
      ∀ (slot : Nat) (draft : Draft), last.slots[slot]? = some (some draft) →
        ∃ number, books.held[slot]? = some (some number) ∧ log.draft? number = some draft ∧
          log.hasEnded number = false := by
  obtain ⟨log, books, told, heard, agrees⟩ := Workspace.run_heard Workspace.agrees_initial ran
  have describes := Log.describes_hearAll heard
  have families := (Workspace.run_initial_families ran).2
  have bounded := Workspace.run_bounded ran Workspace.bounded_initial
  refine ⟨log, books, told, heard, describes.orderly, ?_, ?_, ?_⟩
  next =>
    intro handle journal family
    rw [← families] at family
    have inside := bounded.reports_lt journal (List.mem_of_getElem? family)
    have kept := List.getElem?_eq_getElem inside
    refine ⟨_, ?_, agrees.accounts describes kept⟩
    simp [Workspace.report?, Workspace.journal?, family, kept]
  next =>
    intro handle clone same
    rw [← families] at same
    simp [Workspace.report?, Workspace.journal?, same]
  next =>
    intro slot draft held
    rw [agrees.slots_eq, List.getElem?_map, Option.map_eq_some_iff] at held
    obtain ⟨number?, here, found⟩ := held
    obtain ⟨number, rfl, kept⟩ := Option.bind_eq_some_iff.1 found
    obtain ⟨known, going, -⟩ := describes.live kept
    exact ⟨number, here, known, going⟩

def committedLast : List Action :=
  [.newReport 0 ⟨true, true, true⟩, .cloneReport 0,
    .diagnose 1 (.error "first") [.speculate, .note "kept"] .hold,
    .diagnose 0 (.error "lost") [.speculate] .drop,
    .diagnose 0 (.warning "second") [] .drop,
    .extend 0 [.note "later"] .commit]

theorem reports_account_committed :
    ∃ last outcomes report, Workspace.initial.run committedLast = some (last, outcomes) ∧
      last.report? 0 = some report ∧ last.report? 1 = some report ∧
      report.diagnostics =
        [⟨.warning, "second", [], [], true⟩, ⟨.error, "first", [], ["kept", "later"], true⟩] ∧
      report.renderGolden [] = .ok ("warning: second\n\n" ++
        "error: first\n = note: kept\n = note: later\n\n" ++
        "error: aborting due to 1 error\n") := by
  have ran : Workspace.initial.run committedLast = some (_, _) := rfl
  obtain ⟨log, books, told, -, -, accounts, clones, -⟩ := reports_account ran
  obtain ⟨report, found, account⟩ := accounts 0 0 rfl
  obtain rfl := Option.some.inj (told.symm.trans rfl)
  have listed : report.diagnostics =
      [⟨.warning, "second", [], [], true⟩, ⟨.error, "first", [], ["kept", "later"], true⟩] :=
    account.diagnostics_eq.trans rfl
  refine ⟨_, _, report, ran, found, (clones 0 1 rfl).trans found, listed, ?_⟩
  apply (account.displays_iff [] report.options.golden _).2
  rw [Report.Displays, listed]
  exact ⟨[⟨.warning, "second", [], []⟩, ⟨.error, "first", [], ["kept", "later"]⟩],
    .cons ⟨rfl, rfl, rfl, rfl⟩ (.cons ⟨rfl, rfl, rfl, rfl⟩ .nil), rfl⟩

end Numeral
