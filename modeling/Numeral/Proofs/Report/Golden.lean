import Numeral.Proofs.Workspace.Accounts

set_option autoImplicit false

namespace Numeral

namespace Diagnostic

def unlocated (diagnostic : Diagnostic) : Diagnostic :=
  { diagnostic with located := false }

@[simp] theorem unlocated_unlocated (diagnostic : Diagnostic) :
    diagnostic.unlocated.unlocated = diagnostic.unlocated :=
  rfl

theorem unlocated_notes (messages : List String) (diagnostic : Diagnostic) :
    (messages.foldl (fun now text => now.note text) diagnostic).unlocated =
      messages.foldl (fun now text => now.note text) diagnostic.unlocated := by
  induction messages generalizing diagnostic with
  | nil => rfl
  | cons message rest ih => exact ih (diagnostic.note message)

end Diagnostic

section

variable (explains located : Bool) (index : Nat) (file : SourceFile)

theorem diagnose_unlocated (range : Range) (miss? : Option Miss) :
    (diagnose explains located index file range miss?).map Diagnostic.unlocated =
      diagnose explains false index file range miss? := by
  cases explains with
  | false => rfl
  | true =>
    unfold diagnose
    cases miss? with
    | none => rfl
    | some miss =>
      cases Text.excerpt? file.text range.start range.stop with
      | none => rfl
      | some excerpt =>
        simp only [Bool.not_true, Bool.false_eq_true, if_false]
        cases file.span (Range.between (miss.explain excerpt range.start).range.start
            (miss.explain excerpt range.start).range.stop) with
        | error fault => rfl
        | ok place => exact congrArg Except.ok (Diagnostic.unlocated_notes _ _)

theorem literalBetween_unlocated (start stop : Nat) :
    (file.literalBetween explains located index start stop).map
        (Prod.map id (Option.map Diagnostic.unlocated)) =
      file.literalBetween explains false index start stop := by
  unfold SourceFile.literalBetween
  cases examine file.text start stop with
  | error fault => rfl
  | ok found =>
    cases invalid : found.1.kind.isInvalid with
    | false => simp [invalid, bind, Except.bind, pure, Except.pure, Except.map]
    | true =>
      simp only [bind, Except.bind, invalid, if_true]
      rw [← diagnose_unlocated explains located]
      cases diagnose explains located index file found.1.range found.2 <;> rfl

theorem leftBetween_unlocated (start stop : Nat) :
    (file.leftBetween explains located index start stop).map Diagnostic.unlocated =
      file.leftBetween explains false index start stop := by
  unfold SourceFile.leftBetween
  cases examine file.text start stop with
  | error fault => rfl
  | ok found =>
    simp only
    split
    next invalid =>
      rw [← diagnose_unlocated explains located]
      cases diagnose explains located index file found.1.range found.2 <;> rfl
    next => rfl

theorem leftBy_unlocated (places : List (Nat × Nat)) :
    (file.leftBy explains located index places).map Diagnostic.unlocated =
      file.leftBy explains false index places := by
  induction places with
  | nil => rfl
  | cons ends rest ih =>
    rw [SourceFile.leftBy, SourceFile.leftBy, List.map_append, leftBetween_unlocated,
      ← literalBetween_unlocated explains located]
    congr 1
    cases file.literalBetween explains located index ends.1 ends.2 with
    | error fault => rfl
    | ok found => exact ih

end

namespace Report

/-- The report as someone else draws its snippets, who may fail at that. -/
def drawn (draw : Bool → Snippet → Except Fault String) (files : List SourceFile)
    (options : Options) (report : Report) : Except Fault String := do
  let pages ← report.diagnostics.mapM fun diagnostic => do
    let snippet ← diagnostic.snippet files options.showsLocations
    return (← draw options.color snippet) ++ "\n\n"
  if report.errorCount = 0 then return String.join pages
  else
    let page ← draw options.color (aborting report.errorCount)
    return String.join (pages ++ [page ++ "\n"])

theorem renderWith_eq_drawn (files : List SourceFile) (options : Options) (report : Report) :
    report.renderWith files options =
      report.drawn (fun color snippet => .ok (Page.render color snippet)) files options := by
  have pages : (fun diagnostic : Diagnostic => do
      let snippet ← diagnostic.snippet files options.showsLocations
      return (← Except.ok (Page.render options.color snippet)) ++ "\n\n") =
        page files options := by
    funext diagnostic
    unfold page
    cases diagnostic.snippet files options.showsLocations <;> rfl
  rw [renderWith_eq, drawn, pages, closing]
  cases report.diagnostics.mapM (page files options) with
  | error fault => rfl
  | ok pages =>
    simp only [Except.map, bind, Except.bind]
    split
    next => simp [pure, Except.pure]
    next => rfl

variable {one other : Report}
  (same : one.diagnostics.map Diagnostic.unlocated = other.diagnostics.map Diagnostic.unlocated)

include same

theorem errorCount_unlocated : one.errorCount = other.errorCount := by
  have counts (report : Report) : report.errorCount =
      (report.diagnostics.map Diagnostic.unlocated).countP
        fun diagnostic => diagnostic.severity = .error := by
    rw [List.countP_map]
    rfl
  rw [counts, counts, same]

theorem drawn_unlocated (draw : Bool → Snippet → Except Fault String) (files : List SourceFile)
    {options : Options} (hidden : options.showsLocations = false) :
    one.drawn draw files options = other.drawn draw files options := by
  -- what is drawn of a report can be drawn without its places, and the rest is the same for both
  have blind (report : Report) : report.drawn draw files options =
      { report with diagnostics := report.diagnostics.map Diagnostic.unlocated }.drawn draw files
        options := by
    have errors : report.errorCount =
        { report with diagnostics := report.diagnostics.map Diagnostic.unlocated }.errorCount :=
      errorCount_unlocated (by simp [Function.comp_def])
    rw [drawn, drawn, ← errors, List.mapM_map, hidden]
    rfl
  rw [blind one, blind other, same]
  rfl

theorem renderGolden_unlocated (files : List SourceFile)
    (explains : one.options.explains = other.options.explains) :
    one.renderGolden files = other.renderGolden files := by
  have golden : one.options.golden = other.options.golden := by
    rw [Options.golden, Options.golden, explains]
  rw [renderGolden, renderGolden, renderWith_eq_drawn, renderWith_eq_drawn, golden]
  exact drawn_unlocated same _ files rfl

end Report

end Numeral
