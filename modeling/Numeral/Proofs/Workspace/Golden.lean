import Numeral.Proofs.Workspace.Deeds

set_option autoImplicit false

namespace Numeral

namespace Workspace

variable {left right : Workspace}

/-- A handle on a file means the same in both, if both have it. -/
structure SameFiles (left right : Workspace) : Prop where
  refs : ∀ {file : Nat} {ref other : FileRef}, left.files[file]? = some ref →
    right.files[file]? = some other → ref = other
  sources : ∀ {ref : FileRef} {source other : SourceFile}, left.deref? ref = some source →
    right.deref? ref = some other → source = other

theorem sameFiles_of_extends {lastLeft lastRight : Workspace} (first : left.Extends lastLeft)
    (second : right.Extends lastRight) (files : lastLeft.files = lastRight.files)
    (stores : lastLeft.stores = lastRight.stores) : left.SameFiles right where
  refs one other := by
    have found := getElem?_ahead first.files one
    rw [files, getElem?_ahead second.files other] at found
    exact (Option.some.inj found).symm
  sources one other := by
    have found := first.deref? one
    rw [Workspace.deref?, storeFiles, stores] at found
    exact Option.some.inj (found.symm.trans (second.deref? other))

section

variable (same : left.SameFiles right)

include same

theorem locate_same {spot : Spot} {here there : Except Fault (Nat × Range)}
    (first : left.locate spot = some here) (second : right.locate spot = some there) :
    here = there := by
  obtain ⟨ref, named, first⟩ := Option.bind_eq_some_iff.1 first
  obtain ⟨source, stored, first⟩ := Option.bind_eq_some_iff.1 first
  obtain ⟨ref', named', second⟩ := Option.bind_eq_some_iff.1 second
  obtain ⟨source', stored', second⟩ := Option.bind_eq_some_iff.1 second
  obtain rfl := same.refs named named'
  obtain rfl := same.sources stored stored'
  exact Option.some.inj (first.symm.trans second)

variable {one other : Draft} (alike : one.bare = other.bare)

include alike

theorem amend_bare {amendment : Amendment} {first second : Except Fault Draft}
    (left_made : left.amend one amendment = some first)
    (right_made : right.amend other amendment = some second) :
    first.map Draft.bare = second.map Draft.bare := by
  cases amendment with
  | saying spot message =>
    obtain ⟨here, found, made⟩ := Option.bind_eq_some_iff.1 left_made
    obtain ⟨there, found', made'⟩ := Option.bind_eq_some_iff.1 right_made
    obtain rfl := locate_same same found found'
    cases made
    cases made'
    cases here with
    | error fault => rfl
    | ok place =>
      exact congrArg (fun draft : Draft => Except.ok { draft with
        diagnostic := draft.diagnostic.saying place.1 place.2 message }) alike
  | remark spot message =>
    obtain ⟨here, found, made⟩ := Option.bind_eq_some_iff.1 left_made
    obtain ⟨there, found', made'⟩ := Option.bind_eq_some_iff.1 right_made
    obtain rfl := locate_same same found found'
    cases made
    cases made'
    cases here with
    | error fault => rfl
    | ok place =>
      exact congrArg (fun draft : Draft => Except.ok { draft with
        diagnostic := draft.diagnostic.remark place.1 place.2 message }) alike
  | note message =>
    cases left_made
    cases right_made
    exact congrArg (fun draft : Draft =>
      Except.ok { draft with diagnostic := draft.diagnostic.note message }) alike
  | speculate =>
    cases left_made
    cases right_made
    exact congrArg (fun draft : Draft => Except.ok { draft with speculative := true }) alike
  | reportedAt =>
    obtain ⟨entry, -, made⟩ := Option.bind_eq_some_iff.1 left_made
    obtain ⟨entry', -, made'⟩ := Option.bind_eq_some_iff.1 right_made
    cases made
    cases made'
    exact congrArg Except.ok alike

theorem amendAll_bare {amendments : List Amendment} {first second : Draft}
    {fault? fault'? : Option Fault}
    (left_made : left.amendAll one amendments = some (first, fault?))
    (right_made : right.amendAll other amendments = some (second, fault'?)) :
    first.bare = second.bare ∧ fault? = fault'? := by
  induction amendments generalizing one other with
  | nil =>
    cases left_made
    cases right_made
    exact ⟨alike, rfl⟩
  | cons amendment rest ih =>
    obtain ⟨here, amended, left_made⟩ := Option.bind_eq_some_iff.1 left_made
    obtain ⟨there, amended', right_made⟩ := Option.bind_eq_some_iff.1 right_made
    have step := amend_bare same alike amended amended'
    cases here with
    | error fault =>
      cases there with
      | error fault' =>
        cases step
        cases left_made
        cases right_made
        exact ⟨alike, rfl⟩
      | ok next' => cases step
    | ok next =>
      cases there with
      | error fault' => cases step
      | ok next' => exact ih (Except.ok.inj step) left_made right_made

end

theorem begin?_bare (same : left.SameFiles right) {journal journal' : Nat} {opening : Opening}
    {first second : Except Fault Draft} (begun : left.begin? journal opening = some first)
    (begun' : right.begin? journal' opening = some second) :
    first.map Draft.bare = second.map Draft.bare := by
  obtain ⟨entry, -, begun⟩ := Option.bind_eq_some_iff.1 begun
  obtain ⟨entry', -, begun'⟩ := Option.bind_eq_some_iff.1 begun'
  cases opening with
  | error title | warning title =>
    cases begun
    cases begun'
    rfl
  | invalidLiteral spot =>
    obtain ⟨here, found, begun⟩ := Option.bind_eq_some_iff.1 begun
    obtain ⟨there, found', begun'⟩ := Option.bind_eq_some_iff.1 begun'
    obtain rfl := locate_same same found found'
    cases begun
    cases begun'
    cases here <;> rfl

structure Alike (left right : Workspace) (first second : Nat) : Prop where
  reported : left.reported first = right.reported second
  pending : left.pending first = right.pending second

theorem Alike.effect {first second : Nat} {one other : Options} {nextLeft nextRight : Workspace}
    {deed : Deed} (alike : left.Alike right first second) (same : left.SameFiles right)
    (explains : one.explains = other.explains) (here : left.Effect first one nextLeft deed)
    (there : right.Effect second other nextRight deed) :
    nextLeft.Alike nextRight first second := by
  cases here with
  | fails begun reported pending =>
    cases there with
    | fails _ reported' pending' =>
      exact ⟨by rw [reported, reported', alike.reported], by rw [pending, pending', alike.pending]⟩
    | diagnose begun' => cases begin?_bare same begun begun'
  | diagnose begun amended reported pending =>
    cases there with
    | fails begun' => cases begin?_bare same begun begun'
    | diagnose begun' amended' reported' pending' =>
      have started := Except.ok.inj (begin?_bare same begun begun')
      obtain ⟨ended, rfl⟩ := amendAll_bare same started amended amended'
      exact ⟨by rw [reported, reported', alike.reported, ended],
        by rw [pending, pending', alike.pending, ended]⟩
  | extend held before amended reported pending =>
    cases there with
    | extend held' before' amended' reported' pending' =>
      -- the place tells which of the drafts it is, so both go on with the same one
      have kept := held.symm.trans (alike.pending.trans held')
      obtain ⟨fronts, rest⟩ := List.append_inj kept (before.trans before'.symm)
      obtain ⟨drafts, backs⟩ := List.cons.inj rest
      obtain ⟨ended, rfl⟩ := amendAll_bare same drafts amended amended'
      exact ⟨by rw [reported, reported', alike.reported, ended],
        by rw [pending, pending', fronts, backs, ended]⟩
  | literals named stored reported pending =>
    cases there with
    | literals named' stored' reported' pending' =>
      obtain rfl := same.refs named named'
      obtain rfl := same.sources stored stored'
      exact ⟨by rw [reported, reported', alike.reported, explains],
        by rw [pending, pending', alike.pending]⟩
  | literalAt named stored reported pending =>
    cases there with
    | literalAt named' stored' reported' pending' =>
      obtain rfl := same.refs named named'
      obtain rfl := same.sources stored stored'
      exact ⟨by rw [reported, reported', alike.reported, explains],
        by rw [pending, pending', alike.pending]⟩
  | refuse reported pending =>
    cases there with
    | refuse reported' pending' =>
      exact ⟨by rw [reported, reported', alike.reported], by rw [pending, pending', alike.pending]⟩

section

variable {lastLeft lastRight : Workspace} {first second : Nat}
  (files : lastLeft.files = lastRight.files) (stores : lastLeft.stores = lastRight.stores)
  (explains : ∀ one other, lastLeft.options? first = some one →
    lastRight.options? second = some other → one.explains = other.explains)

include files stores explains

-- The induction is over the deeds, not over the runs: what each run does in between differs.
theorem run_alike {deeds : List Deed} {lefts rights : List Action}
    {leftOutcomes rightOutcomes : List Outcome} (alike : left.Alike right first second)
    (leftReached : left.Reached) (rightReached : right.Reached)
    (ranLeft : left.run lefts = some (lastLeft, leftOutcomes))
    (ranRight : right.run rights = some (lastRight, rightOutcomes))
    (leftDeeds : left.deeds first lefts = deeds) (rightDeeds : right.deeds second rights = deeds) :
    lastLeft.Alike lastRight first second := by
  induction deeds generalizing left right lefts rights leftOutcomes rightOutcomes with
  | nil =>
    obtain ⟨reported, pending⟩ := run_spares leftReached ranLeft leftDeeds
    obtain ⟨reported', pending'⟩ := run_spares rightReached ranRight rightDeeds
    exact ⟨by rw [reported, reported', alike.reported], by rw [pending, pending', alike.pending]⟩
  | cons deed rest ih =>
    obtain ⟨one, middle, next, back, here⟩ := run_begins leftReached ranLeft leftDeeds
    obtain ⟨other, middle', next', back', there⟩ := run_begins rightReached ranRight rightDeeds
    have before : middle.Alike middle' first second :=
      ⟨by rw [here.reported, there.reported, alike.reported],
        by rw [here.pending, there.pending, alike.pending]⟩
    have same := sameFiles_of_extends here.longer there.longer files stores
    have after := before.effect same (explains one other here.opened there.opened) here.effect
      there.effect
    obtain ⟨outcomes, followed⟩ := here.followed
    obtain ⟨outcomes', followed'⟩ := there.followed
    exact ih after here.reached there.reached followed followed' here.later there.later

end

end Workspace

/-- Golden output is the same for two reports on one context that explain alike and to which the
same was done, in one run or in two. How they are to be displayed otherwise has no part in it. -/
theorem golden_independent {lefts rights : List Action} {left right : Workspace}
    {leftOutcomes rightOutcomes : List Outcome}
    (ranLeft : Workspace.initial.run lefts = some (left, leftOutcomes))
    (ranRight : Workspace.initial.run rights = some (right, rightOutcomes))
    (files : left.files = right.files) (stores : left.stores = right.stores)
    {first second : Nat} {one other : Journal} (here : left.journals[first]? = some one)
    (there : right.journals[second]? = some other) (context : one.store = other.store)
    (explains : one.report.options.explains = other.report.options.explains)
    (deeds : Workspace.initial.deeds first lefts = Workspace.initial.deeds second rights) :
    one.report.renderGolden (left.storeFiles one.store) =
        other.report.renderGolden (right.storeFiles other.store) ∧
      (∀ draw, one.report.drawn draw (left.storeFiles one.store) one.report.options.golden =
        other.report.drawn draw (right.storeFiles other.store) other.report.options.golden) ∧
      one.report.errorCount = other.report.errorCount := by
  have reached : Workspace.initial.Reached := ⟨[], [], rfl⟩
  have opened : left.options? first = some one.report.options := by
    rw [Workspace.options?, here]
    rfl
  have opened' : right.options? second = some other.report.options := by
    rw [Workspace.options?, there]
    rfl
  have explaining : ∀ known known', left.options? first = some known →
      right.options? second = some known' → known.explains = known'.explains := by
    intro known known' found found'
    obtain rfl := Option.some.inj (opened.symm.trans found)
    obtain rfl := Option.some.inj (opened'.symm.trans found')
    exact explains
  have alike := Workspace.run_alike files stores explaining ⟨rfl, rfl⟩ reached reached ranLeft
    ranRight rfl deeds.symm
  have same : one.report.diagnostics.map Diagnostic.unlocated =
      other.report.diagnostics.map Diagnostic.unlocated := by
    have listed := alike.reported
    rwa [Workspace.reported, Workspace.reported, here, there] at listed
  have shown : left.storeFiles one.store = right.storeFiles other.store := by
    rw [Workspace.storeFiles, Workspace.storeFiles, stores, context]
  have golden : one.report.options.golden = other.report.options.golden := by
    rw [Options.golden, Options.golden, explains]
  rw [shown, golden]
  exact ⟨Report.renderGolden_unlocated same _ explains,
    fun draw => Report.drawn_unlocated same draw _ rfl, Report.errorCount_unlocated same⟩

def doneToBoth : List Action :=
  [.newReport 0 ⟨true, true, true⟩, .newReport 0 ⟨false, false, true⟩,
    .addFile 0 "a" ['1', '_', '_', '2'],
    .diagnose 0 (.error "kept") [.speculate, .saying ⟨0, 0, 1⟩ "here"] .hold,
    .diagnose 1 (.error "kept") [.speculate, .saying ⟨0, 0, 1⟩ "here"] .hold,
    .literals 0 1, .extend 1 [.reportedAt] .commit, .newContext,
    .literals 0 0, .extend 0 [.reportedAt] .commit]

def listedForBoth (located : Bool) : List Diagnostic :=
  [⟨.error, "invalid numeric literal",
      [⟨0, ⟨0, 4⟩, .error, "this is not a valid number"⟩,
        ⟨0, ⟨1, 2⟩, .help, "unexpected digit separator"⟩],
      ["digit separators may only appear between two digits"], located⟩,
    ⟨.error, "kept", [⟨0, ⟨0, 1⟩, .error, "here"⟩], [], located⟩]

theorem golden_independent_interleaved :
    let one : Journal := ⟨0, ⟨⟨true, true, true⟩, listedForBoth true⟩⟩
    let other : Journal := ⟨0, ⟨⟨false, false, true⟩, listedForBoth false⟩⟩
    ∃ last outcomes, Workspace.initial.run doneToBoth = some (last, outcomes) ∧
      last.journals = [one, other] ∧
      one.report.renderGolden (last.storeFiles 0) =
        other.report.renderGolden (last.storeFiles 0) := by
  intro one other
  have finished : (Workspace.initial.run doneToBoth).map (fun result => result.1.journals) =
      some [one, other] := by decide +kernel
  have deeds : Workspace.initial.deeds 0 doneToBoth = Workspace.initial.deeds 1 doneToBoth := by
    decide +kernel
  obtain ⟨⟨last, outcomes⟩, ran, journals⟩ := Option.map_eq_some_iff.1 finished
  have here : last.journals[0]? = some one := congrArg (fun entries => entries[0]?) journals
  have there : last.journals[1]? = some other := congrArg (fun entries => entries[1]?) journals
  obtain ⟨golden, -, -⟩ := golden_independent ran ran rfl rfl here there rfl rfl deeds
  exact ⟨last, outcomes, ran, journals, golden⟩

end Numeral
