import Numeral.Pattern.Comparison
import Numeral.Proofs.Tree.Outline

set_option autoImplicit false

namespace Numeral

namespace Comparison

def noteAll (state : Comparison) (found : List Mismatch) : Comparison :=
  { state with
    kept := state.kept ++ found.take (room - state.count)
    count := state.count + found.length }

section

variable (state : Comparison)

@[simp] theorem stack_noteAll (found : List Mismatch) :
    (state.noteAll found).stack = state.stack := rfl

@[simp] theorem noteAll_nil : state.noteAll [] = state := by
  simp [noteAll]

theorem noteAll_append (first rest : List Mismatch) :
    state.noteAll (first ++ rest) = (state.noteAll first).noteAll rest := by
  simp [noteAll, List.take_append, Nat.sub_sub, Nat.add_assoc]

theorem note_eq (reason : Mismatch.Reason) :
    state.note reason = state.noteAll [⟨state.stack.reverse, reason⟩] := by
  by_cases fits : state.count < room
  next =>
    have left : room - state.count = (room - state.count - 1) + 1 := by omega
    rw [noteAll, left]
    simp [note, fits]
  next =>
    have full : room - state.count = 0 := by omega
    simp [note, noteAll, fits, full]

theorem leave_advance {index : Nat} {above : List Nat} (here : state.stack = index :: above)
    (found : List Mismatch) :
    (state.noteAll found).advance.leave = state.leave.noteAll found := by
  simp [advance, leave, noteAll, here]

theorem compareTag_eq (wanted : Tag) (node : Node) :
    state.compareTag wanted node =
      state.noteAll (Pattern.ofTag state.stack.reverse wanted node) := by
  by_cases same : wanted = node.tag <;> simp [compareTag, Pattern.ofTag, same, note_eq]

theorem compareText_eq (source : Text) (wanted : Wanted) (node : Node) :
    state.compareText source wanted node =
      (Pattern.ofText source state.stack.reverse wanted node).map state.noteAll := by
  unfold compareText Pattern.ofText
  cases wanted.accepts source node.range with
  | error fault => rfl
  | ok accepted =>
    cases accepted with
    | true => simp [bind, Except.bind, pure, Except.pure, Except.map]
    | false =>
      cases node.range.text source with
      | error fault => rfl
      | ok found => simp [bind, Except.bind, pure, Except.pure, Except.map, note_eq]

end

mutual

theorem compare_eq (source : Text) : ∀ (pattern : Pattern) (node : Node) (state : Comparison),
    compare source pattern node state =
      (pattern.mismatches source state.stack.reverse node).map state.noteAll
  | .node tag wanted patterns, found, state => by
    rw [compare, Pattern.mismatches, compareTag_eq, compareText_eq, stack_noteAll]
    cases Pattern.ofText source state.stack.reverse wanted found with
    | error fault => rfl
    | ok here =>
      -- a node's own mismatches are noted before it is entered
      let noted := (state.noteAll (Pattern.ofTag state.stack.reverse tag found)).noteAll here
      change compareChildren source patterns found.children noted.enter = _
      rw [compareChildren_eq source patterns found.children 0 state.stack noted.enter rfl]
      change _ = (Pattern.childMismatches source state.stack.reverse 0 patterns found.children >>=
        fun below => .ok (Pattern.ofTag state.stack.reverse tag found ++ here ++ below)).map _
      cases Pattern.childMismatches source state.stack.reverse 0 patterns found.children with
      | error fault => rfl
      | ok below =>
        change Except.ok (noted.noteAll below) = Except.ok (state.noteAll _)
        rw [noteAll_append, noteAll_append]

theorem compareChildren_eq (source : Text) : ∀ (patterns : List Pattern) (nodes : List Node)
    (index : Nat) (above : List Nat) (state : Comparison), state.stack = index :: above →
    compareChildren source patterns nodes state =
      (Pattern.childMismatches source above.reverse index patterns nodes).map state.leave.noteAll
  | [], [], index, above, state, here => by
    rw [compareChildren, Pattern.childMismatches]
    simp [pure, Except.pure, Except.map]
  | pattern :: patterns, child :: children, index, above, state, here => by
    -- the number on top of the stack is that of the pair looked at
    have path : state.stack.reverse = above.reverse ++ [index] := by rw [here, List.reverse_cons]
    rw [compareChildren, Pattern.childMismatches, compare_eq source pattern child state, path]
    cases pattern.mismatches source (above.reverse ++ [index]) child with
    | error fault => rfl
    | ok first =>
      have next : (state.noteAll first).advance.stack = (index + 1) :: above := by
        simp [advance, here]
      change compareChildren source patterns children (state.noteAll first).advance = _
      rw [compareChildren_eq source patterns children (index + 1) above _ next,
        leave_advance state here]
      change _ = (Pattern.childMismatches source above.reverse (index + 1) patterns children >>=
        fun rest => .ok (first ++ rest)).map _
      cases Pattern.childMismatches source above.reverse (index + 1) patterns children with
      | error fault => rfl
      | ok rest =>
        change Except.ok _ = Except.ok _
        rw [noteAll_append]
  | [], _ :: _, index, above, state, here => by
    rw [compareChildren, Pattern.childMismatches]
    simp [leaveUneven, note_eq, leave, here, pure, Except.pure, Except.map]
  | _ :: _, [], index, above, state, here => by
    rw [compareChildren, Pattern.childMismatches]
    simp [leaveUneven, note_eq, leave, here, pure, Except.pure, Except.map]

end

end Comparison

namespace Wanted

def Fits (wanted : Wanted) (chars : Text) (range : Range) : Prop :=
  (wanted.text = none ∨ wanted.text = some chars) ∧
    (wanted.range = none ∨ wanted.range = some range)

instance (wanted : Wanted) (chars : Text) (range : Range) : Decidable (wanted.Fits chars range) :=
  inferInstanceAs (Decidable (_ ∧ _))

theorem accepts_eq {source chars : Text} {range : Range} (wanted : Wanted)
    (read : range.text source = .ok chars) :
    wanted.accepts source range = .ok (decide (wanted.Fits chars range)) := by
  obtain ⟨text, place⟩ := wanted
  cases text <;> cases place <;>
    simp [accepts, Fits, read, bind, Except.bind, pure, Except.pure, beq_eq_decide, eq_comm]

def told : Wanted → String
  | ⟨none, none⟩ => "<any>"
  | ⟨some text, none⟩ => Text.Quoting.wanted.quote text
  | ⟨none, some range⟩ => "<any> @ " ++ (toString range.start ++ ".." ++ toString range.stop)
  | ⟨some text, some range⟩ =>
    Text.Quoting.wanted.quote text ++ " @ " ++ (toString range.start ++ ".." ++ toString range.stop)

theorem print_eq_told (wanted : Wanted) : wanted.print = wanted.told := by
  obtain ⟨text, place⟩ := wanted
  cases text <;> cases place <;> rfl

theorem print_oneLine (wanted : Wanted) : OneLine wanted.print := by
  have text : OneLine (wanted.text.elim "<any>" Text.Quoting.wanted.quote) := by
    cases wanted.text with
    | none => exact oneLine_ofList (by decide)
    | some text => exact Text.Quoting.wanted.quote_oneLine text
  cases place : wanted.range with
  | none => simpa only [print, place] using text
  | some range =>
    have between : OneLine " @ " := oneLine_ofList (by decide)
    simpa only [print, place] using (text.append between).append range.print_oneLine

end Wanted

namespace Mismatch

theorem Reason.print_oneLine (reason : Reason) : OneLine reason.print := by
  cases reason with
  | tag wanted found =>
    have start : OneLine "wrong tag; want " := oneLine_ofList (by decide)
    have comma : OneLine ", got " := oneLine_ofList (by decide)
    exact ((start.append wanted.print_wordy.oneLine).append comma).append found.print_wordy.oneLine
  | text wanted found range =>
    have start : OneLine "wrong node text; want " := oneLine_ofList (by decide)
    have comma : OneLine ", got " := oneLine_ofList (by decide)
    have place : OneLine " @ " := oneLine_ofList (by decide)
    have quoted := Text.Quoting.excerpt.quote_oneLine found
    exact ((((start.append wanted.print_oneLine).append comma).append quoted).append place).append
      range.print_oneLine
  | childCount compared =>
    have start : OneLine "children had unequal lengths (got to " := oneLine_ofList (by decide)
    have close : OneLine ")" := oneLine_ofList (by decide)
    exact (start.append (oneLine_number compared)).append close

theorem print_isLine (mismatch : Mismatch) : Text.IsLine mismatch.print.toList := by
  have root : OneLine "at root" := oneLine_ofList (by decide)
  have colon : OneLine ": " := oneLine_ofList (by decide)
  have opened : OneLine "[" := oneLine_ofList (by decide)
  have closed : OneLine "]" := oneLine_ofList (by decide)
  have path : OneLine (String.join (mismatch.path.map fun index => "[" ++ toString index ++ "]")) :=
    oneLine_join (List.forall_mem_map.2 fun index _ =>
      (opened.append (oneLine_number index)).append closed)
  exact (((root.append path).append colon).append mismatch.reason.print_oneLine).isLine

-- every word of a message is written out here, for what is printed to be held against
def Reason.told : Reason → String
  | .tag wanted found => "wrong tag; want " ++ wanted.print ++ ", got " ++ found.print
  | .text wanted found range =>
    "wrong node text; want " ++ wanted.told ++ ", got " ++ Text.Quoting.excerpt.quote found ++
      " @ " ++ (toString range.start ++ ".." ++ toString range.stop)
  | .childCount compared => "children had unequal lengths (got to " ++ toString compared ++ ")"

def told (mismatch : Mismatch) : String :=
  "at root" ++ String.join (mismatch.path.map fun index => "[" ++ toString index ++ "]") ++
    ": " ++ mismatch.reason.told ++ "\n"

theorem Reason.print_eq_told (reason : Reason) : reason.print = reason.told := by
  unfold print told
  cases reason with
  | text wanted found range =>
    dsimp only
    rw [wanted.print_eq_told, Range.print]
  | _ => rfl

theorem print_eq_told (mismatch : Mismatch) : mismatch.print = mismatch.told := by
  rw [print, told, mismatch.reason.print_eq_told]

theorem told_isLine (mismatch : Mismatch) : Text.IsLine mismatch.told.toList := by
  rw [← print_eq_told]
  exact mismatch.print_isLine

def report (found : List Mismatch) : String :=
  String.join ((found.take 10).map told) ++
    if 10 < found.length then
      "... and " ++ toString (found.length - 10) ++ " more errors\n"
    else ""

end Mismatch

theorem Comparison.print_noteAll (found : List Mismatch) :
    (start.noteAll found).print = Mismatch.report found := by
  have lines : Mismatch.print = Mismatch.told := funext Mismatch.print_eq_told
  simp [print, noteAll, start, room, Mismatch.report, lines]

namespace Pattern

variable {source : Text}

theorem childMismatches_eq (path : List Nat) (index : Nat) (patterns : List Pattern)
    (nodes : List Node) :
    childMismatches source path index patterns nodes =
      (((patterns.zip nodes).zipIdx index).mapM fun pair =>
        mismatches source (path ++ [pair.2]) pair.1.1 pair.1.2).map fun found =>
          found.flatten ++ if patterns.length = nodes.length then []
            else [⟨path, .childCount (index + min patterns.length nodes.length)⟩] := by
  induction patterns generalizing index nodes with
  | nil => cases nodes <;> simp [childMismatches, pure, Except.pure, Except.map]
  | cons pattern patterns ih =>
    cases nodes with
    | nil => simp [childMismatches, pure, Except.pure, Except.map]
    | cons child children =>
      have compared : index + 1 + min patterns.length children.length =
          index + min (patterns.length + 1) (children.length + 1) := by omega
      rw [childMismatches, ih, List.zip_cons_cons, List.zipIdx_cons, List.mapM_cons, compared]
      simp only [List.length_cons, Nat.add_right_cancel_iff]
      cases mismatches source (path ++ [index]) pattern child with
      | error fault => rfl
      | ok first =>
        cases ((patterns.zip children).zipIdx (index + 1)).mapM fun pair =>
            mismatches source (path ++ [pair.2]) pair.1.1 pair.1.2 with
        | error fault => rfl
        | ok rest => simp [bind, Except.bind, pure, Except.pure, Except.map]

theorem ofText_eq {chars : Text} (path : List Nat) (wanted : Wanted) {found : Node}
    (read : found.range.text source = .ok chars) :
    ofText source path wanted found =
      .ok (if wanted.Fits chars found.range then []
        else [⟨path, .text wanted chars found.range⟩]) := by
  rw [ofText, wanted.accepts_eq read, read]
  by_cases fits : wanted.Fits chars found.range <;>
    simp [fits, bind, Except.bind, pure, Except.pure]

theorem mismatches_node {chars : Text} (path : List Nat) (tag : Tag) (wanted : Wanted)
    (patterns : List Pattern) {found : Node} (read : found.range.text source = .ok chars) :
    mismatches source path (.node tag wanted patterns) found =
      ((patterns.zip found.children).zipIdx.mapM fun pair =>
        mismatches source (path ++ [pair.2]) pair.1.1 pair.1.2).map fun below =>
          (if tag = found.tag then [] else [⟨path, .tag tag found.tag⟩]) ++
          (if wanted.Fits chars found.range then []
            else [⟨path, .text wanted chars found.range⟩]) ++
          below.flatten ++
          (if patterns.length = found.children.length then []
            else [⟨path, .childCount (min patterns.length found.children.length)⟩]) := by
  rw [mismatches, childMismatches_eq, ofText_eq path wanted read, ofTag]
  cases (patterns.zip found.children).zipIdx.mapM fun pair =>
      mismatches source (path ++ [pair.2]) pair.1.1 pair.1.2 with
  | error fault => rfl
  | ok below => simp [bind, Except.bind, pure, Except.pure, Except.map]

mutual

theorem exists_mismatches : ∀ (pattern : Pattern) (path : List Nat) (found : Node),
    Readable source (found.entry :: found.below) →
      ∃ all, pattern.mismatches source path found = .ok all
  | .node tag wanted patterns, path, found, readable => by
    obtain ⟨own, below⟩ := List.forall_mem_cons.1 readable
    obtain ⟨chars, read⟩ := own
    have first := ofText_eq path wanted read
    have each : ∀ child ∈ found.children, Readable source (child.entry :: child.below) := by
      intro child member entry listed
      refine below entry ?_
      rw [← siblings_flatMap found.below]
      exact List.mem_flatMap.2 ⟨child, member, listed⟩
    obtain ⟨later, second⟩ := exists_childMismatches patterns path 0 found.children each
    exact ⟨_, by rw [mismatches, first, second]; rfl⟩

theorem exists_childMismatches : ∀ (patterns : List Pattern) (path : List Nat) (index : Nat)
    (children : List Node),
    (∀ child ∈ children, Readable source (child.entry :: child.below)) →
      ∃ all, childMismatches source path index patterns children = .ok all
  | [], path, index, [], _ => ⟨[], by rw [childMismatches]; rfl⟩
  | pattern :: patterns, path, index, child :: children, each => by
    obtain ⟨readable, others⟩ := List.forall_mem_cons.1 each
    obtain ⟨here, first⟩ := exists_mismatches pattern (path ++ [index]) child readable
    obtain ⟨later, second⟩ := exists_childMismatches patterns path (index + 1) children others
    exact ⟨_, by rw [childMismatches, first, second]; rfl⟩
  | [], path, index, _ :: _, _ => ⟨_, by rw [childMismatches]; rfl⟩
  | _ :: _, path, index, [], _ => ⟨_, by rw [childMismatches]; rfl⟩

end

theorem explain_eq {text : Text} {tree : Tree} (readable : Readable text tree.entries)
    (pattern : Pattern) :
    ∃ found outline, pattern.mismatches text [] tree.root = .ok found ∧
      tree.outlineIn text = .ok outline ∧
      pattern.explain? text tree =
        .ok (if found = [] then none else some (Mismatch.report found ++ "\n" ++ outline)) := by
  obtain ⟨found, listed⟩ := exists_mismatches pattern [] tree.root readable
  obtain ⟨outline, printed, -⟩ := Tree.exists_outlineIn readable
  have compared : Comparison.compare text pattern tree.root .start =
      .ok (Comparison.start.noteAll found) := by
    rw [Comparison.compare_eq]
    exact congrArg (Except.map _) listed
  refine ⟨found, outline, listed, printed, ?_⟩
  rw [explain?, compared]
  cases found with
  | nil => rfl
  | cons first rest =>
    rw [if_neg (List.cons_ne_nil _ _), ← Comparison.print_noteAll]
    simp [bind, Except.bind, pure, Except.pure, printed, Comparison.noteAll, Comparison.start]

/-- A tree that does not match is answered with its mismatches, node by node, and its outline. The
path is left as it was by every part of the comparison. -/
theorem explain_mismatches {text : Text} {tree : Tree} (made : tree.MadeFrom text)
    (pattern : Pattern) :
    ∃ found outline, pattern.mismatches text [] tree.root = .ok found ∧
      tree.outlineIn text = .ok outline ∧
      pattern.explain? text tree =
        .ok (if found = [] then none else some (Mismatch.report found ++ "\n" ++ outline)) ∧
      (∀ mismatch ∈ found, Text.IsLine mismatch.told.toList) ∧
      (∀ path tag wanted patterns (node : Node) chars, node.range.text text = .ok chars →
        mismatches text path (.node tag wanted patterns) node =
          ((patterns.zip node.children).zipIdx.mapM fun pair =>
            mismatches text (path ++ [pair.2]) pair.1.1 pair.1.2).map fun below =>
              (if tag = node.tag then [] else [⟨path, .tag tag node.tag⟩]) ++
              (if wanted.Fits chars node.range then []
                else [⟨path, .text wanted chars node.range⟩]) ++
              below.flatten ++
              (if patterns.length = node.children.length then []
                else [⟨path, .childCount (min patterns.length node.children.length)⟩])) ∧
      ∀ (part : Pattern) (node : Node) (state after : Comparison),
        Comparison.compare text part node state = .ok after → after.stack = state.stack := by
  obtain ⟨found, outline, listed, printed, explained⟩ := explain_eq made.heldBy.readable pattern
  refine ⟨found, outline, listed, printed, explained, ?_, ?_, ?_⟩
  next =>
    intro mismatch member
    exact mismatch.told_isLine
  next =>
    intro path tag wanted patterns node chars read
    exact mismatches_node path tag wanted patterns read
  next =>
    intro part node state after done
    rw [Comparison.compare_eq] at done
    cases all : part.mismatches text state.stack.reverse node with
    | error fault =>
      rw [all] at done
      cases done
    | ok noted =>
      rw [all] at done
      cases done
      rfl

theorem explain_mismatches_nested :
    ∃ (pattern : Pattern) (tree : Tree) (found : List Mismatch) (outline : String),
      classify ['1', '_', '0'] 0 3 = .ok tree ∧
      pattern.explain? ['1', '_', '0'] tree =
        .ok (some (Mismatch.report found ++ "\n" ++ outline)) ∧
      found.map Mismatch.told =
        ["at root: wrong tag; want Literal(Invalid), " ++
            "got Literal(Int \x7b radix: Decimal, imaginary: false \x7d)\n",
          "at root[0]: wrong tag; want Point(Decimal), got Digits(Decimal)\n",
          "at root[0][0]: wrong node text; want \".\", got \"_\" @ 1..2\n",
          "at root[0][0]: children had unequal lengths (got to 0)\n",
          "at root: children had unequal lengths (got to 1)\n"] := by
  let leaf (tag : Tag) : Pattern := .node tag .any []
  let separator : Pattern := .node .separator ⟨some ['.'], none⟩ [leaf .imaginary]
  let pattern : Pattern :=
    .node (.literal .invalid) .any [.node (.point .decimal) .any [separator], leaf .imaginary]
  let tree : Tree :=
    ⟨.int .decimal false, ⟨0, 3⟩, [⟨.digits .decimal, ⟨0, 3⟩, 1⟩, ⟨.separator, ⟨1, 2⟩, 0⟩]⟩
  let listed : List Mismatch :=
    [⟨[], .tag (.literal .invalid) (.literal (.int .decimal false))⟩,
      ⟨[0], .tag (.point .decimal) (.digits .decimal)⟩,
      ⟨[0, 0], .text ⟨some ['.'], none⟩ ['_'] ⟨1, 2⟩⟩, ⟨[0, 0], .childCount 0⟩, ⟨[], .childCount 1⟩]
  have classified : classify ['1', '_', '0'] 0 3 = .ok tree := rfl
  have mismatched : pattern.mismatches ['1', '_', '0'] [] tree.root = .ok listed := by
    decide +kernel
  obtain ⟨found, outline, same, -, explained, -⟩ :=
    explain_mismatches (.classified classified) pattern
  obtain rfl := Except.ok.inj (same.symm.trans mismatched)
  exact ⟨pattern, tree, listed, outline, classified, explained, rfl⟩

end Pattern

end Numeral
