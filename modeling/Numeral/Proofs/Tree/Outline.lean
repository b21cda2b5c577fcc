import Numeral.Proofs.Results
import Numeral.Proofs.Tree.Origin

set_option autoImplicit false

namespace Numeral

theorem Range.print_inj {range other : Range} {rest more : Text}
    (stops : ∀ c ∈ rest.head?, ¬c.isDigit = true) (ends : ∀ c ∈ more.head?, ¬c.isDigit = true)
    (same : range.print.toList ++ rest = other.print.toList ++ more) : range = other := by
  simp only [print, String.toList_append, List.append_assoc] at same
  obtain ⟨starts, dotted⟩ := number_inj (by simp) (by simp) same
  obtain ⟨stops, -⟩ := number_inj stops ends (List.append_cancel_left dotted)
  cases range
  cases other
  simp_all

namespace Node

variable {depth : Nat} {text : String} {node : Node}

theorem outlineLine_isLine (unbroken : OneLine text) :
    Text.IsLine (node.outlineLine depth text).toList := by
  have indent : OneLine (String.ofList (List.replicate (2 * depth) ' ')) :=
    oneLine_ofList fun member => absurd (List.eq_of_mem_replicate member) (by decide)
  have blank : OneLine " " := oneLine_ofList (by decide)
  have scope : OneLine (node.tag.scope?.elim "" fun scope => " " ++ scope) := by
    cases here : node.tag.scope? with
    | none => exact oneLine_ofList (by decide)
    | some scope => exact blank.append (Tag.scope_wordy here).oneLine
  exact OneLine.isLine (((((indent.append node.tag.title_wordy.oneLine).append blank).append
    node.range.print_oneLine).append unbroken).append scope)

def outlineEnd (node : Node) : Text :=
  (node.tag.scope?.elim "" fun scope => " " ++ scope).toList ++ [Text.newline]

theorem outlineEnd_head (node : Node) : ∀ c ∈ node.outlineEnd.head?, ¬c.isDigit = true := by
  unfold outlineEnd
  cases node.tag.scope? with
  | none => simp [Text.newline]
  | some scope => simp

theorem outlineLine_words (depth : Nat) (node : Node) :
    (node.outlineLine depth "").toList = List.replicate (2 * depth) ' ' ++
      ((node.tag.title.toList ++ [' ']) ++ (node.range.print.toList ++ node.outlineEnd)) := by
  simp [outlineLine, outlineEnd, Text.newline]

theorem outlineLine_inj {other : Node} {deeper : Nat} (known : node.tag ∈ Tag.possible)
    (also : other.tag ∈ Tag.possible)
    (same : node.outlineLine depth "" = other.outlineLine deeper "") :
    depth = deeper ∧ node.tag = other.tag ∧ node.range = other.range := by
  have blanks (n : Nat) : ∀ c ∈ List.replicate n ' ', c = ' ' := fun c => List.eq_of_mem_replicate
  have visible (tag : Tag) (rest : Text) :
      ∀ c ∈ ((tag.title.toList ++ [' ']) ++ rest).head?, ¬c = ' ' := by
    obtain ⟨d, ds, starts, visible⟩ := tag.title_unindented
    simp [starts, visible]
  have words (tag : Tag) : ∀ c ∈ tag.title.toList ++ [' '], ¬c.isDigit = true := by
    have title : ∀ c ∈ tag.title.toList, ¬c.isDigit = true := by
      simpa using fun c member => (tag.title_wordy c member).1
    exact List.forall_mem_append.2 ⟨title, by simp⟩
  have digit (range : Range) (rest : Text) :
      ∀ c ∈ (range.print.toList ++ rest).head?, ¬¬c.isDigit = true := by
    intro c first
    simp only [Range.print, String.toList_append, List.append_assoc] at first
    exact not_not.2 (number_head _ _ c first)
  -- blanks, then words without a digit, then a range: each stops where the characters change
  have chars := congrArg String.toList same
  rw [outlineLine_words, outlineLine_words] at chars
  obtain ⟨indents, lines⟩ := append_inj_of_head (blanks _) (blanks _) (visible _ _) (visible _ _)
    chars
  obtain ⟨titles, places⟩ := append_inj_of_head (words _) (words _) (digit _ _) (digit _ _) lines
  have depths := congrArg List.length indents
  simp only [List.length_replicate] at depths
  have tags := Tag.title_inj _ known _ also (String.toList_inj.1 (List.append_cancel_right titles))
  exact ⟨by omega, tags, Range.print_inj node.outlineEnd_head other.outlineEnd_head places⟩

end Node

namespace Node

def told (visit : Nat × Node) : Nat × Tag × Range :=
  (visit.1, visit.2.tag, visit.2.range)

theorem visits_nil (depth : Nat) : visits depth [] = [] := by
  simp [visits, siblings]

theorem visits_deep {start stop : Nat} {entries : List Entry}
    (nested : Nested start stop entries) (depth : Nat) :
    ∀ visit ∈ visits depth entries, depth ≤ visit.1 := by
  induction nested generalizing depth with
  | nil => simp [visits_nil]
  | cons _ counted _ _ inner outer =>
    rw [visits_cons _ _ counted]
    have below := fun visit member => Nat.le_of_succ_le (inner (depth + 1) visit member)
    exact List.forall_mem_cons.2 ⟨Nat.le_refl _, List.forall_mem_append.2 ⟨below, outer depth⟩⟩

theorem visits_head {start stop : Nat} {entries : List Entry}
    (nested : Nested start stop entries) (depth : Nat) :
    ∀ visit ∈ (visits depth entries).head?, visit.1 = depth := by
  cases nested with
  | nil => simp [visits_nil]
  | cons _ counted _ _ =>
    rw [visits_cons _ _ counted]
    simp

/-- Depths tell what is below an entry: all that comes before the next one as deep as itself. -/
theorem eq_of_told {start stop first last : Nat} {entries others : List Entry}
    (nested : Nested start stop entries) (also : Nested first last others) (depth : Nat)
    (same : (visits depth entries).map told = (visits depth others).map told) :
    entries = others := by
  induction nested generalizing first last others depth with
  | nil =>
    have length := congrArg List.length same
    rw [visits_nil, List.length_map, List.length_map, length_visits also] at length
    exact (List.length_eq_zero_iff.1 length.symm).symm
  | @cons _ _ entry below rest _ counted inner outer deeper later =>
    cases also with
    | nil =>
      rw [visits_cons _ _ counted, visits_nil] at same
      simp at same
    | @cons _ _ other under behind _ counts within beyond =>
      rw [visits_cons _ _ counted, visits_cons _ _ counts] at same
      simp only [List.map_cons, List.map_append, List.cons.injEq] at same
      -- all that is below comes in front of the first line on the level again
      have deep {a b : Nat} {entries : List Entry} (nested : Nested a b entries) :
          ∀ line ∈ (visits (depth + 1) entries).map told, depth < line.1 :=
        List.forall_mem_map.2 (visits_deep nested (depth + 1))
      have level {a b : Nat} {entries : List Entry} (nested : Nested a b entries) :
          ∀ line ∈ ((visits depth entries).map told).head?, ¬depth < line.1 := by
        rw [List.head?_map]
        intro line member
        obtain ⟨visit, first, rfl⟩ := Option.mem_map.1 member
        exact Nat.not_lt.2 (Nat.le_of_eq (visits_head nested depth visit first))
      obtain ⟨lower, after⟩ := append_inj_of_head (deep inner) (deep within) (level outer)
        (level beyond) same.2
      obtain rfl := deeper within (depth + 1) lower
      obtain rfl := later beyond depth after
      have entries : entry = other := by
        have here := same.1
        cases entry
        cases other
        simp_all [told, tag, range]
      rw [entries]

end Node

namespace Tree

theorem walkFrom_entries (index : Nat) (ends : List Nat) (entries : List Entry) :
    (walkFrom index ends entries).map (fun visit => visit.2.entry) = entries := by
  induction entries generalizing index ends with
  | nil => rfl
  | cons entry rest ih => simp [walkFrom, ih]

theorem walk_entries (tree : Tree) : tree.walk.map (fun visit => visit.2.entry) = tree.entries :=
  walkFrom_entries 0 [] tree.entries

theorem length_walk (tree : Tree) : tree.walk.length = tree.size := by
  rw [size, ← walk_entries, List.length_map]

theorem outline_lines (tree : Tree) : tree.outline.toList =
    (tree.walk.map fun visit => (visit.2.outlineLine visit.1 "").toList).flatten := by
  simp [outline, String.toList_join, List.flatMap_def, Function.comp_def]

theorem lines_isLine (tree : Tree) :
    ∀ line ∈ tree.walk.map fun visit => (visit.2.outlineLine visit.1 "").toList,
      Text.IsLine line :=
  List.forall_mem_map.2 fun _ _ => Node.outlineLine_isLine (oneLine_ofList (by decide))

theorem length_lines_outline (tree : Tree) :
    (Text.lines tree.outline.toList).length = tree.size := by
  rw [outline_lines, Text.length_lines_flatten tree.lines_isLine, List.length_map, length_walk]

theorem entries_inj {tree other : Tree} : tree.entries = other.entries ↔ tree = other := by
  cases tree
  cases other
  simp only [entries, List.cons.injEq, Entry.mk.injEq, Tag.literal.injEq, Tree.mk.injEq]
  constructor
  next => exact fun same => ⟨same.1.1, same.1.2.1, same.2⟩
  next => exact fun same => ⟨⟨same.1, same.2.1, congrArg List.length same.2.2⟩, same.2.2⟩

variable {text : Text} {tree : Tree}

theorem HeldBy.walk_eq (held : tree.HeldBy text) : tree.walk = Node.visits 0 tree.entries := by
  obtain ⟨others, -, same⟩ := walkFrom_eq held.nested 0 [] [] (by simp) (by simp) []
  simpa [walkFrom, walk] using same

theorem HeldBy.walk_tags (held : tree.HeldBy text) :
    ∀ visit ∈ tree.walk, visit.2.tag ∈ Tag.possible := by
  intro visit member
  refine held.tags visit.2.entry ?_
  rw [← walk_entries]
  exact List.mem_map_of_mem member

theorem told_of_lines {first second : List (Nat × Node)}
    (known : ∀ visit ∈ first, visit.2.tag ∈ Tag.possible)
    (also : ∀ visit ∈ second, visit.2.tag ∈ Tag.possible)
    (same : first.map (fun visit => (visit.2.outlineLine visit.1 "").toList) =
      second.map fun visit => (visit.2.outlineLine visit.1 "").toList) :
    first.map Node.told = second.map Node.told := by
  induction first generalizing second with
  | nil =>
    cases second with
    | nil => rfl
    | cons visit second => simp at same
  | cons visit first ih =>
    cases second with
    | nil => simp at same
    | cons other second =>
      obtain ⟨here, later⟩ := List.cons.inj same
      obtain ⟨depth, tag, range⟩ := Node.outlineLine_inj (known visit List.mem_cons_self)
        (also other List.mem_cons_self) (String.toList_inj.1 here)
      have rest := ih (fun visit member => known visit (List.mem_cons_of_mem _ member))
        (fun visit member => also visit (List.mem_cons_of_mem _ member)) later
      simp [Node.told, depth, tag, range, rest]

theorem outline_inj {other : Tree} {source : Text} (held : tree.HeldBy text)
    (also : other.HeldBy source) (same : tree.outline = other.outline) : tree = other := by
  have chars := congrArg String.toList same
  rw [outline_lines, outline_lines] at chars
  have lines := Text.flatten_lines_inj tree.lines_isLine other.lines_isLine chars
  have told := told_of_lines held.walk_tags also.walk_tags lines
  rw [held.walk_eq, also.walk_eq] at told
  exact entries_inj.1 (Node.eq_of_told held.nested also.nested 0 told)

theorem exists_outlineIn (readable : Readable text tree.entries) :
    ∃ outline, tree.outlineIn text = .ok outline ∧
      (Text.lines outline.toList).length = tree.size := by
  let line (visit : Nat × Node) (chars : Text) : String :=
    visit.2.outlineLine visit.1 (" " ++ Text.Quoting.excerpt.quote chars)
  have each : ∀ visit ∈ tree.walk, ∃ result, (visit.2.range.text text).map (line visit) =
      .ok result ∧ Text.IsLine result.toList := by
    intro visit member
    have listed : visit.2.entry ∈ tree.entries := by
      rw [← walk_entries]
      exact List.mem_map_of_mem member
    obtain ⟨chars, read⟩ := readable _ listed
    have blank : OneLine " " := oneLine_ofList (by decide)
    refine ⟨line visit chars, ?_, Node.outlineLine_isLine
      (blank.append (Text.Quoting.excerpt.quote_oneLine chars))⟩
    rw [Node.range, read]
    rfl
  obtain ⟨lines, related⟩ := exists_forall₂ each
  have made : tree.outlineLinesIn text = .ok lines :=
    (mapM_ok_iff _ _ _).2 (related.imp fun _ _ both => both.1)
  have printed : ∀ part ∈ lines.map String.toList, Text.IsLine part :=
    List.forall_mem_map.2 (forall_right (related.imp fun _ _ both => both.2))
  refine ⟨String.join lines, by rw [outlineIn, made]; rfl, ?_⟩
  rw [String.toList_join, List.flatMap_def, Text.length_lines_flatten printed, List.length_map,
    ← related.length_eq, length_walk]

theorem outline_determines {source : Text} {other : Tree} (made : tree.MadeFrom text)
    (again : other.MadeFrom source) :
    (tree.outline = other.outline → tree = other) ∧
      (Text.lines tree.outline.toList).length = tree.size ∧
      ∃ outline, tree.outlineIn text = .ok outline ∧
        (Text.lines outline.toList).length = tree.size :=
  ⟨outline_inj made.heldBy again.heldBy, tree.length_lines_outline,
    exists_outlineIn made.heldBy.readable⟩

theorem outline_determines_broken :
    ∃ tree other outline, classify ['1', '\n', '_', '0'] 0 4 = .ok tree ∧
      classify ['1', '_', '0'] 0 3 = .ok other ∧ tree.outline ≠ other.outline ∧
      tree.outlineIn ['1', '\n', '_', '0'] = .ok outline ∧
      (Text.lines outline.toList).length = 1 := by
  let parts : List Entry := [⟨.digits .decimal, ⟨0, 3⟩, 1⟩, ⟨.separator, ⟨1, 2⟩, 0⟩]
  have broken : classify ['1', '\n', '_', '0'] 0 4 = .ok (.invalid ⟨0, 4⟩) := rfl
  have whole : classify ['1', '_', '0'] 0 3 = .ok ⟨.int .decimal false, ⟨0, 3⟩, parts⟩ := rfl
  obtain ⟨same, -, outline, printed, lines⟩ :=
    outline_determines (.classified broken) (.classified whole)
  have differ : Tree.invalid ⟨0, 4⟩ ≠ ⟨.int .decimal false, ⟨0, 3⟩, parts⟩ := by decide
  exact ⟨_, _, outline, broken, whole, fun equal => differ (same equal), printed, lines⟩

end Tree

end Numeral
