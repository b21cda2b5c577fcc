import Numeral.Proofs.Search.Totality
import Numeral.Proofs.Tree.Traversal

set_option autoImplicit false

namespace Numeral

open Grammar

/-- A tree in layers: counts and ranges tell the same nesting, and so do both ways through it. -/
structure Tree.Layered (tree : Tree) : Prop where
  reach : ∀ i entry, tree.entries[i]? = some entry → i + entry.descendants < tree.size
  root_reach : tree.entries[0]? = some tree.root.entry ∧
    tree.root.entry.descendants + 1 = tree.size
  inside : ∀ i j (first second : Entry),
    tree.entries[i]? = some first → tree.entries[j]? = some second →
    i < j → j ≤ i + first.descendants →
    j + second.descendants ≤ i + first.descendants ∧ first.range.contains second.range = true
  behind : ∀ i j (first second : Entry),
    tree.entries[i]? = some first → tree.entries[j]? = some second →
    i + first.descendants < j → first.range.stop ≤ second.range.start
  nonempty : ∀ part ∈ tree.parts, part.range.start < part.range.stop
  children_inside : ∀ i node, Node.at? tree.entries i = some node →
    ∀ child ∈ node.children, node.range.contains child.range = true
  children_increasing : ∀ i node, Node.at? tree.entries i = some node →
    node.children.Pairwise fun first second => first.range.stop ≤ second.range.start
  children_at : ∀ i node, Node.at? tree.entries i = some node →
    ∃ numbers, Node.childrenAt tree.entries i = .ok numbers ∧
      numbers.map (Node.at? tree.entries) = node.children.map some
  leaf_iff : ∀ i node, Node.at? tree.entries i = some node →
    (node.isLeaf = true ↔ node.children = [])
  walk_at : ∀ i, tree.walk[i]? = (Node.at? tree.entries i).map fun node =>
    ((Node.ancestors tree.entries i).length, node)
  preorder_eq : tree.root.preorder 0 = tree.walk
  size_le : tree.size ≤ 1 + tree.range.length
  counts : ∀ entry ∈ tree.entries, Search.countOf entry.descendants = entry.descendants

namespace Tree

section

variable {tree : Tree} (nested : Nested tree.range.start tree.range.stop tree.parts)

include nested

theorem nested_entries : Nested tree.range.start tree.range.stop tree.entries := by
  have order := nested.order
  have closed : Nested tree.range.stop tree.range.stop [] := .nil (Nat.le_refl _)
  have rooted : Nested tree.range.start tree.range.stop (tree.root.entry :: (tree.parts ++ [])) :=
    .cons (Nat.le_refl _) rfl nested closed
  rwa [List.append_nil] at rooted

theorem walk_eq_visits : tree.walk = Node.visits 0 tree.entries := by
  obtain ⟨others, -, same⟩ := walkFrom_eq (nested_entries nested) 0 [] [] (by simp) (by simp) []
  simpa [walkFrom, walk] using same

theorem preorder_root : tree.root.preorder 0 = tree.walk := by
  have single : tree.entries = tree.root.entry :: (tree.parts ++ []) := by simp [entries, root]
  rw [walk_eq_visits nested, single, Node.visits_cons [] 0 rfl, Node.preorder_eq]
  simp [Node.visits, Node.siblings, root]

theorem countOf_descendants (fits : tree.range.stop ≤ Range.largestBound)
    (small : tree.parts.length ≤ tree.range.length) {entry : Entry}
    (member : entry ∈ tree.entries) :
    Search.countOf entry.descendants = entry.descendants := by
  obtain ⟨i, inside, rfl⟩ := List.getElem_of_mem member
  have reach := (nested_entries nested).lt_length (List.getElem?_eq_getElem inside)
  refine Nat.mod_eq_of_lt ?_
  have length : tree.entries.length = tree.parts.length + 1 := rfl
  unfold Range.length at small
  omega

theorem layered (fits : tree.range.stop ≤ Range.largestBound)
    (nonempty : ∀ part ∈ tree.parts, part.range.start < part.range.stop)
    (small : tree.parts.length ≤ tree.range.length) : tree.Layered := by
  have all := nested_entries nested
  refine
    { reach := fun i entry here => all.lt_length here
      root_reach := ⟨rfl, rfl⟩
      inside := fun i j first second here there => all.inside here there
      behind := fun i j first second here there => all.behind here there
      nonempty := nonempty
      children_inside := ?_
      children_increasing := fun i node here => (all.node_at here).2.2.1.siblings_increasing
      children_at := fun i node here => all.childrenAt_eq here
      leaf_iff := fun i node here => Node.children_eq_nil (all.node_at here).2.1
      walk_at := ?_
      preorder_eq := preorder_root nested
      size_le := ?_
      counts := fun entry member => countOf_descendants nested fits small member }
  next =>
    intro i node here child member
    have bounds := (all.node_at here).2.2.1.siblings_bounds child member
    simp [Range.contains, bounds]
  next =>
    intro i
    simp only [walk_eq_visits nested, Node.visits_at all, Nat.zero_add]
  next =>
    simp only [size, entries, List.length_cons]
    omega

end

end Tree

namespace Grammar

theorem nested_separators (start : Nat) (text : Text) :
    Nested start (start + Text.byteLength text) (separatorEntries start text) := by
  induction text generalizing start with
  | nil => exact .nil (Nat.le_add_right _ _)
  | cons c cs ih =>
    have later := ih (start + c.utf8Size)
    rw [Nat.add_assoc, ← Text.byteLength] at later
    rw [separatorEntries]
    split
    next =>
      let leaf : Entry := ⟨.separator, ⟨start, start + c.utf8Size⟩, 0⟩
      have closed : Nested leaf.range.start leaf.range.stop [] := .nil (Nat.le_add_right _ _)
      have after : Nested leaf.range.stop _ _ := later
      exact .cons (Nat.le_refl _) rfl closed after
    next => exact later.widen (Nat.le_add_right _ _)

theorem nested_allEntries (start : Nat) (pieces : List Piece) :
    Nested start (start + Text.byteLength (written pieces)) (Piece.allEntries start pieces) := by
  induction pieces generalizing start with
  | nil => exact .nil (Nat.le_add_right _ _)
  | cons piece rest ih =>
    have later := ih (start + Text.byteLength piece.chars)
    rw [Nat.add_assoc, ← Text.byteLength_append, ← written_cons] at later
    rw [Piece.allEntries, Piece.entries, List.cons_append]
    refine .cons (Nat.le_refl _) rfl ?_ later
    split
    next => exact nested_separators start piece.chars
    next => exact .nil (Nat.le_add_right _ _)

theorem allEntries_nonempty {pieces : List Piece} (nonempty : ∀ piece ∈ pieces, piece.chars ≠ [])
    (start : Nat) : ∀ entry ∈ Piece.allEntries start pieces,
      entry.range.start < entry.range.stop := by
  intro entry member
  obtain ⟨node, listed, rfl | below⟩ := mem_allEntries.1 member
  next =>
    obtain ⟨front, piece, back, rfl, rfl⟩ := mem_nodes.1 listed
    have positive := Text.byteLength_pos (nonempty piece (by simp))
    exact Nat.lt_add_of_pos_right positive
  next =>
    obtain ⟨front, piece, back, rfl, rfl⟩ := mem_nodes.1 listed
    unfold Piece.node at below
    dsimp only at below
    split at below
    next =>
      obtain ⟨n, -, rfl⟩ := mem_separatorEntries.1 below
      exact Nat.lt_succ_self _
    next => simp at below

end Grammar

theorem invalid_layered {range : Range} (order : range.start ≤ range.stop)
    (fits : range.stop ≤ Range.largestBound) : (Tree.invalid range).Layered :=
  Tree.layered (.nil order) fits (by simp [Tree.invalid]) (Nat.zero_le _)

theorem ofReading_nested {cut : Text.Excerpt} {reading : Reading}
    (text : written reading.pieces = cut.inside) :
    Nested cut.start cut.stop (Tree.ofReading cut.range reading).parts := by
  have nested := nested_allEntries cut.start reading.pieces
  rw [text, Text.Excerpt.start, ← Text.byteLength_append] at nested
  exact nested

theorem parseExcerpt_layered {table : List Production} {cut : Text.Excerpt} {reading : Reading}
    (fits : cut.stop ≤ Range.largestBound)
    (listed : ∀ production ∈ table, production ∈ productions)
    (found : (parseExcerpt table cut).result = some reading) :
    (Tree.ofReading cut.range reading).Layered := by
  rw [parseExcerpt, parse, Trial.result_firstOf] at found
  obtain ⟨production, member, parsed⟩ := List.exists_of_findSome?_eq_some found
  obtain ⟨-, derived, text, -⟩ := Production.parse_sound parsed
  have width : cut.start + Text.byteLength (written reading.pieces) = cut.stop := by
    rw [text]
    exact (Text.byteLength_append _ _).symm
  have small := length_allEntries_le derived.compact cut.start
  refine Tree.layered (ofReading_nested text) fits
    (allEntries_nonempty (fun piece known => ?_) cut.start) ?_
  next => exact (derived.proper (listed production member) piece known).nonempty
  next =>
    change (Piece.allEntries cut.start reading.pieces).length ≤ cut.stop - cut.start
    omega

section

variable {text : Text} {start stop : Nat}

theorem classify_layered {tree : Tree} (classified : classify text start stop = .ok tree) :
    tree.Layered := by
  rcases flaw_or_cut text start stop with ⟨fault, flaw⟩ | ⟨cut, rfl, rfl, rfl, fits⟩
  next => cases classified.symm.trans ((classify_decides text start stop fault).2 flaw)
  next =>
    obtain rfl := Except.ok.inj (classified.symm.trans (classify_whole cut fits))
    unfold Text.Excerpt.outcome outcome
    split
    next found => exact parseExcerpt_layered fits (fun _ listed => listed) found
    next => exact invalid_layered cut.start_le_stop fits

theorem classifyAs_layered {form : Form} {tree : Tree}
    (classified : classifyAs text start stop form = .ok (some tree)) : tree.Layered := by
  rcases flaw_or_cut text start stop with ⟨fault, flaw⟩ | ⟨cut, rfl, rfl, rfl, fits⟩
  next => cases classified.symm.trans ((classifyAs_decides text start stop form fault).2 flaw)
  next =>
    have made := Except.ok.inj (classified.symm.trans (classifyAs_whole cut fits form))
    obtain ⟨reading, found, rfl⟩ := Option.map_eq_some_iff.1 made.symm
    exact parseExcerpt_layered fits (fun _ listed => (mem_productionsOf.1 listed).2) found

end

theorem classifyBetween_tree {text : Text} {start stop : Nat} {entries : List Entry}
    {obstacle? : Option Obstacle}
    (searched : Search.classifyBetween text start stop = .ok (entries, obstacle?)) :
    ∃ tree, classify text start stop = .ok tree ∧ tree.entries = entries := by
  rcases flaw_or_cut text start stop with ⟨fault, flaw⟩ | ⟨cut, rfl, rfl, rfl, fits⟩
  next => cases searched.symm.trans (Search.classifyBetween_flaw flaw)
  next =>
    obtain ⟨same, -⟩ := Prod.mk.inj
      (Except.ok.inj (searched.symm.trans (Search.classifyBetween_whole cut fits)))
    exact ⟨_, classify_whole cut fits, same.symm⟩

theorem classifyAsBetween_tree {text : Text} {start stop : Nat} {form : Form} {entries : List Entry}
    (searched : Search.classifyAsBetween text start stop form = .ok (some entries)) :
    ∃ tree, classifyAs text start stop form = .ok (some tree) ∧ tree.entries = entries := by
  rcases flaw_or_cut text start stop with ⟨fault, flaw⟩ | ⟨cut, rfl, rfl, rfl, fits⟩
  next => cases searched.symm.trans (Search.classifyAsBetween_flaw flaw form)
  next =>
    have made := Except.ok.inj (searched.symm.trans (Search.classifyAsBetween_whole cut fits form))
    obtain ⟨reading, found, rfl⟩ := Option.map_eq_some_iff.1 made.symm
    refine ⟨_, ?_, rfl⟩
    rw [classifyAs_whole cut fits form, found, Option.map_some]

theorem recognize_tree {text : Text} {offset : Nat} {tree : Tree}
    (recognized : recognize text offset = .ok (some tree)) :
    ∃ stop, classify text offset stop = .ok tree := by
  unfold recognize at recognized
  split at recognized
  next => cases recognized
  next stop scanned =>
    cases classified : classify text offset stop with
    | error fault =>
      rw [classified] at recognized
      cases recognized
    | ok other =>
      rw [classified] at recognized
      obtain rfl := Option.some.inj (Except.ok.inj recognized)
      exact ⟨stop, classified⟩

theorem findAll_tree {text : Text} {trees : List Tree} (found : findAll text = .ok trees) :
    ∀ tree ∈ trees, ∃ start stop, classify text start stop = .ok tree := by
  have related := (mapM_ok_iff _ _ _).1 found
  refine forall_right (related.imp fun ends tree classified => ?_)
  exact ⟨ends.1, ends.2, classified⟩

theorem literalBetween_tree {explains located : Bool} {index start stop : Nat} {file : SourceFile}
    {found : Literal × Option Diagnostic}
    (made : file.literalBetween explains located index start stop = .ok found) :
    classify file.text start stop = .ok found.1.tree := by
  unfold SourceFile.literalBetween at made
  unfold classify
  cases examined : examine file.text start stop with
  | error fault =>
    rw [examined] at made
    cases made
  | ok outcome =>
    rw [examined] at made
    simp only [bind, Except.bind] at made
    split at made
    next =>
      cases explained : diagnose explains located index file outcome.1.range outcome.2 with
      | error fault =>
        rw [explained] at made
        cases made
      | ok diagnostic =>
        rw [explained] at made
        cases made
        rfl
    next =>
      cases made
      rfl

theorem literals_tree {explains located : Bool} {index : Nat} {file : SourceFile}
    {results : List (Literal × Option Diagnostic)}
    (made : file.literals explains located index = .ok results) :
    ∀ found ∈ results, ∃ start stop, classify file.text start stop = .ok found.1.tree := by
  have related := (mapM_ok_iff _ _ _).1 made
  refine forall_right (related.imp fun ends found one => ?_)
  exact ⟨ends.1, ends.2, literalBetween_tree one⟩

theorem trees_layered (text : Text) :
    (∀ start stop tree, classify text start stop = .ok tree → tree.Layered) ∧
      (∀ start stop form tree, classifyAs text start stop form = .ok (some tree) → tree.Layered) ∧
      (∀ offset tree, recognize text offset = .ok (some tree) → tree.Layered) ∧
      (∀ trees, findAll text = .ok trees → ∀ tree ∈ trees, tree.Layered) ∧
      (∀ path explains located index results,
        SourceFile.literals explains located index ⟨path, text⟩ = .ok results →
        ∀ found ∈ results, found.1.tree.Layered) ∧
      (∀ start stop entries obstacle?,
        Search.classifyBetween text start stop = .ok (entries, obstacle?) →
        ∃ tree : Tree, tree.entries = entries ∧ tree.Layered) ∧
      ∀ start stop form entries,
        Search.classifyAsBetween text start stop form = .ok (some entries) →
        ∃ tree : Tree, tree.entries = entries ∧ tree.Layered := by
  refine ⟨fun _ _ _ => classify_layered, fun _ _ _ _ => classifyAs_layered, ?_, ?_, ?_, ?_, ?_⟩
  next =>
    intro offset tree recognized
    obtain ⟨stop, classified⟩ := recognize_tree recognized
    exact classify_layered classified
  next =>
    intro trees found tree member
    obtain ⟨start, stop, classified⟩ := findAll_tree found tree member
    exact classify_layered classified
  next =>
    intro path explains located index results made found member
    obtain ⟨start, stop, classified⟩ := literals_tree made found member
    exact classify_layered classified
  next =>
    intro start stop entries obstacle? searched
    obtain ⟨tree, classified, same⟩ := classifyBetween_tree searched
    exact ⟨tree, same, classify_layered classified⟩
  next =>
    intro start stop form entries searched
    obtain ⟨tree, classified, same⟩ := classifyAsBetween_tree searched
    exact ⟨tree, same, classifyAs_layered classified⟩

theorem trees_layered_separated :
    ∃ tree, classify ['1', '_', '0', '.'] 0 4 = .ok tree ∧
      classifyAs ['1', '_', '0', '.'] 0 4 .decimalFloat = .ok (some tree) ∧
      tree.size = 4 ∧ tree.Layered := by
  let parts : List Entry :=
    [⟨.digits .decimal, ⟨0, 3⟩, 1⟩, separatorAt 1, ⟨.point .decimal, ⟨3, 4⟩, 0⟩]
  have classified : classify ['1', '_', '0', '.'] 0 4 =
      .ok ⟨.float .decimal false, ⟨0, 4⟩, parts⟩ := rfl
  have alone : classifyAs ['1', '_', '0', '.'] 0 4 .decimalFloat =
      .ok (some ⟨.float .decimal false, ⟨0, 4⟩, parts⟩) := rfl
  exact ⟨_, classified, alone, rfl, (trees_layered _).1 _ _ _ classified⟩

end Numeral
