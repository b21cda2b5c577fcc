import Numeral.Proofs.Pattern.Explanation
import Numeral.Proofs.Tree.Traversal

set_option autoImplicit false

namespace Numeral

def Node.mirror (source : Text) (node : Node) : Except Fault Pattern := do
  let text ← node.range.text source
  let children ← node.children.attach.mapM fun child => mirror source child.1
  return children.foldl Pattern.withChild (.leaf node.tag (.exactly text node.range))
termination_by node.below.length
decreasing_by exact length_of_mem_siblings child.2

namespace Pattern

theorem foldl_withChild (tag : Tag) (wanted : Wanted) (first rest : List Pattern) :
    rest.foldl withChild (.node tag wanted first) = .node tag wanted (first ++ rest) := by
  induction rest generalizing first with
  | nil => simp
  | cons child rest ih =>
    rw [List.foldl_cons]
    exact (ih (first ++ [child])).trans (by rw [List.append_assoc, List.singleton_append])

variable {source : Text}

theorem mirror_node {entry : Entry} {below : List Entry} {chars : Text} {patterns : List Pattern}
    (read : entry.range.text source = .ok chars)
    (inner : (Node.siblings below).mapM (Node.mirror source) = .ok patterns) :
    Node.mirror source ⟨entry, below⟩ =
      .ok (.node entry.tag (.exactly chars entry.range) patterns) := by
  have children : (Node.children ⟨entry, below⟩).attach.mapM
      (fun child => Node.mirror source child.1) = .ok patterns := by
    rw [List.mapM_subtype (g := Node.mirror source) fun _ _ => rfl, List.unattach_attach]
    exact inner
  rw [Node.mirror]
  simp only [Node.range, read, children, bind, Except.bind]
  exact congrArg Except.ok (foldl_withChild _ _ [] patterns)

theorem append_eq_nil {α ε : Type} {first rest : Except ε (List α)} :
    (do return (← first) ++ (← rest)) = .ok [] ↔ first = .ok [] ∧ rest = .ok [] := by
  cases first with
  | error fault => simp [bind, Except.bind]
  | ok a => cases rest <;> simp [bind, Except.bind, pure, Except.pure]

theorem accepts_exactly {range : Range} {chars : Text} (read : range.text source = .ok chars)
    (other : Range) :
    (Wanted.exactly chars range).accepts source other = .ok true ↔ range = other := by
  unfold Wanted.accepts Wanted.exactly
  constructor
  next =>
    intro accepted
    cases found : other.text source with
    | error fault => simp [found, bind, Except.bind] at accepted
    | ok text =>
      have both : text = chars ∧ range = other := by
        simpa [found, bind, Except.bind, pure, Except.pure] using accepted
      exact both.2
  next =>
    rintro rfl
    simp [read, bind, Except.bind, pure, Except.pure]

theorem ofText_eq_nil {path : List Nat} {wanted : Wanted} {found : Node} :
    ofText source path wanted found = .ok [] ↔
      wanted.accepts source found.range = .ok true := by
  unfold ofText
  cases wanted.accepts source found.range with
  | error fault => simp [bind, Except.bind]
  | ok accepted =>
    cases accepted with
    | true => simp [bind, Except.bind, pure, Except.pure]
    | false => cases found.range.text source <;> simp [bind, Except.bind, pure, Except.pure]

theorem mismatches_eq_nil {path : List Nat} {tag : Tag} {wanted : Wanted}
    {patterns : List Pattern} {found : Node} :
    mismatches source path (.node tag wanted patterns) found = .ok [] ↔
      tag = found.tag ∧ wanted.accepts source found.range = .ok true ∧
        childMismatches source path 0 patterns found.children = .ok [] := by
  have own : ofTag path tag found = [] ↔ tag = found.tag := by simp [ofTag]
  rw [mismatches, ← @ofText_eq_nil source path, ← own]
  cases ofText source path wanted found with
  | error fault => simp [bind, Except.bind]
  | ok here =>
    cases childMismatches source path 0 patterns found.children with
    | error fault => simp [bind, Except.bind]
    | ok below => simp [bind, Except.bind, pure, Except.pure]

/-- Nothing else than the entries, nested as they are, matches the patterns. -/
def Mirrors (source : Text) (patterns : List Pattern) (entries : List Entry) : Prop :=
  ∀ {start stop : Nat} {others : List Entry}, Nested start stop others →
    ∀ path index, childMismatches source path index patterns (Node.siblings others) = .ok [] ↔
      entries = others

theorem Mirrors.node {entry other : Entry} {below under : List Entry} {chars : Text}
    {patterns : List Pattern} {start stop : Nat} (mirrors : Mirrors source patterns below)
    (read : entry.range.text source = .ok chars) (counted : entry.descendants = below.length)
    (counts : other.descendants = under.length) (within : Nested start stop under)
    (path : List Nat) :
    mismatches source path (.node entry.tag (.exactly chars entry.range) patterns) ⟨other, under⟩ =
      .ok [] ↔ entry = other ∧ below = under := by
  rw [mismatches_eq_nil, accepts_exactly read]
  change _ ∧ _ ∧ childMismatches source path 0 patterns (Node.siblings under) = .ok [] ↔ _
  rw [mirrors within]
  cases entry
  cases other
  simp only [Node.tag, Node.range, Entry.mk.injEq] at counted counts ⊢
  constructor
  next =>
    rintro ⟨rfl, rfl, rfl⟩
    exact ⟨⟨rfl, rfl, counted.trans counts.symm⟩, rfl⟩
  next =>
    rintro ⟨⟨rfl, rfl, -⟩, rfl⟩
    exact ⟨rfl, rfl, rfl⟩

/-- By induction on the nesting, as counts and ranges tell the children of every node. -/
theorem exists_mirrors {start stop : Nat} {entries : List Entry}
    (nested : Nested start stop entries) (readable : Readable source entries) :
    ∃ patterns, (Node.siblings entries).mapM (Node.mirror source) = .ok patterns ∧
      Mirrors source patterns entries := by
  induction nested with
  | nil =>
    refine ⟨[], by rw [Node.siblings]; rfl, ?_⟩
    intro start stop others nested path index
    cases nested with
    | nil => simp [Node.siblings, childMismatches, pure, Except.pure]
    | cons _ counts _ _ =>
      rw [Node.siblings_cons _ counts]
      simp [childMismatches, pure, Except.pure]
  | @cons _ _ entry below rest _ counted inner outer deeper later =>
    obtain ⟨⟨chars, read⟩, others⟩ := List.forall_mem_cons.1 readable
    obtain ⟨inside, behind⟩ := List.forall_mem_append.1 others
    obtain ⟨patterns, made, mirrors⟩ := deeper inside
    obtain ⟨siblings, listed, matching⟩ := later behind
    refine ⟨.node entry.tag (.exactly chars entry.range) patterns :: siblings, ?_, ?_⟩
    next =>
      rw [Node.siblings_cons _ counted, List.mapM_cons, mirror_node read made, listed]
      rfl
    next =>
      intro start stop others nested path index
      cases nested with
      | nil => simp [Node.siblings, childMismatches, pure, Except.pure]
      | @cons _ _ other under beyond _ counts within outside =>
        -- the first entries agree with all below them, and so do the lists behind
        rw [Node.siblings_cons _ counts, childMismatches, append_eq_nil,
          mirrors.node read counted counts within, matching outside]
        constructor
        next =>
          rintro ⟨⟨rfl, rfl⟩, rfl⟩
          rfl
        next =>
          intro same
          obtain ⟨rfl, tails⟩ := List.cons.inj same
          obtain ⟨rfl, rfl⟩ := List.append_inj tails (counted.symm.trans counts)
          exact ⟨⟨rfl, rfl⟩, rfl⟩

theorem mirror_matches_iff {text : Text} {tree other : Tree} (made : tree.MadeFrom text)
    (again : other.MadeFrom text) :
    ∃ pattern outcome, tree.root.mirror text = .ok pattern ∧
      pattern.explain? text other = .ok outcome ∧
      (outcome = none ↔ tree.entries = other.entries) := by
  obtain ⟨⟨chars, read⟩, readable⟩ := List.forall_mem_cons.1 made.heldBy.readable
  obtain ⟨patterns, inner, mirrors⟩ := exists_mirrors made.heldBy.below readable
  have mirrored := mirror_node read inner
  obtain ⟨found, outline, listed, -, explained⟩ := explain_eq again.heldBy.readable _
  refine ⟨_, _, mirrored, explained, ?_⟩
  have same : mismatches text [] _ other.root = .ok [] ↔
      tree.root.entry = other.root.entry ∧ tree.parts = other.parts :=
    mirrors.node read rfl rfl again.heldBy.below []
  have matched : found = [] ↔ tree.entries = other.entries := by
    rw [listed, Except.ok.injEq] at same
    exact same.trans (Iff.of_eq (List.cons.injEq ..)).symm
  rw [← matched]
  by_cases empty : found = [] <;> simp [empty]

theorem mirror_matches_iff_cut :
    ∃ tree cut pattern outcome, classify ['1', '_', '0'] 0 3 = .ok tree ∧
      classify ['1', '_', '0'] 0 1 = .ok cut ∧ tree.root.mirror ['1', '_', '0'] = .ok pattern ∧
      pattern.explain? ['1', '_', '0'] tree = .ok none ∧
      pattern.explain? ['1', '_', '0'] cut = .ok outcome ∧ outcome ≠ none := by
  let parts : List Entry := [⟨.digits .decimal, ⟨0, 3⟩, 1⟩, ⟨.separator, ⟨1, 2⟩, 0⟩]
  have whole : classify ['1', '_', '0'] 0 3 = .ok ⟨.int .decimal false, ⟨0, 3⟩, parts⟩ := rfl
  have alone : classifyAs ['1', '_', '0'] 0 3 .decimalInt =
      .ok (some ⟨.int .decimal false, ⟨0, 3⟩, parts⟩) := rfl
  have short : classify ['1', '_', '0'] 0 1 =
      .ok ⟨.int .decimal false, ⟨0, 1⟩, [⟨.digits .decimal, ⟨0, 1⟩, 0⟩]⟩ := rfl
  obtain ⟨pattern, first, mirrored, explained, same⟩ :=
    mirror_matches_iff (.classified whole) (.tried alone)
  obtain ⟨again, outcome, copied, compared, differ⟩ :=
    mirror_matches_iff (.classified whole) (.classified short)
  obtain rfl := Except.ok.inj (mirrored.symm.trans copied)
  obtain rfl := same.2 rfl
  exact ⟨_, _, pattern, outcome, whole, short, mirrored, explained, compared,
    fun matched => absurd (differ.1 matched) (by decide)⟩

end Pattern

end Numeral
