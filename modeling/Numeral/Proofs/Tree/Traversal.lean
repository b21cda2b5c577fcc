import Numeral.Proofs.Tree.Nesting
import Numeral.Proofs.Tree.Nodes

/-!
Two ways through a tree. One keeps where the open entries end, the other skips what lies below
each; over nested entries they visit the same nodes at the same depths.
-/

set_option autoImplicit false

namespace Numeral

namespace Node

theorem length_of_mem_siblings {entries : List Entry} {node : Node}
    (member : node ∈ siblings entries) : node.below.length < entries.length := by
  induction entries using siblings.induct with
  | case1 => simp [siblings] at member
  | case2 entry rest ih =>
    rw [siblings] at member
    rcases List.mem_cons.1 member with rfl | later
    next =>
      simp only [List.length_take, List.length_cons]
      omega
    next =>
      have shorter := ih later
      simp only [List.length_drop, List.length_cons] at shorter ⊢
      omega

/-- A node and all below it with their depths, by way of the children. -/
def preorder (depth : Nat) (node : Node) : List (Nat × Node) :=
  (depth, node) :: node.children.attach.flatMap fun child => preorder (depth + 1) child.1
termination_by node.below.length
decreasing_by exact length_of_mem_siblings child.2

def visits (depth : Nat) (entries : List Entry) : List (Nat × Node) :=
  (siblings entries).flatMap (preorder depth)

theorem preorder_eq (depth : Nat) (node : Node) :
    node.preorder depth = (depth, node) :: visits (depth + 1) node.below := by
  rw [preorder, List.flatMap_subtype (g := preorder (depth + 1)) fun _ _ => rfl,
    List.unattach_attach]
  rfl

theorem siblings_cons {entry : Entry} {below : List Entry} (rest : List Entry)
    (counted : entry.descendants = below.length) :
    siblings (entry :: (below ++ rest)) = ⟨entry, below⟩ :: siblings rest := by
  rw [siblings, counted, List.take_left, List.drop_left]

theorem visits_cons {entry : Entry} {below : List Entry} (rest : List Entry) (depth : Nat)
    (counted : entry.descendants = below.length) :
    visits depth (entry :: (below ++ rest)) =
      (depth, ⟨entry, below⟩) :: (visits (depth + 1) below ++ visits depth rest) := by
  rw [visits, siblings_cons rest counted, List.flatMap_cons, preorder_eq, List.cons_append]
  rfl

end Node

namespace Tree

theorem walkFrom_eq {start stop : Nat} {entries : List Entry} (nested : Nested start stop entries)
    (index : Nat) (done ends : List Nat) (ended : ∀ last ∈ done, last ≤ index)
    (opened : ∀ last ∈ ends, index + entries.length ≤ last) (more : List Entry) :
    ∃ others, (∀ last ∈ others, last ≤ index + entries.length) ∧
      walkFrom index (done ++ ends) (entries ++ more) =
        Node.visits ends.length entries ++
          walkFrom (index + entries.length) (others ++ ends) more := by
  induction nested generalizing index done ends more with
  | nil => exact ⟨done, ended, by simp [Node.visits, Node.siblings]⟩
  | @cons start stop entry below rest _ counted inner outer deeper later =>
    have length : (entry :: (below ++ rest)).length = 1 + below.length + rest.length := by
      simp only [List.length_cons, List.length_append]
      omega
    rw [length, ← Nat.add_assoc, ← Nat.add_assoc] at opened ⊢
    -- the ends that are over are those put in front
    have above : (done ++ ends).dropWhile (fun last => decide (last ≤ index)) = ends := by
      rw [List.dropWhile_append_of_pos (by simpa using ended)]
      cases ends with
      | nil => rfl
      | cons last ends =>
        have far := opened last List.mem_cons_self
        exact List.dropWhile_cons_of_neg (by rw [decide_eq_true_iff]; omega)
    have inside : ∀ last ∈ (index + 1 + below.length) :: ends, index + 1 + below.length ≤ last := by
      refine List.forall_mem_cons.2 ⟨Nat.le_refl _, fun last member => ?_⟩
      have far := opened last member
      omega
    obtain ⟨inward, closed, below_eq⟩ := deeper (index + 1) [] _ (by simp) inside (rest ++ more)
    obtain ⟨others, ended, rest_eq⟩ := later (index + 1 + below.length)
      (inward ++ [index + 1 + below.length]) ends (List.forall_mem_append.2 ⟨closed, by simp⟩)
      opened more
    refine ⟨others, ended, ?_⟩
    have own : (below ++ rest ++ more).take entry.descendants = below := by
      rw [counted, List.append_assoc, List.take_left]
    rw [List.append_assoc, List.singleton_append] at rest_eq
    rw [Node.visits_cons rest _ counted, List.cons_append, walkFrom, above, own]
    simp only [List.cons_append, List.append_assoc, counted]
    rw [← rest_eq]
    exact congrArg _ below_eq

end Tree

namespace Node

theorem length_visits {start stop : Nat} {entries : List Entry}
    (nested : Nested start stop entries) (depth : Nat) :
    (visits depth entries).length = entries.length := by
  induction nested generalizing depth with
  | nil => simp [visits, siblings]
  | cons _ counted _ _ inner outer =>
    simp only [visits_cons _ _ counted, List.length_cons, List.length_append, inner, outer]

section

variable {start stop : Nat} {below : List Entry} (nested : Nested start stop below)
  (rest : List Entry)

theorem at?_cons (entry : Entry) (entries : List Entry) (index : Nat) :
    at? (entry :: entries) (index + 1) = at? entries index := rfl

theorem at?_append_right (front : List Entry) (index : Nat) :
    at? (front ++ rest) (front.length + index) = at? rest index := by
  rw [at?, List.getElem?_append_right (Nat.le_add_right _ _), Nat.add_sub_cancel_left,
    Nat.add_assoc, List.drop_length_add_append]
  rfl

include nested

theorem at?_append_left {index : Nat} (inside : index < below.length) :
    at? (below ++ rest) index = at? below index := by
  obtain ⟨entry, here⟩ : ∃ entry, below[index]? = some entry :=
    ⟨_, List.getElem?_eq_getElem inside⟩
  have fits := nested.lt_length here
  rw [at?, at?, List.getElem?_append_left inside, here, List.drop_append_of_le_length inside,
    Option.map_some, Option.map_some, List.take_append_of_le_length]
  rw [List.length_drop]
  omega

end

def ancestors (entries : List Entry) (index : Nat) : List Nat :=
  (List.range index).filter fun i =>
    entries[i]?.any fun entry => index ≤ i + entry.descendants

theorem ancestors_cons (entry : Entry) (entries : List Entry) (index : Nat) :
    (ancestors (entry :: entries) (index + 1)).length =
      (if index < entry.descendants then 1 else 0) + (ancestors entries index).length := by
  have later : ((List.range index).map Nat.succ).countP (fun i =>
        (entry :: entries)[i]?.any fun other => index + 1 ≤ i + other.descendants) =
      (List.range index).countP fun i =>
        entries[i]?.any fun other => index ≤ i + other.descendants := by
    rw [List.countP_map]
    refine List.countP_congr fun i _ => ?_
    simp [Nat.add_right_comm i 1]
  simp only [ancestors, ← List.countP_eq_length_filter, List.range_succ_eq_map, List.countP_cons,
    later, Nat.add_comm]
  have first : ((entry :: entries)[0]?.any fun other => index + 1 ≤ other.descendants + 0) =
      decide (index < entry.descendants) := rfl
  simp only [first, decide_eq_true_eq]

section

variable {start stop : Nat} {below : List Entry} (nested : Nested start stop below)
  (rest : List Entry)

theorem ancestors_append_left {index : Nat} (inside : index < below.length) :
    ancestors (below ++ rest) index = ancestors below index := by
  refine List.filter_congr fun i member => ?_
  rw [List.getElem?_append_left (Nat.lt_trans (List.mem_range.1 member) inside)]

include nested

-- nothing on the left reaches so far
theorem ancestors_append_right (index : Nat) :
    (ancestors (below ++ rest) (below.length + index)).length = (ancestors rest index).length := by
  have early : (List.range below.length).countP (fun i =>
      (below ++ rest)[i]?.any fun entry => below.length + index ≤ i + entry.descendants) = 0 := by
    refine List.countP_eq_zero.2 fun i member reaches => ?_
    rw [List.getElem?_append_left (List.mem_range.1 member)] at reaches
    obtain ⟨entry, here⟩ : ∃ entry, below[i]? = some entry :=
      ⟨_, List.getElem?_eq_getElem (List.mem_range.1 member)⟩
    have fits := nested.lt_length here
    rw [here, Option.any_some, decide_eq_true_iff] at reaches
    omega
  have later : ((List.range index).map (below.length + ·)).countP (fun i =>
        (below ++ rest)[i]?.any fun entry => below.length + index ≤ i + entry.descendants) =
      (List.range index).countP fun i =>
        rest[i]?.any fun entry => index ≤ i + entry.descendants := by
    rw [List.countP_map]
    refine List.countP_congr fun i _ => ?_
    simp [List.getElem?_append_right (Nat.le_add_right below.length i), Nat.add_assoc]
  simp only [ancestors, ← List.countP_eq_length_filter]
  rw [List.range_add, List.countP_append, early, later, Nat.zero_add]

end

theorem visits_at {start stop : Nat} {entries : List Entry} (nested : Nested start stop entries)
    (depth index : Nat) :
    (visits depth entries)[index]? =
      (at? entries index).map fun node => (depth + (ancestors entries index).length, node) := by
  induction nested generalizing depth index with
  | nil => simp [visits, siblings, at?]
  | @cons start stop entry below rest _ counted inner outer deeper later =>
    rw [visits_cons rest depth counted]
    cases index with
    | zero =>
      have own : (below ++ rest).take entry.descendants = below := by
        rw [counted, List.take_left]
      simp [at?, own, ancestors]
    | succ index =>
      rw [List.getElem?_cons_succ, at?_cons, ancestors_cons]
      by_cases inside : index < below.length
      next =>
        rw [List.getElem?_append_left (by rwa [length_visits inner]), deeper,
          at?_append_left inner rest inside, ancestors_append_left rest inside, counted,
          if_pos inside, Nat.add_assoc]
      next =>
        obtain ⟨beyond, rfl⟩ := Nat.exists_eq_add_of_le (Nat.not_lt.1 inside)
        rw [← length_visits inner (depth + 1), List.getElem?_append_right (Nat.le_add_right _ _),
          length_visits inner, Nat.add_sub_cancel_left, later, at?_append_right rest below,
          ancestors_append_right inner rest, counted, if_neg inside, Nat.zero_add]

theorem siblingsFrom_eq {start stop : Nat} {entries : List Entry}
    (nested : Nested start stop entries) (front behind : List Entry) (room : Nat)
    (enough : entries.length ≤ room) :
    ∃ numbers, siblingsFrom (front ++ (entries ++ behind)) (front.length + entries.length) room
        front.length = .ok numbers ∧
      numbers.map (at? (front ++ (entries ++ behind))) = (siblings entries).map some := by
  induction nested generalizing front behind room with
  | nil =>
    refine ⟨[], ?_, by simp [siblings]⟩
    cases room with
    | zero => rfl
    | succ room => exact if_pos (Nat.le_refl _)
  | @cons start stop entry below rest _ counted inner outer deeper later =>
    have length : (entry :: (below ++ rest)).length = 1 + below.length + rest.length := by
      simp only [List.length_cons, List.length_append]
      omega
    obtain ⟨room, rfl⟩ : ∃ less, room = less + 1 := Nat.exists_eq_add_one.2 (by omega)
    obtain ⟨numbers, found, nodes⟩ :=
      later (front ++ entry :: below) behind room (by omega)
    have whole : front ++ entry :: below ++ (rest ++ behind) =
        front ++ (entry :: (below ++ rest) ++ behind) := by simp
    have next : (front ++ entry :: below).length = front.length + 1 + entry.descendants := by
      simp only [List.length_append, List.length_cons, counted]
      omega
    have last : front.length + 1 + entry.descendants + rest.length =
        front.length + (1 + below.length + rest.length) := by omega
    rw [whole, next, last] at found
    rw [whole] at nodes
    refine ⟨front.length :: numbers, ?_, ?_⟩
    next =>
      have here : (front ++ (entry :: (below ++ rest) ++ behind))[front.length]? = some entry := by
        simp
      rw [length, siblingsFrom, if_neg (by omega), here]
      simp only [bind, Except.bind, found]
      rfl
    next =>
      have own := at?_append_right (entry :: (below ++ rest) ++ behind) front 0
      have cut : (below ++ (rest ++ behind)).take entry.descendants = below := by
        rw [counted, List.take_left]
      rw [List.map_cons, nodes, siblings_cons rest counted, List.map_cons]
      rw [Nat.add_zero] at own
      rw [own]
      simp [at?, cut]

end Node

namespace Nested

variable {start stop : Nat} {entries : List Entry} (nested : Nested start stop entries)

include nested

theorem siblings_bounds : ∀ node ∈ Node.siblings entries,
    start ≤ node.range.start ∧ node.range.stop ≤ stop := by
  intro node member
  have listed : node.entry ∈ entries := by
    rw [← siblings_flatMap entries]
    exact List.mem_flatMap.2 ⟨node, member, List.mem_cons_self⟩
  have bounds := nested.bounds node.entry listed
  exact ⟨bounds.1, bounds.2.2⟩

theorem siblings_increasing :
    (Node.siblings entries).Pairwise fun first second =>
      first.range.stop ≤ second.range.start := by
  induction nested with
  | nil => simp [Node.siblings]
  | cons _ counted _ outer _ later =>
    rw [Node.siblings_cons _ counted]
    exact .cons (fun node member => (outer.siblings_bounds node member).1) later

theorem node_at {index : Nat} {node : Node} (here : Node.at? entries index = some node) :
    entries[index]? = some node.entry ∧ node.entry.descendants = node.below.length ∧
      Nested node.range.start node.range.stop node.below ∧
      ∃ rest, entries.drop (index + 1) = node.below ++ rest := by
  obtain ⟨entry, found, rfl⟩ := Option.map_eq_some_iff.1 here
  obtain ⟨below, rest, behind, counted, inner, -⟩ := nested.split_at found
  have own : (entries.drop (index + 1)).take entry.descendants = below := by
    rw [behind, counted, List.take_left]
  rw [own]
  exact ⟨found, counted, inner, rest, behind⟩

theorem childrenAt_eq {index : Nat} {node : Node} (here : Node.at? entries index = some node) :
    ∃ numbers, Node.childrenAt entries index = .ok numbers ∧
      numbers.map (Node.at? entries) = node.children.map some := by
  obtain ⟨found, counted, inner, rest, behind⟩ := nested.node_at here
  obtain ⟨inside, same⟩ := List.getElem?_eq_some_iff.1 found
  have front : (entries.take (index + 1)).length = index + 1 := List.length_take_of_le inside
  have whole : entries.take (index + 1) ++ (node.below ++ rest) = entries := by
    rw [← behind, List.take_append_drop]
  obtain ⟨numbers, skipped, nodes⟩ :=
    Node.siblingsFrom_eq inner (entries.take (index + 1)) rest _ (Nat.le_refl _)
  rw [whole, front, ← counted] at skipped
  rw [whole] at nodes
  refine ⟨numbers, ?_, nodes⟩
  rw [Node.childrenAt, found]
  exact skipped

end Nested

theorem Node.children_eq_nil {node : Node} (counted : node.entry.descendants = node.below.length) :
    node.isLeaf = true ↔ node.children = [] := by
  rw [isLeaf, beq_iff_eq, counted, List.length_eq_zero_iff, children]
  cases node.below with
  | nil => simp [siblings]
  | cons entry rest => simp [siblings]

end Numeral
