import Numeral.Proofs.Grammar.Derivation
import Numeral.Proofs.Text.Excerpt

set_option autoImplicit false

namespace Numeral

open Grammar

def separatorAt (offset : Nat) : Entry :=
  ⟨.separator, ⟨offset, offset + 1⟩, 0⟩

theorem separatorEntries_append (start : Nat) (front back : Text) :
    separatorEntries start (front ++ back) =
      separatorEntries start front ++ separatorEntries (start + Text.byteLength front) back := by
  induction front generalizing start with
  | nil => simp [separatorEntries, Text.byteLength]
  | cons c cs ih =>
    by_cases isSeparator : c = separator <;>
      simp [separatorEntries, Text.byteLength, isSeparator, ih, Nat.add_assoc]

theorem Grammar.Piece.allEntries_append (start : Nat) (front back : List Piece) :
    Piece.allEntries start (front ++ back) =
      Piece.allEntries start front ++
        Piece.allEntries (start + Text.byteLength (front.flatMap Piece.chars)) back := by
  induction front generalizing start with
  | nil => simp [allEntries, Text.byteLength]
  | cons piece rest ih => simp [allEntries, ih, Nat.add_assoc]

theorem mem_separatorEntries {start : Nat} {text : Text} {entry : Entry} :
    entry ∈ separatorEntries start text ↔
      ∃ n, text.HasAt '_' n ∧ entry = separatorAt (start + n) := by
  induction text generalizing start with
  | nil => simp [separatorEntries, Text.HasAt]
  | cons c cs ih =>
    by_cases isSeparator : c = '_'
    next =>
      subst isSeparator
      have here : (⟨.separator, ⟨start, start + '_'.utf8Size⟩, 0⟩ : Entry) = separatorAt start :=
        rfl
      simp [separatorEntries, separator, here, ih, Text.hasAt_cons, Nat.add_assoc, or_and_right,
        exists_or]
    next => simp [separatorEntries, separator, isSeparator, ih, Text.hasAt_cons, Nat.add_assoc]

theorem separatorEntries_sorted (start : Nat) (text : Text) :
    (separatorEntries start text).Pairwise fun first second =>
      first.range.start < second.range.start := by
  induction text generalizing start with
  | nil => exact .nil
  | cons c cs ih =>
    by_cases isSeparator : c = separator
    next =>
      simp only [separatorEntries, isSeparator, if_true]
      refine .cons ?_ (ih _)
      -- every later one lies behind at least this character
      intro entry member
      obtain ⟨n, -, rfl⟩ := mem_separatorEntries.1 member
      have positive := separator.utf8Size_pos
      change start < start + separator.utf8Size + n
      omega
    next =>
      simp only [separatorEntries, isSeparator, if_false]
      exact ih _

theorem siblings_leaves {entries : List Entry}
    (leaves : ∀ entry ∈ entries, entry.descendants = 0) :
    Node.siblings entries = entries.map fun entry => ⟨entry, []⟩ := by
  induction entries with
  | nil => simp [Node.siblings]
  | cons entry entries ih =>
    have leaf := leaves entry List.mem_cons_self
    have rest := ih fun other member => leaves other (List.mem_cons_of_mem _ member)
    simp [Node.siblings, leaf, rest]

theorem siblings_flatMap (entries : List Entry) :
    (Node.siblings entries).flatMap (fun node => node.entry :: node.below) = entries := by
  induction entries using Node.siblings.induct with
  | case1 => simp [Node.siblings]
  | case2 entry rest ih => simp [Node.siblings, ih]

def Grammar.Piece.node (start : Nat) (piece : Piece) : Node :=
  let below := if piece.tag.isDigitGroup then separatorEntries start piece.chars else []
  ⟨⟨piece.tag, ⟨start, start + Text.byteLength piece.chars⟩, below.length⟩, below⟩

def Grammar.Piece.nodes (start : Nat) : List Piece → List Node
  | [] => []
  | piece :: rest => piece.node start :: nodes (start + Text.byteLength piece.chars) rest

theorem siblings_allEntries (start : Nat) (pieces : List Piece) :
    Node.siblings (Piece.allEntries start pieces) = Piece.nodes start pieces := by
  induction pieces generalizing start with
  | nil => simp [Piece.allEntries, Piece.nodes, Node.siblings]
  | cons piece rest ih =>
    simp [Piece.allEntries, Piece.entries, Piece.nodes, Piece.node, Node.siblings, ih]

theorem mem_nodes {start : Nat} {pieces : List Piece} {node : Node} :
    node ∈ Piece.nodes start pieces ↔
      ∃ front piece back, pieces = front ++ piece :: back ∧
        node = piece.node (start + Text.byteLength (written front)) := by
  induction pieces generalizing start with
  | nil => simp [Piece.nodes]
  | cons first rest ih =>
    simp only [Piece.nodes, List.mem_cons, ih]
    constructor
    next =>
      rintro (rfl | ⟨front, piece, back, rfl, rfl⟩)
      next => exact ⟨[], first, rest, rfl, by simp [Text.byteLength]⟩
      next => exact ⟨first :: front, piece, back, rfl, by simp [Nat.add_assoc]⟩
    next =>
      rintro ⟨front, piece, back, same, rfl⟩
      cases front with
      | nil =>
        obtain ⟨rfl, rfl⟩ := List.cons.inj same
        exact .inl (by simp [Text.byteLength])
      | cons other front =>
        obtain ⟨rfl, rfl⟩ := List.cons.inj same
        exact .inr ⟨front, piece, back, rfl, by simp [Nat.add_assoc]⟩

theorem nodes_tags (start : Nat) (pieces : List Piece) :
    (Piece.nodes start pieces).map Node.tag = pieces.map Piece.tag := by
  induction pieces generalizing start with
  | nil => rfl
  | cons piece rest ih =>
    rw [Piece.nodes, List.map_cons, List.map_cons, ih]
    rfl

theorem mem_allEntries {start : Nat} {pieces : List Piece} {entry : Entry} :
    entry ∈ Piece.allEntries start pieces ↔
      ∃ node ∈ Piece.nodes start pieces, entry = node.entry ∨ entry ∈ node.below := by
  induction pieces generalizing start with
  | nil => simp [Piece.allEntries, Piece.nodes]
  | cons piece rest ih =>
    simp [Piece.allEntries, Piece.entries, Piece.nodes, Piece.node, ih, or_assoc]

/-- The nodes cover the bytes between two offsets, one after the other and none of them empty. -/
inductive Node.Tile (stop : Nat) : Nat → List Node → Prop where
  | nil : Tile stop stop []
  | cons {start : Nat} {node : Node} {nodes : List Node} (first : node.range.start = start)
      (nonempty : start < node.range.stop) (rest : Tile stop node.range.stop nodes) :
      Tile stop start (node :: nodes)

theorem nodes_tile {pieces : List Piece} (nonempty : ∀ piece ∈ pieces, piece.chars ≠ [])
    (start : Nat) :
    Node.Tile (start + Text.byteLength (written pieces)) start (Piece.nodes start pieces) := by
  induction pieces generalizing start with
  | nil => exact .nil
  | cons piece rest ih =>
    have positive := Text.byteLength_pos (nonempty piece List.mem_cons_self)
    -- the next node starts where this one stops
    rw [written_cons, Text.byteLength_append, ← Nat.add_assoc]
    refine .cons rfl ?_ (ih (fun other member => nonempty other (List.mem_cons_of_mem _ member)) _)
    change start < start + Text.byteLength piece.chars
    omega

section

variable (before after : Text)

theorem node_text (piece : Piece) :
    (piece.node (Text.byteLength before)).range.text (before ++ piece.chars ++ after) =
      .ok piece.chars := by
  have found := Range.text_whole ⟨before, piece.chars, after⟩
  simpa [Text.Excerpt.range, Text.Excerpt.start, Text.Excerpt.stop, Text.Excerpt.whole,
    Piece.node, Node.range] using found

theorem nodes_texts (pieces : List Piece) :
    (Piece.nodes (Text.byteLength before) pieces).mapM
        (fun node => node.range.text (before ++ written pieces ++ after)) =
      .ok (pieces.map Piece.chars) := by
  induction pieces generalizing before with
  | nil => rfl
  | cons piece rest ih =>
    have first := node_text before (written rest ++ after) piece
    have later := ih (before ++ piece.chars)
    simp only [List.append_assoc, Text.byteLength_append] at first later
    simp [Piece.nodes, List.mapM_cons, first, later, bind, Except.bind, pure, Except.pure]

end

end Numeral
