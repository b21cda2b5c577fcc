import Numeral.Proofs.Tree.Layers
import Numeral.Proofs.Tree.Titles

set_option autoImplicit false

namespace Numeral

open Grammar

inductive Tree.MadeFrom (text : Text) (tree : Tree) : Prop where
  | classified {start stop : Nat} (made : classify text start stop = .ok tree)
  | tried {start stop : Nat} {form : Form}
      (made : classifyAs text start stop form = .ok (some tree))
  | recognized {offset : Nat} (made : recognize text offset = .ok (some tree))
  | found {trees : List Tree} (made : findAll text = .ok trees) (member : tree ∈ trees)
  | listed {path : String} {explains located : Bool} {index : Nat}
      {results : List (Literal × Option Diagnostic)} {result : Literal × Option Diagnostic}
      (made : SourceFile.literals explains located index ⟨path, text⟩ = .ok results)
      (member : result ∈ results) (own : result.1.tree = tree)
  | lookedUp {path : String} {explains located : Bool} {index offset : Nat}
      {result : Literal × Option Diagnostic}
      (made : SourceFile.literalAt explains located index ⟨path, text⟩ offset = .ok (some result))
      (own : result.1.tree = tree)

def Readable (text : Text) (entries : List Entry) : Prop :=
  ∀ entry ∈ entries, ∃ chars, entry.range.text text = .ok chars

structure Tree.HeldBy (tree : Tree) (text : Text) : Prop where
  nested : Nested tree.range.start tree.range.stop tree.entries
  readable : Readable text tree.entries
  tags : ∀ entry ∈ tree.entries, entry.tag ∈ Tag.possible

namespace Tree

theorem HeldBy.below {text : Text} {tree : Tree} (held : tree.HeldBy text) :
    Nested tree.range.start tree.range.stop tree.parts := by
  obtain ⟨below, rest, same, counted, inner, -⟩ :=
    held.nested.split (show tree.entries = [] ++ tree.root.entry :: tree.parts from rfl)
  -- the root counts every entry behind it, so none is left over
  have lengths := congrArg List.length same
  change tree.parts.length = below.length at counted
  rw [List.length_append] at lengths
  have all : rest = [] := List.length_eq_zero_iff.1 (by omega)
  rw [same, all, List.append_nil]
  exact inner

theorem invalid_heldBy (cut : Text.Excerpt) : (invalid cut.range).HeldBy cut.whole where
  nested := nested_entries (.nil cut.start_le_stop)
  readable := List.forall_mem_singleton.2 ⟨_, Range.text_whole cut⟩
  tags := List.forall_mem_singleton.2 (Tag.literal_possible List.mem_cons_self)

theorem parseExcerpt_heldBy {table : List Production} {cut : Text.Excerpt} {reading : Reading}
    (listed : ∀ production ∈ table, production ∈ productions)
    (found : (parseExcerpt table cut).result = some reading) :
    (ofReading cut.range reading).HeldBy cut.whole := by
  have described := parseExcerpt_describes listed found
  rw [parseExcerpt, parse, Trial.result_firstOf] at found
  obtain ⟨production, member, parsed⟩ := List.exists_of_findSome?_eq_some found
  obtain ⟨-, -, text, -⟩ := Production.parse_sound parsed
  refine
    { nested := nested_entries (ofReading_nested text)
      readable := List.forall_mem_cons.2 ⟨⟨_, Range.text_whole cut⟩, fun entry inside => ?_⟩
      tags := List.forall_mem_cons.2
        ⟨Tag.literal_possible (Kind.ofForm_possible _ _), fun entry inside => ?_⟩ }
  next =>
    obtain ⟨chars, read, -⟩ := described.fits entry inside
    exact ⟨chars, read⟩
  next =>
    obtain ⟨chars, -, fits⟩ := described.fits entry inside
    refine Tag.part_possible fun kind literal => ?_
    rw [literal] at fits
    exact fits

variable {text : Text} {start stop : Nat} {tree : Tree}

theorem classify_heldBy (made : classify text start stop = .ok tree) : tree.HeldBy text := by
  rcases flaw_or_cut text start stop with ⟨fault, flaw⟩ | ⟨cut, rfl, rfl, rfl, fits⟩
  next => cases made.symm.trans ((classify_decides text start stop fault).2 flaw)
  next =>
    obtain rfl := Except.ok.inj (made.symm.trans (classify_whole cut fits))
    unfold Text.Excerpt.outcome outcome
    split
    next found => exact parseExcerpt_heldBy (fun _ listed => listed) found
    next => exact invalid_heldBy cut

theorem classifyAs_heldBy {form : Form}
    (made : classifyAs text start stop form = .ok (some tree)) : tree.HeldBy text := by
  rcases flaw_or_cut text start stop with ⟨fault, flaw⟩ | ⟨cut, rfl, rfl, rfl, fits⟩
  next => cases made.symm.trans ((classifyAs_decides text start stop form fault).2 flaw)
  next =>
    have own := Except.ok.inj (made.symm.trans (classifyAs_whole cut fits form))
    obtain ⟨reading, found, rfl⟩ := Option.map_eq_some_iff.1 own.symm
    exact parseExcerpt_heldBy (fun _ listed => (mem_productionsOf.1 listed).2) found

theorem literalAt_tree {path : String} {explains located : Bool} {index offset : Nat}
    {result : Literal × Option Diagnostic}
    (made : SourceFile.literalAt explains located index ⟨path, text⟩ offset = .ok (some result)) :
    ∃ stop, classify text offset stop = .ok result.1.tree := by
  unfold SourceFile.literalAt at made
  split at made
  next => cases made
  next stop scanned =>
    cases one : SourceFile.literalBetween explains located index ⟨path, text⟩ offset stop with
    | error fault =>
      rw [one] at made
      cases made
    | ok other =>
      rw [one] at made
      obtain rfl := Option.some.inj (Except.ok.inj made)
      exact ⟨stop, literalBetween_tree one⟩

theorem MadeFrom.heldBy (made : tree.MadeFrom text) : tree.HeldBy text := by
  cases made with
  | classified made => exact classify_heldBy made
  | tried made => exact classifyAs_heldBy made
  | recognized made =>
    obtain ⟨stop, classified⟩ := recognize_tree made
    exact classify_heldBy classified
  | found made member =>
    obtain ⟨start, stop, classified⟩ := findAll_tree made tree member
    exact classify_heldBy classified
  | listed made member own =>
    obtain ⟨start, stop, classified⟩ := literals_tree made _ member
    exact classify_heldBy (own ▸ classified)
  | lookedUp made own =>
    obtain ⟨stop, classified⟩ := literalAt_tree made
    exact classify_heldBy (own ▸ classified)

end Tree

end Numeral
