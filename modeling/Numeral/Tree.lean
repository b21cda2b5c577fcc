import Numeral.Range
import Numeral.Tag
import Numeral.Text.Quoted

/-!
Trees of tagged ranges, stored flat in preorder: every entry says how many of the entries after
it lie below it. The root is the numeral as a whole, so a tree is never empty.
-/

set_option autoImplicit false

namespace Numeral

structure Entry where
  tag : Tag
  range : Range
  descendants : Nat
  deriving DecidableEq

structure Tree where
  kind : Kind
  range : Range
  parts : List Entry
  deriving DecidableEq

structure Node where
  entry : Entry
  below : List Entry
  deriving DecidableEq

namespace Node

def tag (node : Node) : Tag :=
  node.entry.tag

def range (node : Node) : Range :=
  node.entry.range

def isLeaf (node : Node) : Bool :=
  node.entry.descendants == 0

def siblings : List Entry → List Node
  | [] => []
  | entry :: rest =>
    ⟨entry, rest.take entry.descendants⟩ :: siblings (rest.drop entry.descendants)
termination_by entries => entries.length
decreasing_by simp only [List.length_drop, List.length_cons]; omega

def children (node : Node) : List Node :=
  siblings node.below

def child? (node : Node) (tag : Tag) : Option Node :=
  node.children.find? fun child => child.tag == tag

def at? (entries : List Entry) (index : Nat) : Option Node :=
  entries[index]?.map fun entry => ⟨entry, (entries.drop (index + 1)).take entry.descendants⟩

def siblingsFrom (entries : List Entry) (stop : Nat) : Nat → Nat → Except Fault (List Nat)
  | 0, _ => return []
  | room + 1, next =>
    if stop ≤ next then return []
    else
      match entries[next]? with
      | none => throw .badSlice
      | some entry =>
        return next :: (← siblingsFrom entries stop room (next + 1 + entry.descendants))

def childrenAt (entries : List Entry) (index : Nat) : Except Fault (List Nat) :=
  match entries[index]? with
  | none => throw .badSlice
  | some entry =>
    siblingsFrom entries (index + 1 + entry.descendants) entry.descendants (index + 1)

def print (node : Node) : String :=
  node.tag.print ++ " @ " ++ node.range.print

def outlineLine (depth : Nat) (text : String) (node : Node) : String :=
  String.ofList (List.replicate (2 * depth) ' ') ++ node.tag.title ++ " " ++ node.range.print ++
    text ++ (node.tag.scope?.elim "" fun scope => " " ++ scope) ++ "\n"

end Node

namespace Tree

def entries (tree : Tree) : List Entry :=
  ⟨.literal tree.kind, tree.range, tree.parts.length⟩ :: tree.parts

def root (tree : Tree) : Node :=
  ⟨⟨.literal tree.kind, tree.range, tree.parts.length⟩, tree.parts⟩

def size (tree : Tree) : Nat :=
  tree.entries.length

/-- Visits entries in order. `ends` holds where the open ancestors end, the innermost first, so
its length is the depth once those that have ended are gone. -/
def walkFrom (index : Nat) (ends : List Nat) : List Entry → List (Nat × Node)
  | [] => []
  | entry :: rest =>
    let above := ends.dropWhile fun stop => stop ≤ index
    (above.length, ⟨entry, rest.take entry.descendants⟩) ::
      walkFrom (index + 1) ((index + 1 + entry.descendants) :: above) rest

def walk (tree : Tree) : List (Nat × Node) :=
  walkFrom 0 [] tree.entries

def invalid (range : Range) : Tree :=
  ⟨.invalid, range, []⟩

def outline (tree : Tree) : String :=
  String.join (tree.walk.map fun visit => visit.2.outlineLine visit.1 "")

def outlineLinesIn (source : Text) (tree : Tree) : Except Fault (List String) :=
  tree.walk.mapM fun visit => do
    let text ← visit.2.range.text source
    return visit.2.outlineLine visit.1 (" " ++ Text.Quoting.excerpt.quote text)

def outlineIn (source : Text) (tree : Tree) : Except Fault String :=
  (tree.outlineLinesIn source).map String.join

end Tree

end Numeral
