import Numeral.Pattern.Mismatch

/-!
Comparing a tree with a pattern in one pass. A pattern may be wrong in very many places, so only
the first few mismatches are kept and the others are counted; the path is a stack on which the
child numbers of the levels above are left as they were.
-/

set_option autoImplicit false

namespace Numeral

structure Comparison where
  -- the innermost child number first
  stack : List Nat
  kept : List Mismatch
  count : Nat
  deriving DecidableEq

namespace Comparison

def start : Comparison :=
  ⟨[], [], 0⟩

def room : Nat := 10

def note (reason : Mismatch.Reason) (state : Comparison) : Comparison :=
  let kept := if state.count < room then state.kept ++ [⟨state.stack.reverse, reason⟩]
    else state.kept
  { state with kept := kept, count := state.count + 1 }

def enter (state : Comparison) : Comparison :=
  { state with stack := 0 :: state.stack }

def advance (state : Comparison) : Comparison :=
  match state.stack with
  | [] => state
  | index :: above => { state with stack := (index + 1) :: above }

def leave (state : Comparison) : Comparison :=
  { state with stack := state.stack.tail }

def leaveUneven (state : Comparison) : Comparison :=
  state.leave.note (.childCount (state.stack.head?.getD 0))

def compareTag (wanted : Tag) (node : Node) (state : Comparison) : Comparison :=
  if wanted = node.tag then state else state.note (.tag wanted node.tag)

def compareText (source : Text) (wanted : Wanted) (node : Node) (state : Comparison) :
    Except Fault Comparison := do
  if ← wanted.accepts source node.range then return state
  let found ← node.range.text source
  return state.note (.text wanted found node.range)

mutual

def compare (source : Text) : Pattern → Node → Comparison → Except Fault Comparison
  | .node tag wanted patterns, found, state => do
    let state ← (state.compareTag tag found).compareText source wanted found
    compareChildren source patterns found.children state.enter

def compareChildren (source : Text) :
    List Pattern → List Node → Comparison → Except Fault Comparison
  | [], [], state => return state.leave
  | pattern :: patterns, child :: children, state => do
    let state ← compare source pattern child state
    compareChildren source patterns children state.advance
  | [], _ :: _, state => return state.leaveUneven
  | _ :: _, [], state => return state.leaveUneven

end

def print (state : Comparison) : String :=
  String.join (state.kept.map Mismatch.print) ++
    if room < state.count then
      "... and " ++ toString (state.count - room) ++ " more errors\n"
    else ""

end Comparison

namespace Pattern

def explain? (pattern : Pattern) (source : Text) (tree : Tree) :
    Except Fault (Option String) := do
  let state ← Comparison.compare source pattern tree.root .start
  if state.count = 0 then return none
  let outline ← tree.outlineIn source
  return some (state.print ++ "\n" ++ outline)

def expectMatch (pattern : Pattern) (source : Text) (tree : Tree) : Except Fault Unit := do
  match ← pattern.explain? source tree with
  | none => return ()
  | some why => throw (.unmatched why)

end Pattern

end Numeral
