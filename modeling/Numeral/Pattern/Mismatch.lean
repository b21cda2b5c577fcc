import Numeral.Pattern

set_option autoImplicit false

namespace Numeral

inductive Mismatch.Reason where
  | tag (wanted found : Tag)
  | text (wanted : Wanted) (found : Text) (range : Range)
  | childCount (compared : Nat)
  deriving DecidableEq

structure Mismatch where
  path : List Nat
  reason : Mismatch.Reason
  deriving DecidableEq

namespace Mismatch

def Reason.print : Reason → String
  | .tag wanted found => "wrong tag; want " ++ wanted.print ++ ", got " ++ found.print
  | .text wanted found range =>
    "wrong node text; want " ++ wanted.print ++ ", got " ++ Text.Quoting.excerpt.quote found ++
      " @ " ++ range.print
  | .childCount compared =>
    "children had unequal lengths (got to " ++ toString compared ++ ")"

def print (mismatch : Mismatch) : String :=
  "at root" ++ String.join (mismatch.path.map fun index => "[" ++ toString index ++ "]") ++
    ": " ++ mismatch.reason.print ++ "\n"

end Mismatch

namespace Pattern

def ofTag (path : List Nat) (wanted : Tag) (node : Node) : List Mismatch :=
  if wanted = node.tag then [] else [⟨path, .tag wanted node.tag⟩]

def ofText (source : Text) (path : List Nat) (wanted : Wanted) (node : Node) :
    Except Fault (List Mismatch) := do
  if ← wanted.accepts source node.range then return []
  let found ← node.range.text source
  return [⟨path, .text wanted found node.range⟩]

mutual

def mismatches (source : Text) (path : List Nat) : Pattern → Node → Except Fault (List Mismatch)
  | .node tag wanted patterns, found => do
    let here ← ofText source path wanted found
    let below ← childMismatches source path 0 patterns found.children
    return ofTag path tag found ++ here ++ below

def childMismatches (source : Text) (path : List Nat) (index : Nat) :
    List Pattern → List Node → Except Fault (List Mismatch)
  | [], [] => return []
  | pattern :: patterns, child :: children => do
    let first ← mismatches source (path ++ [index]) pattern child
    let rest ← childMismatches source path (index + 1) patterns children
    return first ++ rest
  | [], _ :: _ => return [⟨path, .childCount index⟩]
  | _ :: _, [] => return [⟨path, .childCount index⟩]

end

end Pattern

end Numeral
