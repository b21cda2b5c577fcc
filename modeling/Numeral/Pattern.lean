import Numeral.Tree

set_option autoImplicit false

namespace Numeral

structure Wanted where
  text : Option Text
  range : Option Range
  deriving DecidableEq

inductive Pattern where
  | node (tag : Tag) (wanted : Wanted) (children : List Pattern)

namespace Wanted

def any : Wanted :=
  ⟨none, none⟩

def exactly (text : Text) (range : Range) : Wanted :=
  ⟨some text, some range⟩

def accepts (wanted : Wanted) (source : Text) (range : Range) : Except Fault Bool := do
  let sameText ← match wanted.text with
    | none => pure true
    | some text => do
      let found ← range.text source
      pure (found == text)
  return sameText && wanted.range.all fun expected => expected == range

def print (wanted : Wanted) : String :=
  let text := wanted.text.elim "<any>" Text.Quoting.wanted.quote
  match wanted.range with
  | some range => text ++ " @ " ++ range.print
  | none => text

end Wanted

namespace Pattern

def tag : Pattern → Tag
  | node tag _ _ => tag

def wanted : Pattern → Wanted
  | node _ wanted _ => wanted

def children : Pattern → List Pattern
  | node _ _ children => children

def leaf (tag : Tag) (wanted : Wanted) : Pattern :=
  node tag wanted []

def withChild (pattern child : Pattern) : Pattern :=
  node pattern.tag pattern.wanted (pattern.children ++ [child])

mutual

def print : Pattern → String
  | node tag wanted [] => tag.print ++ " \x7b text: " ++ wanted.print ++ " \x7d"
  | node tag wanted (child :: rest) =>
    tag.print ++ " \x7b text: " ++ wanted.print ++ ", children: [" ++ print child ++
      printRest rest ++ "] \x7d"

private def printRest : List Pattern → String
  | [] => ""
  | pattern :: rest => ", " ++ print pattern ++ printRest rest

end

private def indent (depth : Nat) : String :=
  String.ofList (List.replicate (4 * depth) ' ')

mutual

def printLines (depth : Nat) : Pattern → String
  | node tag wanted children =>
    let fields := match children with
      | [] => ""
      | children =>
        indent (depth + 1) ++ "children: [\n" ++ printChildren (depth + 2) children ++
          indent (depth + 1) ++ "],\n"
    tag.print ++ " \x7b\n" ++ indent (depth + 1) ++ "text: " ++ wanted.print ++ ",\n" ++
      fields ++ indent depth ++ "\x7d"

private def printChildren (depth : Nat) : List Pattern → String
  | [] => ""
  | pattern :: rest =>
    indent depth ++ printLines depth pattern ++ ",\n" ++ printChildren depth rest

end

end Pattern

end Numeral
