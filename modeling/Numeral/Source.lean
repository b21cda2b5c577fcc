import Numeral.Tree

set_option autoImplicit false

namespace Numeral

structure SourceFile where
  path : String
  text : Text
  deriving DecidableEq

namespace SourceFile

def length (file : SourceFile) : Nat :=
  Text.byteLength file.text

def span (file : SourceFile) (bounds : Bounds) : Except Fault Range :=
  Range.resolve bounds file.length

def print (file : SourceFile) : String :=
  "File(" ++ file.path ++ ")"

def printSpan (file : SourceFile) (range : Range) : Except Fault String := do
  let text ← range.text file.text
  return Text.Quoting.excerpt.quote text ++ " @ " ++ file.path ++ "[" ++ range.print ++ "]"

end SourceFile

structure Literal where
  file : SourceFile
  tree : Tree
  deriving DecidableEq

namespace Literal

def printSpan (literal : Literal) : Except Fault String :=
  literal.file.printSpan literal.tree.range

def printPart (literal : Literal) (part : Node) : Except Fault String := do
  let span ← literal.file.printSpan part.range
  return part.tag.print ++ " " ++ span

def print (literal : Literal) : Except Fault String :=
  literal.tree.outlineIn literal.file.text

end Literal

end Numeral
