import Numeral.Classify
import Numeral.Report.Diagnostic
import Numeral.Source

set_option autoImplicit false

namespace Numeral

inductive Expected where
  | literal (text : String)
  | name (name : String)
  deriving DecidableEq

def Expected.print : Expected → String
  | .literal text => "`" ++ text ++ "`"
  | .name description => description

structure Explanation where
  range : Range
  message : String
  notes : List String
  deriving DecidableEq

namespace Miss

/-- The character that was found instead. Only the end of a numeral is looked for past it. -/
def found? (excerpt : Text.Excerpt) (miss : Miss) : Option Char :=
  let rest := excerpt.inside.drop miss.read.length
  match miss.want with
  | .finish => (rest ++ excerpt.after).head?
  | _ => rest.head?

def explain (excerpt : Text.Excerpt) (start : Nat) (miss : Miss) : Explanation :=
  let here := start + Text.byteLength miss.read
  let want := (Expected.name miss.want.name).print
  match miss.found? excerpt with
  | none => ⟨⟨here, here⟩, "expected " ++ want ++ " after this", []⟩
  | some c =>
    let range : Range := ⟨here, here + c.utf8Size⟩
    let found := (Expected.literal (String.singleton c)).print
    if c = separator then
      ⟨range, "unexpected digit separator",
        ["digit separators may only appear between two digits"]⟩
    else if miss.want = .finish then
      ⟨range, "unexpected " ++ found ++ " in " ++ miss.form.name, []⟩
    else ⟨range, "expected " ++ want ++ ", found " ++ found, []⟩

end Miss

def diagnose (explains located : Bool) (index : Nat) (file : SourceFile) (range : Range)
    (miss : Option Miss) : Except Fault Diagnostic := do
  let plain := Diagnostic.invalidLiteral index range located
  if !explains then return plain
  match miss, Text.excerpt? file.text range.start range.stop with
  | some miss, some excerpt => do
    let why := miss.explain excerpt range.start
    let place ← file.span (Range.between why.range.start why.range.stop)
    return why.notes.foldl (fun diagnostic text => diagnostic.note text)
      (plain.remark index place why.message)
  | _, _ => return plain

namespace SourceFile

def literalBetween (explains located : Bool) (index : Nat) (file : SourceFile)
    (start stop : Nat) : Except Fault (Literal × Option Diagnostic) := do
  let (tree, miss) ← examine file.text start stop
  if tree.kind.isInvalid then
    let diagnostic ← diagnose explains located index file tree.range miss
    return (⟨file, tree⟩, some diagnostic)
  else return (⟨file, tree⟩, none)

def literals (explains located : Bool) (index : Nat) (file : SourceFile) :
    Except Fault (List (Literal × Option Diagnostic)) :=
  (Candidate.all file.text).mapM fun ends =>
    file.literalBetween explains located index ends.1 ends.2

/-- What one numeral leaves in a report, also where a fault ends the search: one that cannot be
explained is reported without its explanation. -/
def leftBetween (explains located : Bool) (index : Nat) (file : SourceFile) (start stop : Nat) :
    List Diagnostic :=
  match examine file.text start stop with
  | .error _ => []
  | .ok (tree, miss) =>
    if tree.kind.isInvalid then
      match diagnose explains located index file tree.range miss with
      | .ok diagnostic => [diagnostic]
      | .error _ => [.invalidLiteral index tree.range located]
    else []

def leftBy (explains located : Bool) (index : Nat) (file : SourceFile) :
    List (Nat × Nat) → List Diagnostic
  | [] => []
  | ends :: rest =>
    file.leftBetween explains located index ends.1 ends.2 ++
      match file.literalBetween explains located index ends.1 ends.2 with
      | .ok _ => file.leftBy explains located index rest
      | .error _ => []

def literalAt (explains located : Bool) (index : Nat) (file : SourceFile) (offset : Nat) :
    Except Fault (Option (Literal × Option Diagnostic)) :=
  match Candidate.scan file.text offset with
  | none => .ok none
  | some stop => (file.literalBetween explains located index offset stop).map some

end SourceFile

end Numeral
