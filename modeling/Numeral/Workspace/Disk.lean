import Numeral.Source

set_option autoImplicit false

namespace Numeral

inductive Disk where
  | absent
  | directory
  | bytes (content : ByteArray)
  -- reading fails for a reason of the system's own
  | unreadable (why : String)

inductive ReadError where
  | nulInPath
  | notFound
  | nameTooLong
  | isDirectory
  | other (why : String)
  deriving DecidableEq

def ReadError.message : ReadError → String
  | .nulInPath => "file name contained an unexpected NUL byte"
  | .notFound => "No such file or directory (os error 2)"
  | .nameTooLong => "File name too long (os error 36)"
  | .isDirectory => "Is a directory (os error 21)"
  | .other why => why

namespace Disk

def longestName : Nat := 255

def longestPath : Nat := 4095

def isName (step : String) : Bool := step != "" && step != "." && step != ".."

def steps (path : String) : List String := (path.splitOn "/").filter isName

def isMakeable (path : String) : Bool :=
  !path.toList.contains '\x00' && path.utf8ByteSize ≤ longestPath &&
    (steps path).all fun step => step.utf8ByteSize ≤ longestName

/-- Whether the path ends as the `.` of a named directory. One that is still to be made has no `.`
under which it could be made. -/
def endsInside (path : String) : Bool :=
  let ends := ((path.splitOn "/").filter (· != "")).reverse
  ends.head? == some "." && (ends.dropWhile (· == ".")).head?.any isName

/-- Whether the disk can be so: a file is made under its own name, which comes last. -/
def isPossible (path : String) : Disk → Bool
  | .absent => true
  | .directory => isMakeable path && !endsInside path
  | .bytes _ => isMakeable path && (path.splitOn "/").getLast?.any isName
  | .unreadable _ => isMakeable path

-- nothing exists under the path, so only its first name is looked up
def missing (path : String) : ReadError :=
  match steps path with
  | [] => .isDirectory
  | name :: _ => if longestName < name.utf8ByteSize then .nameTooLong else .notFound

-- the empty path leads nowhere, not even to the directory that it starts from
def read (path : String) (disk : Disk) : Except ReadError ByteArray :=
  if path = "" then .error .notFound
  else if path.toList.contains '\x00' then .error .nulInPath
  else if longestPath < path.utf8ByteSize then .error .nameTooLong
  else match disk with
    | .absent => .error (missing path)
    | .directory => .error .isDirectory
    | .bytes content => .ok content
    | .unreadable why => .error (.other why)

def openFile (path : String) (disk : Disk) : Except String SourceFile :=
  match disk.read path with
  | .error why => .error ("could not open input file `" ++ path ++ "`: " ++ why.message)
  | .ok content =>
    match String.fromUTF8? content with
    | none => .error ("input file `" ++ path ++ "` was not valid UTF-8")
    | some text => .ok ⟨path, text.toList⟩

end Disk

end Numeral
