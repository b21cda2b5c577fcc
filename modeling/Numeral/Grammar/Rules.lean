import Numeral.Grammar.Trial
import Numeral.Tag
import Numeral.Unicode.Word

set_option autoImplicit false

namespace Numeral.Grammar

structure Piece where
  tag : Tag
  chars : Text
  deriving DecidableEq

structure Cursor where
  pieces : List Piece
  rest : Text
  deriving DecidableEq

namespace Cursor

def read (cursor : Cursor) : Text :=
  cursor.pieces.flatMap Piece.chars

def behind (cursor : Cursor) : Option Char :=
  cursor.read.getLast?

def take (cursor : Cursor) (tag : Tag) (chars rest : Text) : Cursor :=
  ⟨cursor.pieces ++ [⟨tag, chars⟩], rest⟩

def miss {α : Type} (cursor : Cursor) (form : Form) (more : Text) (want : Want) : Trial α :=
  .stuck ⟨form, cursor.read ++ more, want⟩

@[simp] theorem read_take (cursor : Cursor) (tag : Tag) (chars rest : Text) :
    (cursor.take tag chars rest).read = cursor.read ++ chars := by
  simp [read, take]

end Cursor

def startsWithDigit (radix : Radix) : Text → Bool
  | [] => false
  | c :: _ => radix.isDigit c

def groupTail (radix : Radix) : Text → Text
  | [] => []
  | c :: cs =>
    if radix.isDigit c then c :: groupTail radix cs
    else if radix.hasSeparators && c == separator && startsWithDigit radix cs then
      c :: groupTail radix cs
    else []

def group (radix : Radix) : Text → Text
  | [] => []
  | c :: cs => if radix.isDigit c then c :: groupTail radix cs else []

theorem groupTail_isPrefix (radix : Radix) (text : Text) : groupTail radix text <+: text := by
  induction text with
  | nil => simp [groupTail]
  | cons c cs ih =>
    simp only [groupTail]
    split
    next => exact (List.cons_prefix_cons).2 ⟨rfl, ih⟩
    next =>
      split
      next => exact (List.cons_prefix_cons).2 ⟨rfl, ih⟩
      next => exact List.nil_prefix

theorem group_isPrefix (radix : Radix) (text : Text) : group radix text <+: text := by
  cases text with
  | nil => simp [group]
  | cons c cs =>
    simp only [group]
    split
    next => exact (List.cons_prefix_cons).2 ⟨rfl, groupTail_isPrefix radix cs⟩
    next => exact List.nil_prefix

def takeGroup (form : Form) (radix : Radix) (tag : Tag) (want : Want) (cursor : Cursor) :
    Trial Cursor :=
  match group radix cursor.rest with
  | [] => cursor.miss form [] want
  | digits => .done (cursor.take tag digits (cursor.rest.drop digits.length))

def takeDigits (form : Form) : Cursor → Trial Cursor :=
  takeGroup form form.radix (.digits form.radix) (.digit form.radix)

def radixLetters : List Char := ['x', 'X', 'b', 'B', 'o', 'O']

/-- Takes nothing: a digit or a point has to come, but no prefix of another radix. -/
def expectUnprefixed (form : Form) (cursor : Cursor) : Trial Cursor :=
  match cursor.rest with
  | '0' :: c :: _ =>
    if radixLetters.contains c then cursor.miss form ['0'] (.digit .decimal) else .done cursor
  | c :: _ =>
    if Radix.decimal.isDigit c || c == point then .done cursor
    else cursor.miss form [] (.digit .decimal)
  | [] => cursor.miss form [] (.digit .decimal)

def prefixLetter? (radix : Radix) : Text → Option (Char × Text)
  | [] => none
  | c :: cs => if c ∈ radix.prefixLetters then some (c, cs) else none

def takePrefix (form : Form) (cursor : Cursor) : Trial Cursor :=
  match cursor.rest with
  | '0' :: rest =>
    match prefixLetter? form.radix rest with
    | some (c, after) => .done (cursor.take (.radixPrefix form.radix) ['0', c] after)
    | none =>
      if form.radix = .octal then .done (cursor.take (.radixPrefix form.radix) ['0'] rest)
      else cursor.miss form ['0'] (.digit form.radix)
  | _ => cursor.miss form [] (.digit .decimal)

def takeSeparator (cursor : Cursor) : Trial Cursor :=
  match cursor.rest with
  | c :: rest => if c = separator then .done (cursor.take .separator [c] rest) else .fail
  | [] => .fail

def takeInteger (form : Form) (cursor : Cursor) : Trial Cursor :=
  (takeGroup form .decimal (.digits .decimal) (.digit .decimal) cursor).andThen fun next =>
    match group .decimal cursor.rest with
    | '0' :: _ :: _ => cursor.miss form ['0'] .finish
    | _ => .done next

def takePoint (form : Form) (cursor : Cursor) : Trial Cursor :=
  match cursor.rest with
  | c :: rest =>
    if c = point ∧
        (cursor.behind.any form.radix.isDigit || startsWithDigit form.radix rest) = true then
      .done (cursor.take (.point form.radix) [c] rest)
    else cursor.miss form [] .point
  | [] => cursor.miss form [] .point

def takeMarker (form : Form) (cursor : Cursor) : Trial Cursor :=
  match cursor.rest with
  | c :: rest =>
    if c ∈ form.radix.exponentMarkers ∧ cursor.behind ≠ some separator then
      .done (cursor.take (.exponentMarker form.radix) [c] rest)
    else cursor.miss form [] (.exponent form.radix)
  | [] => cursor.miss form [] (.exponent form.radix)

def takeSign (form : Form) (cursor : Cursor) : Cursor :=
  match cursor.rest with
  | '+' :: rest => cursor.take (.exponentSign .pos form.radix) ['+'] rest
  | '-' :: rest => cursor.take (.exponentSign .neg form.radix) ['-'] rest
  | _ => cursor

def takeExponent (form : Form) (cursor : Cursor) : Trial Cursor :=
  (takeMarker form cursor).andThen fun next =>
    takeGroup form .decimal (.exponentDigits form.radix) .exponentDigit (takeSign form next)

/-- The unit must not run on into a word; the word may go on past the end of the candidate. -/
def takeImaginary (form : Form) (wordAfter : Bool) (cursor : Cursor) : Trial Cursor :=
  match cursor.rest with
  | c :: rest =>
    if c = imaginaryUnit then
      if (rest.head?.map Unicode.isWord).getD wordAfter then cursor.miss form [c] .finish
      else .done (cursor.take .imaginary [c] rest)
    else .fail
  | [] => .fail

def expectEnd (form : Form) (cursor : Cursor) : Trial Cursor :=
  match cursor.rest with
  | [] => .done cursor
  | _ => cursor.miss form [] .finish

end Numeral.Grammar
