import Numeral.Grammar.Rules

set_option autoImplicit false

namespace Numeral.Grammar

inductive Step where
  | unprefixed
  | radixPrefix
  | prefixSeparator
  | digits
  | maybeDigits
  | integer
  | point
  | exponent
  | maybeExponent
  deriving DecidableEq

def Step.run (form : Form) : Step → Cursor → Trial Cursor
  | unprefixed, cursor => expectUnprefixed form cursor
  | radixPrefix, cursor => takePrefix form cursor
  | prefixSeparator, cursor => .optional cursor (takeSeparator cursor)
  | digits, cursor => takeDigits form cursor
  | maybeDigits, cursor => .optional cursor (takeDigits form cursor)
  | integer, cursor => takeInteger form cursor
  | point, cursor => takePoint form cursor
  | exponent, cursor => takeExponent form cursor
  | maybeExponent, cursor => .optional cursor (takeExponent form cursor)

def runSteps (form : Form) : List Step → Cursor → Trial Cursor
  | [], cursor => .done cursor
  | step :: steps, cursor => (step.run form cursor).andThen (runSteps form steps)

structure Production where
  form : Form
  steps : List Step
  deriving DecidableEq

def alternatives : Form → List (List Step)
  | .decimalFloat =>
    [[.unprefixed, .digits, .point, .maybeDigits, .maybeExponent],
     [.unprefixed, .digits, .exponent],
     [.point, .digits, .maybeExponent]]
  | .hexFloat =>
    [[.radixPrefix, .prefixSeparator, .digits, .point, .maybeDigits, .exponent],
     [.radixPrefix, .prefixSeparator, .digits, .exponent],
     [.radixPrefix, .point, .digits, .exponent]]
  | .decimalInt => [[.unprefixed, .integer]]
  | .binaryInt | .octalInt | .hexInt => [[.radixPrefix, .prefixSeparator, .digits]]

def productionsOf (form : Form) : List Production :=
  (alternatives form).map fun steps => ⟨form, steps⟩

def productions : List Production :=
  Form.precedence.flatMap productionsOf

structure Reading where
  form : Form
  imaginary : Bool
  pieces : List Piece
  deriving DecidableEq

def finish (form : Form) (wordAfter : Bool) (cursor : Cursor) : Trial Reading :=
  let suffix := takeImaginary form wordAfter cursor
  (suffix.optional cursor).andThen fun last =>
    (expectEnd form last).andThen fun _ =>
      .done ⟨form, suffix.result.isSome, last.pieces⟩

def Production.parse (chars : Text) (wordAfter : Bool) (production : Production) :
    Trial Reading :=
  (runSteps production.form production.steps ⟨[], chars⟩).andThen
    (finish production.form wordAfter)

def parse (table : List Production) (chars : Text) (wordAfter : Bool) : Trial Reading :=
  Trial.firstOf (Production.parse chars wordAfter) table

end Numeral.Grammar
