import Numeral.Text
import Numeral.Unicode.Printable

set_option autoImplicit false

namespace Numeral.Text

structure Quoting where
  escapesApostrophe : Bool
  -- a mark inside a text shows on the character before it, so only a leading one needs an escape
  keepsInnerMarks : Bool

namespace Quoting

def excerpt : Quoting := ⟨false, false⟩

def wanted : Quoting := ⟨true, true⟩

private def hex (c : Char) : List Char :=
  "\\u\x7b".toList ++ Nat.toDigits 16 c.toNat ++ "\x7d".toList

def escape (quoting : Quoting) (leading : Bool) (c : Char) : List Char :=
  if c == '\x00' then ['\\', '0']
  else if c == '\t' then ['\\', 't']
  else if c == '\r' then ['\\', 'r']
  else if c == '\n' then ['\\', 'n']
  else if c == '"' || c == '\\' then ['\\', c]
  else if c == '\'' && quoting.escapesApostrophe then ['\\', c]
  else if Unicode.isExtending c && (leading || !quoting.keepsInnerMarks) then hex c
  else if Unicode.isPrintable c then [c]
  else hex c

def quote (quoting : Quoting) : Text → String
  | [] => "\"\""
  | c :: cs =>
    String.ofList
      ('"' :: quoting.escape true c ++ cs.flatMap (quoting.escape false) ++ ['"'])

end Quoting

end Numeral.Text
