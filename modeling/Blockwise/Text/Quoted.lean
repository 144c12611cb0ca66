import Blockwise.Text.Printable

/-!
# Quoted text

Error texts quote what was received.  A quoted text stands between double
quotes; quote and backslash get a backslash, the control characters NUL, tab,
carriage return and line feed have short forms, and every other character that
does not print on its own is given by its code point.
-/

namespace Blockwise.Text

/-- A character given by its code point, in hexadecimal digits. -/
def escapeByNumber (c : Char) : List Char :=
  "\\u\x7b".toList ++ Nat.toDigits 16 c.toNat ++ ['\x7d']

/-- A character as it stands in a quoted text. -/
def escape (c : Char) : List Char :=
  if c = '\x00' then ['\\', '0']
  else if c = '\t' then ['\\', 't']
  else if c = '\r' then ['\\', 'r']
  else if c = '\n' then ['\\', 'n']
  else if c = '"' ∨ c = '\\' then ['\\', c]
  else if isPrintable c then [c]
  else escapeByNumber c

/-- A text between double quotes. -/
def quote (text : String) : String :=
  String.ofList ('"' :: text.toList.flatMap escape ++ ['"'])

end Blockwise.Text
