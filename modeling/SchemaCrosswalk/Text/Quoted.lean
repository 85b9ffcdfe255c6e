import SchemaCrosswalk.Text.Blank
import SchemaCrosswalk.Text.Printable

/-!
# Quoted text — a text shown between double quotes

Quotes, backslashes and line ends are escaped by a backslash, and a character that cannot be seen
on its own is shown by its number.
-/

namespace SchemaCrosswalk.Text

/-- Lower-case hexadecimal digits of a number. -/
def hexDigits (n : Nat) : List Char := Nat.toDigits 16 n

/-- A character inside double quotes. -/
def quotedChar (c : Char) : List Char :=
  if c = '\x00' then ['\\', '0']
  else if c = '\t' then ['\\', 't']
  else if c = '\r' then ['\\', 'r']
  else if c = '\n' then ['\\', 'n']
  else if c = '\\' then ['\\', '\\']
  else if c = '"' then ['\\', '"']
  else if inRanges extendingRanges c.toNat || inRanges unprintableRanges c.toNat then
    ['\\', 'u', '\x7b'] ++ hexDigits c.toNat ++ ['\x7d']
  else [c]

/-- A text between double quotes. -/
def quoted (s : String) : String :=
  String.ofList (['"'] ++ s.toList.flatMap quotedChar ++ ['"'])

end SchemaCrosswalk.Text
