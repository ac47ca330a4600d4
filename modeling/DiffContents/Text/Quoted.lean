import DiffContents.Text.CodePoints
import DiffContents.Text.InvisibleTable

/-!
# Quoted text in messages

A message that repeats a text from its input puts it between double quotes and spells out every
character a reader could not see or would mistake: quotes, backslashes, control characters, and
the characters of `InvisibleTable`.
-/

namespace DiffContents

namespace Text

/-- The digits of a code point in lower-case hexadecimal. -/
def hexDigits (n : Nat) : List Char := Nat.toDigits 16 n

/-- A character as it stands in a quoted text. -/
def quoteChar (c : Char) : List Char :=
  if c = '\x00' then ['\\', '0']
  else if c = '\t' then ['\\', 't']
  else if c = '\r' then ['\\', 'r']
  else if c = '\n' then ['\\', 'n']
  else if c = '\\' then ['\\', '\\']
  else if c = '"' then ['\\', '"']
  else if c.toNat < 0x20 || c.toNat == 0x7f ||
      CodePoints.contains InvisibleTable.invisible c.toNat then
    ['\\', 'u', Char.ofNat 0x7b] ++ hexDigits c.toNat ++ [Char.ofNat 0x7d]
  else [c]

/-- **A text between quotes**, with nothing in it that does not show. -/
def quoted (s : String) : String :=
  String.ofList ('"' :: s.toList.flatMap quoteChar ++ ['"'])

end Text

end DiffContents
