import DiffContents.Decimal.FloatText
import DiffContents.Json.Value

/-!
# JSON texts

Two layouts of a JSON value: `compact` writes it without white space, `pretty` with every
element and every member on a line of its own, two columns further in than what holds it.

In a string only quotes, backslashes and control characters are escaped.
-/

namespace DiffContents

namespace Json

/-- A hexadecimal digit. -/
def hexDigit (n : Nat) : Char := Nat.digitChar n

/-- A character as it stands in a string. -/
def escapeChar (c : Char) : List Char :=
  if c = '"' then ['\\', '"']
  else if c = '\\' then ['\\', '\\']
  else if c = '\n' then ['\\', 'n']
  else if c = '\r' then ['\\', 'r']
  else if c = '\t' then ['\\', 't']
  else if c = '\x08' then ['\\', 'b']
  else if c = '\x0c' then ['\\', 'f']
  else if c.toNat < 0x20 then
    ['\\', 'u', '0', '0', hexDigit (c.toNat / 16), hexDigit (c.toNat % 16)]
  else [c]

/-- The text of a string. -/
def stringChars (s : String) : List Char := '"' :: s.toList.flatMap escapeChar ++ ['"']

/-- The text of a number. -/
def Number.chars : Number → List Char
  | .int n => (toString n).toList
  | .float f => (FloatText.render f).toList

mutual

/-- The text of a value without white space. -/
def compactChars : Json → List Char
  | .null => ['n', 'u', 'l', 'l']
  | .bool true => ['t', 'r', 'u', 'e']
  | .bool false => ['f', 'a', 'l', 's', 'e']
  | .number n => n.chars
  | .string s => stringChars s
  | .array elements => '[' :: compactElements elements ++ [']']
  | .object members => '{' :: compactMembers members ++ ['}']

/-- Elements with commas between them. -/
def compactElements : List Json → List Char
  | [] => []
  | [j] => compactChars j
  | j :: js => compactChars j ++ ',' :: compactElements js

/-- Members with commas between them. -/
def compactMembers : List (String × Json) → List Char
  | [] => []
  | [(name, j)] => stringChars name ++ ':' :: compactChars j
  | (name, j) :: ms => stringChars name ++ ':' :: (compactChars j ++ ',' :: compactMembers ms)

end

/-- A line break and the white space of a nesting depth. -/
def lineBreak (depth : Nat) : List Char := '\n' :: List.replicate (2 * depth) ' '

mutual

/-- The text of a value that stands at a nesting depth. -/
def prettyChars (depth : Nat) : Json → List Char
  | .array [] => ['[', ']']
  | .array (j :: js) =>
    '[' :: lineBreak (depth + 1) ++ prettyChars (depth + 1) j ++
      prettyElements (depth + 1) js ++ lineBreak depth ++ [']']
  | .object [] => ['{', '}']
  | .object ((name, j) :: ms) =>
    '{' :: lineBreak (depth + 1) ++ stringChars name ++ ':' :: ' ' ::
      prettyChars (depth + 1) j ++ prettyMembers (depth + 1) ms ++ lineBreak depth ++ ['}']
  | .null => ['n', 'u', 'l', 'l']
  | .bool true => ['t', 'r', 'u', 'e']
  | .bool false => ['f', 'a', 'l', 's', 'e']
  | .number n => n.chars
  | .string s => stringChars s

/-- The elements after the first one. -/
def prettyElements (depth : Nat) : List Json → List Char
  | [] => []
  | j :: js => ',' :: lineBreak depth ++ prettyChars depth j ++ prettyElements depth js

/-- The members after the first one. -/
def prettyMembers (depth : Nat) : List (String × Json) → List Char
  | [] => []
  | (name, j) :: ms =>
    ',' :: lineBreak depth ++ stringChars name ++ ':' :: ' ' :: prettyChars depth j ++
      prettyMembers depth ms

end

/-- **The text of a value without white space.** -/
def compact (j : Json) : String := String.ofList j.compactChars

/-- **The text of a value over several lines.** -/
def pretty (j : Json) : String := String.ofList (j.prettyChars 0)

end Json

end DiffContents
