import DiffContents.Toml.Scanner

/-!
# Quoted texts

The four ways to quote a text: between double quotes, where a backslash escapes what follows it,
or between single quotes, where every character stands for itself; and over one line, or over
several lines between three quotes of either kind.

Over several lines, the line ending after the opening quotes is dropped, every other one counts
as a line feed, and a backslash at the end of a line takes away all blanks and line endings up to
the next character.
-/

namespace DiffContents

namespace Toml

namespace Quotation

open Scanner

/-- The value of a hexadecimal digit. -/
def hexValue? (c : Char) : Option Nat :=
  if '0' ≤ c ∧ c ≤ '9' then some (c.toNat - '0'.toNat)
  else if 'a' ≤ c ∧ c ≤ 'f' then some (c.toNat - 'a'.toNat + 10)
  else if 'A' ≤ c ∧ c ≤ 'F' then some (c.toNat - 'A'.toNat + 10)
  else none

/-- The number that hexadecimal digits denote. -/
def hexNumber? (cs : List Char) : Option Nat :=
  cs.foldlM (fun n c => (hexValue? c).map (n * 16 + ·)) 0

/-- The character with the number that hexadecimal digits denote. -/
def hexChar? (cs : List Char) : Option Char := do
  let n ← hexNumber? cs
  if Nat.isValidChar n then some (Char.ofNat n) else none

/-- A given number of characters. -/
def take (n : Nat) : Scanner (List Char) := fun cs =>
  if n ≤ cs.length then some (cs.splitAt n) else none

/-- What follows a backslash, and the character it stands for. -/
def escaped : Scanner Char := do
  match ← charWith fun _ => true with
  | 'b' => return '\x08'
  | 't' => return '\t'
  | 'n' => return '\n'
  | 'f' => return '\x0c'
  | 'r' => return '\r'
  | '"' => return '"'
  | '\\' => return '\\'
  | 'u' => StateT.lift (hexChar? (← take 4))
  | 'U' => StateT.lift (hexChar? (← take 8))
  | _ => failure

/-- A character between quotes, as it is written over a single line. -/
def basicChar : Scanner Char :=
  charWith (fun c => isInline c && c ≠ '"' && c ≠ '\\') <|> (do
    char '\\'
    escaped)

/-- A text between double quotes. -/
def basic : Scanner String := do
  char '"'
  let cs ← many basicChar
  char '"'
  return String.ofList cs

/-- A text between single quotes. -/
def literal : Scanner String := do
  char '\x27'
  let cs ← run fun c => isInline c && c ≠ '\x27'
  char '\x27'
  return String.ofList cs

/-- A line ending, and the line feed it counts as. -/
def lineFeedChar : Scanner Char := do
  lineFeed
  return '\n'

/-- A backslash at the end of a line, with all it takes away. -/
def continued : Scanner (List Char) := do
  char '\\'
  blanks
  lineFeed
  let _ ← many ((do
    let _ ← charWith isBlank) <|> lineFeed)
  return []

/-- One or two quotes that another quote does not follow. -/
def loneQuotes (quote : Char) : Scanner (List Char) := do
  let quotes ← run (· = quote)
  if quotes.length = 1 || quotes.length = 2 then return quotes else failure

/-- The closing quotes of a text over several lines, and up to two quotes of the text itself in
front of them. -/
def closing (quote : Char) : Scanner (List Char) := do
  let quotes ← run (· = quote)
  if 3 ≤ quotes.length && quotes.length ≤ 5 then return quotes.drop 3 else failure

/-- A text over several lines, by what may stand in it besides quotes. -/
def block (quote : Char) (content : Scanner (List Char)) : Scanner String := do
  chars [quote, quote, quote]
  let _ ← optional lineFeed
  let parts ← many (content <|> loneQuotes quote)
  let last ← closing quote
  return String.ofList (parts.flatten ++ last)

/-- A text between three double quotes. -/
def basicBlock : Scanner String :=
  block '"' (continued <|> (do return [← basicChar <|> lineFeedChar]))

/-- A text between three single quotes. -/
def literalBlock : Scanner String :=
  block '\x27' do
    return [← charWith (fun c => isInline c && c ≠ '\x27') <|> lineFeedChar]

/-- **A quoted text** of any of the four kinds. -/
def any : Scanner String := basicBlock <|> basic <|> literalBlock <|> literal

end Quotation

end Toml

end DiffContents
