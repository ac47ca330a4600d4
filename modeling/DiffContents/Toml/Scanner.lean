/-!
# Scanners

A scanner takes a value off the beginning of a text, or fails.  Scanners are run one after the
other, and `<|>` tries a second one where a first one fails.

Below the general scanners stand those for what may surround the parts of a TOML text: blanks,
line endings and comments.
-/

namespace DiffContents

namespace Toml

/-- **What takes a value off the beginning of a text.** -/
abbrev Scanner := StateT (List Char) Option

namespace Scanner

variable {α β : Type}

/-- A given character. -/
def char (c : Char) : Scanner Unit
  | [] => none
  | d :: cs => if d = c then some ((), cs) else none

/-- A character with a property. -/
def charWith (p : Char → Bool) : Scanner Char
  | [] => none
  | d :: cs => if p d then some (d, cs) else none

/-- Given characters, one after the other. -/
def chars : List Char → Scanner Unit
  | [] => pure ()
  | c :: cs => do
    char c
    chars cs

/-- As many characters with a property as there are. -/
def run (p : Char → Bool) : Scanner (List Char) := fun cs => some (cs.span p)

/-- At least one character with a property. -/
def run1 (p : Char → Bool) : Scanner (List Char) := do
  return (← charWith p) :: (← run p)

/-- The end of the text. -/
def finish : Scanner Unit
  | [] => some ((), [])
  | _ :: _ => none

/-- As many values as there are, at most a given number. -/
def upTo (s : Scanner α) : Nat → Scanner (List α)
  | 0, cs => some ([], cs)
  | n + 1, cs =>
    match s cs with
    | none => some ([], cs)
    | some (a, rest) => do
      let (as, rest) ← upTo s n rest
      return (a :: as, rest)

/-- As many values as there are, each of which takes a character at least. -/
def many (s : Scanner α) : Scanner (List α) := fun cs => upTo s cs.length cs

/-- At least one value, with separators between them. -/
def separated (s : Scanner α) (separator : Scanner β) : Scanner (List α) := do
  return (← s) :: (← many do
    let _ ← separator
    s)

/-! ## Between the parts of a text -/

/-- A space or a tab. -/
def isBlank (c : Char) : Bool := c = ' ' || c = '\t'

/-- Blanks, if there are any. -/
def blanks : Scanner Unit := do
  let _ ← run isBlank

/-- A line ending: a line feed, which a carriage return may precede. -/
def lineFeed : Scanner Unit := char '\n' <|> chars ['\r', '\n']

/-- A character that may stand in a line: a tab, or any character but a control character. -/
def isInline (c : Char) : Bool := c = '\t' || (0x20 ≤ c.toNat && c.toNat ≠ 0x7f)

/-- A comment, without the line ending after it. -/
def comment : Scanner Unit := do
  char '#'
  let _ ← run isInline

/-- The rest of a line after its last part. -/
def lineEnd : Scanner Unit := do
  blanks
  let _ ← optional comment
  lineFeed <|> finish

/-- Blanks, line endings and comments, if there are any. -/
def gaps : Scanner Unit := do
  let _ ← many ((do
    let _ ← charWith isBlank) <|> lineFeed <|> comment)

end Scanner

end Toml

end DiffContents
