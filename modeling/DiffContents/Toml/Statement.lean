import DiffContents.Toml.Numeral
import DiffContents.Toml.Quotation
import DiffContents.Toml.Tables

/-!
# Statements of a TOML text

A TOML text is a list of statements, each on a line of its own: a value given to a key, or the
heading of a table or of an element of an array of tables.  `Toml.parse?` is the table that all of
them make.

Values may nest, and keys have names, up to a limit.
-/

namespace DiffContents

namespace Toml

/-- How deep values may nest, and how many names a key may have. -/
def maxLevels : Nat := 79

open Scanner

/-! ## Keys -/

/-- A character of a name without quotes. -/
def isBare (c : Char) : Bool := c.isAlphanum || c = '-' || c = '_'

/-- A name. -/
def name : Scanner String :=
  Quotation.basic <|> Quotation.literal <|> (do return String.ofList (← run1 isBare))

/-- A name with blanks around it. -/
def spacedName : Scanner String := do
  blanks
  let s ← name
  blanks
  return s

/-- A key. -/
def key : Scanner Key := do
  let names ← separated spacedName (char '.')
  if maxLevels < names.length then failure
  return ⟨names.dropLast, names.getLastD ""⟩

/-! ## Values -/

/-- A key with its value. -/
def assignment (value : Scanner Toml) : Scanner (Key × Toml) := do
  let k ← key
  char '='
  blanks
  return (k, ← value)

/-- A truth value. -/
def truthValue : Scanner Toml :=
  (do
    chars ['t', 'r', 'u', 'e']
    return .boolean true) <|>
  (do
    chars ['f', 'a', 'l', 's', 'e']
    return .boolean false)

/-- An element of an array. -/
def element (value : Scanner Toml) : Scanner Toml := do
  gaps
  let v ← value
  gaps
  return v

/-- The elements of an array, after the last of which a comma may stand. -/
def elements (value : Scanner Toml) : Scanner (List Toml) := do
  let vs ← separated (element value) (char ',')
  let _ ← optional (char ',')
  return vs

/-- An array. -/
def arrayOf (value : Scanner Toml) : Scanner Toml := do
  char '['
  let vs ← optional (elements value)
  gaps
  char ']'
  return .array (vs.getD [])

/-- An assignment with blanks after it. -/
def spacedAssignment (value : Scanner Toml) : Scanner (Key × Toml) := do
  let a ← assignment value
  blanks
  return a

/-- A table on a single line. -/
def inlineTable (value : Scanner Toml) : Scanner Toml := do
  char '{'
  let assignments ← optional (separated (spacedAssignment value) (char ','))
  blanks
  char '}'
  StateT.lift (tableOf? (assignments.getD []))

/-- A quoted text. -/
def quotedValue : Scanner Toml := do
  return .string (← Quotation.any)

/-- A value that is neither an array nor a table. -/
def simpleValue : Scanner Toml := quotedValue <|> truthValue <|> Numeral.any

/-- A value with at most a given number of levels of arrays and tables. -/
def valueWithin : Nat → Scanner Toml
  | 0 => simpleValue
  | levels + 1 => simpleValue <|> arrayOf (valueWithin levels) <|> inlineTable (valueWithin levels)

/-- **A value.** -/
def value : Scanner Toml := valueWithin maxLevels

/-! ## Statements -/

/-- **A statement of a TOML text.** -/
inductive Statement where
  /-- `key = value` -/
  | assign (key : Key) (value : Toml)
  /-- `[key]` -/
  | heading (key : Key)
  /-- `[[key]]` -/
  | elementHeading (key : Key)
deriving Repr, Inhabited

namespace Statement

/-- A heading. -/
def ofHeading : Scanner Statement := do
  char '['
  let k ← key
  char ']'
  return heading k

/-- The heading of an element of an array of tables. -/
def ofElementHeading : Scanner Statement := do
  chars ['[', '[']
  let k ← key
  chars [']', ']']
  return elementHeading k

/-- An assignment. -/
def ofAssignment : Scanner Statement := do
  let (k, v) ← assignment Toml.value
  return assign k v

/-- A line with a statement. -/
def line : Scanner (Option Statement) := do
  let s ← ofElementHeading <|> ofHeading <|> ofAssignment
  lineEnd
  return some s

/-- A line without a statement.  The last line needs no line ending, but then it has a
comment. -/
def blankLine : Scanner (Option Statement) :=
  (do
    lineFeed
    return none) <|>
  (do
    comment
    lineFeed <|> finish
    return none)

/-- The statements of a text. -/
def all : Scanner (List Statement) := do
  let _ ← optional (char '\ufeff')
  blanks
  let lines ← many do
    let s ← blankLine <|> line
    blanks
    return s
  finish
  return lines.filterMap id

end Statement

/-- **Tables under construction**, and the path of the one that assignments add to. -/
structure Draft where
  entries : Entries
  current : List String
deriving Repr, Inhabited

namespace Draft

/-- The tables after one more statement, unless it contradicts those before it. -/
def step (d : Draft) : Statement → Option Draft
  | .assign key value => do
    let es ← Entries.alter .passed (Entries.assign key value) d.current .heading d.entries
    return { d with entries := es }
  | .heading key => do
    let es ← Entries.alter .passed (Entries.open? key.name) key.path .heading d.entries
    return ⟨es, key.path ++ [key.name]⟩
  | .elementHeading key => do
    let es ← Entries.alter .passed (Entries.openElement? key.name) key.path .heading d.entries
    return ⟨es, key.path ++ [key.name]⟩

end Draft

/-- **The table of a text**, if it is a TOML text. -/
def parse? (text : String) : Option Toml := do
  let (statements, _) ← Statement.all text.toList
  let d ← statements.foldlM Draft.step ⟨[], []⟩
  return .table (Item.entriesToToml d.entries)

end Toml

end DiffContents
