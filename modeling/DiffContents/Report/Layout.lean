import DiffContents.Json.Text
import DiffContents.Report.Styled
import DiffContents.Text.Lowercase

/-!
# Layouts of a report

A report is shown as a table for a reader or as JSON for a program.  A table may have colours,
and JSON may be compact.
-/

namespace DiffContents

/-- The two ways to show a report. -/
inductive Format where
  | table | json
deriving DecidableEq, Repr, Inhabited

namespace Format

/-- The name of a format. -/
def name : Format → String
  | table => "table"
  | json => "json"

/-- The format with a name, which may be written in upper or lower case. -/
def ofName? (s : String) : Option Format :=
  if Text.lowercase s = "table" then some table
  else if Text.lowercase s = "json" then some json
  else none

/-- The message for a name that no format has. -/
def unknown (s : String) : String := "Unknown output format: '" ++ s ++ "'"

end Format

/-- **How a report is laid out.** -/
structure Layout where
  format : Format
  /-- A table has colours. -/
  colours : Bool
  /-- JSON takes a single line. -/
  compact : Bool
deriving DecidableEq, Repr, Inhabited

namespace Layout

/-- The text of a report that is given in both formats. -/
def render (l : Layout) (table : Table) (json : Json) : String :=
  match l.format with
  | .table => table.text l.colours
  | .json => if l.compact then json.compact else json.pretty

end Layout

end DiffContents
