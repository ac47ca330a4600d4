import DiffContents.Encoding
import DiffContents.Report.Summary

/-!
# The report on single edits

Every change record of a document, and what it is reported under.  As a table it has a heading
and two lines for each record; as JSON the records stand as they are.
-/

namespace DiffContents

/-- **The report on the change records of one document.** -/
structure Edits where
  /-- The key of the document. -/
  key : String
  /-- Repetitions are still among the records. -/
  raw : Bool
  records : List Record
deriving DecidableEq, Repr, Inhabited

namespace Edits

/-- The line the report begins with. -/
def heading (e : Edits) : Line := [
  .styled (.strongly .cyan) "RECORDS:",
  .plain " ",
  .styled .strong e.key,
  .plain (" (" ++ toString e.records.length ++ " " ++ (if e.raw then "raw" else "deduplicated") ++
    " records)")]

/-- The name of a side's category; a region that could not be parsed has the name of its own. -/
def categoryName (i : Info) : String := (i.category.getD .parseError).name

/-- The line of an edit: of its name only the first line. -/
def editLine (r : Record) : Line := [
  .plain "  ",
  .styled (.coloured (Summary.colour r.change)) (Summary.sign r.change),
  .plain (" " ++ Text.firstLine r.info.name ++ " [" ++ categoryName r.info ++ "] "),
  Summary.place r.info.span]

/-- The line of what an edit is reported under. -/
def contextLine : Option Context → Line
  | some c => [
    .plain ("      in " ++ c.declaration.category.name ++ " "),
    .styled (.coloured .cyan) c.declaration.name,
    .plain (" (" ++ c.change.word ++ ")")]
  | none => [.plain "      ", .styled .faint "no context"]

/-- Both lines of a record. -/
def recordLines (r : Record) : List Line := [editLine r, contextLine r.context]

/-- The report as a table. -/
def table (e : Edits) : Table :=
  { lines := e.heading :: [] :: e.records.flatMap recordLines, last := [] }

/-- The report as JSON. -/
def toJson (e : Edits) : Json :=
  .object [
    ("key", .string e.key),
    ("raw", .bool e.raw),
    ("records", .ofList Record.toJson e.records)]

/-- **The text of the report.** -/
def render (l : Layout) (e : Edits) : String := l.render e.table e.toJson

end Edits

end DiffContents
