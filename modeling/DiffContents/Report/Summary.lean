import DiffContents.Contents
import DiffContents.Encoding
import DiffContents.Report.Layout
import DiffContents.Text.Lines

/-!
# The summary report

The table of contents of the documents that were read.  As a table it has a heading, the entries
and faults of every key, and the tally; as JSON it is the table of contents itself.
-/

namespace DiffContents

/-- **The report on a table of contents.** -/
structure Summary where
  contents : Contents
  /-- How many documents were read. -/
  files : Nat
  /-- How many milliseconds that took. -/
  milliseconds : Nat

namespace Summary

/-- The sign in front of an entry. -/
def sign : Change → String
  | .added => "+"
  | .removed => "-"
  | .modified => "~"

/-- The colour of a change. -/
def colour : Change → Colour
  | .added => .green
  | .removed => .red
  | .modified => .yellow

/-- The lines of a span, as a piece that stands back. -/
def place (span : Span) : Piece := .styled .faint span.lines

/-- The line of an entry. -/
def entryLine (e : Entry) : Line := [
  .plain ("  " ++ sign e.change ++ " "),
  .styled (.coloured (colour e.change)) e.name,
  .plain (" [" ++ e.category.label ++ "] "),
  place e.span]

/-- The line of a fault: of its text only the first line. -/
def faultLine (f : Fault) : Line := [
  .plain "  ",
  .styled (.strongly .red) "!",
  .plain " ",
  place f.span,
  .plain " ",
  .styled (.coloured .red) (Text.firstLine f.message)]

/-- The lines of a key: the key, its entries, its faults, and a blank line. -/
def keyLines (c : Contents) (key : String) : List Line :=
  [.styled .strong key] :: (c.entries.get key).map entryLine ++
    (c.faults.get key).map faultLine ++ [[]]

/-- The line the report begins with. -/
def heading (s : Summary) : Line := [
  .styled (.strongly .cyan) "TOC:",
  .plain (" " ++ toString s.files ++ " files (" ++ toString s.milliseconds ++ "ms)")]

/-- The report as a table. -/
def table (s : Summary) : Table :=
  if s.contents.isEmpty then
    { lines := [s.heading, [], [.styled .faint "No declarations changed."]], last := [] }
  else
    { lines := s.heading :: [] :: s.contents.keys.flatMap (keyLines s.contents)
      last := [.plain s.contents.counts.text] }

/-- **The text of the report.** -/
def render (l : Layout) (s : Summary) : String := l.render s.table s.contents.toJson

end Summary

end DiffContents
