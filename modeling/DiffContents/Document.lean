import DiffContents.Contents
import DiffContents.Dedup
import DiffContents.Walk

/-!
# Diff documents

A document is the structural diff of one file: both paths, both texts, and the diff between
them.  `Document.contents` is its table of contents, and `contentsOfAll` that of many documents,
in their order.
-/

namespace DiffContents

/-- **The structural diff of one file.** -/
structure Document where
  /-- The path before; empty for a new file. -/
  beforePath : String
  /-- The path after; empty for a removed file. -/
  afterPath : String
  /-- The text before. -/
  beforeSource : String
  /-- The text after. -/
  afterSource : String
  /-- The edits between the two texts. -/
  diff : Diff
deriving Repr, Inhabited

namespace Document

/-- The key the document's entries stand under. -/
def key (d : Document) : String := pathKey d.beforePath d.afterPath

/-- Both texts of the document. -/
def sources (d : Document) : Sources := ⟨d.beforeSource, d.afterSource⟩

/-- What walking the diff finds. -/
def survey (d : Document) : Survey := d.sources.survey d.diff

/-- The change records of the document, one for every edit. -/
def rawRecords (d : Document) : List Record := d.sources.records d.diff

/-- The change records of the document without repetitions. -/
def records (d : Document) : List Record := Record.dedup d.rawRecords

/-- **The table of contents of one document.** -/
def contents (d : Document) : Contents := Contents.ofRecords d.key d.records

end Document

/-- **The table of contents of many documents**, in their order. -/
def contentsOfAll (documents : List Document) : Contents :=
  documents.foldl (fun c d => c.merge d.contents) Contents.empty

@[simp] theorem contentsOfAll_nil : contentsOfAll [] = Contents.empty := rfl

theorem contentsOfAll_append (xs ys : List Document) :
    contentsOfAll (xs ++ ys) =
      ys.foldl (fun c d => c.merge d.contents) (contentsOfAll xs) := by
  simp [contentsOfAll]

end DiffContents
