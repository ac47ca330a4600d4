import DiffContents.Document
import DiffContents.Json.Reader

/-!
# Reading documents

The readers for the types of the library that are read from a file.  They read the form that
`toJson` writes, and more: members may come in any order and among others, a structure may be an
array of its fields, and some fields may be left out.

* A document's paths and sources are empty, the lists of a shape empty and its optional children
  absent, when left out, also at the end of an array.
* The category of a side and the context of a record are absent when left out of an object.
-/

namespace DiffContents

universe u

open Json (Reader)

namespace Position

/-- What has been read of a position. -/
structure Draft where
  line : Option UInt32
  column : Option UInt32

/-- The form of a position. -/
def form : Reader.Form Draft Position where
  title := "struct SourcePos"
  fields := [
    .of "line" false (·.line) (fun a d => { d with line := some a }) Reader.uint32,
    .of "column" false (·.column) (fun a d => { d with column := some a }) Reader.uint32]
  blank := ⟨none, none⟩
  build d := do
    return ⟨← Reader.need "line" d.line, ← Reader.need "column" d.column⟩

/-- Reads a position. -/
def reader : Reader Position := Reader.struct form

end Position

namespace Span

/-- What has been read of a span. -/
structure Draft where
  startByte : Option UInt64
  endByte : Option UInt64
  start : Option Position
  stop : Option Position

/-- The form of a span. -/
def form : Reader.Form Draft Span where
  title := "struct SourceSpan"
  fields := [
    .of "start_byte" false (·.startByte) (fun a d => { d with startByte := some a })
      Reader.uint64,
    .of "end_byte" false (·.endByte) (fun a d => { d with endByte := some a }) Reader.uint64,
    .of "start" false (·.start) (fun a d => { d with start := some a }) Position.reader,
    .of "end" false (·.stop) (fun a d => { d with stop := some a }) Position.reader]
  blank := ⟨none, none, none, none⟩
  build d := do
    return ⟨← Reader.need "start_byte" d.startByte, ← Reader.need "end_byte" d.endByte,
      ← Reader.need "start" d.start, ← Reader.need "end" d.stop⟩

/-- Reads a span. -/
def reader : Reader Span := Reader.struct form

end Span

/-- Reads a category by name. -/
def Category.reader : Reader Category := fun site n =>
  Category.ofName <$> Reader.string site n

/-- Reads a change by its word. -/
def Change.reader : Reader Change :=
  Reader.choice [
    ("added", Reader.unit .added),
    ("removed", Reader.unit .removed),
    ("modified", Reader.unit .modified)]

namespace Shape

variable {α : Type}

/-- What has been read of a shape. -/
structure Draft (α : Type) where
  receiver : Option (Option α)
  identifier : Option α
  params : Option (List α)
  body : Option (List α)
  type : Option (Option α)
  items : Option (List α)
  nodes : Option (List α)

/-- Nothing has been read. -/
def Draft.blank : Draft α := ⟨none, none, none, none, none, none, none⟩

/-- The receiver of a method. -/
def receiverField (r : Reader α) : Reader.Field (Draft α) :=
  .of "receiver" true (·.receiver) (fun a d => { d with receiver := some a }) (Reader.option r)

/-- The identifier of a function, method or parameter. -/
def identifierField (r : Reader α) : Reader.Field (Draft α) :=
  .of "identifier" false (·.identifier) (fun a d => { d with identifier := some a }) r

/-- The parameters of a function or method. -/
def paramsField (r : Reader α) : Reader.Field (Draft α) :=
  .of "params" true (·.params) (fun a d => { d with params := some a }) (Reader.list r)

/-- The body of a function or method. -/
def bodyField (r : Reader α) : Reader.Field (Draft α) :=
  .of "body" true (·.body) (fun a d => { d with body := some a }) (Reader.list r)

/-- The form of a function. -/
def functionForm (r : Reader α) : Reader.Form (Draft α) (Shape α) where
  title := "struct variant Syntax::Function"
  fields := [identifierField r, paramsField r, bodyField r]
  blank := .blank
  build d := do
    return function (← Reader.need "identifier" d.identifier) (d.params.getD []) (d.body.getD [])

/-- The form of a method. -/
def methodForm (r : Reader α) : Reader.Form (Draft α) (Shape α) where
  title := "struct variant Syntax::Method"
  fields := [receiverField r, identifierField r, paramsField r, bodyField r]
  blank := .blank
  build d := do
    return method (d.receiver.getD none) (← Reader.need "identifier" d.identifier)
      (d.params.getD []) (d.body.getD [])

/-- The form of a declared parameter. -/
def parameterForm (r : Reader α) : Reader.Form (Draft α) (Shape α) where
  title := "struct variant Syntax::ParameterDecl"
  fields := [identifierField r,
    .of "ty" true (·.type) (fun a d => { d with type := some a }) (Reader.option r)]
  blank := .blank
  build d := do
    return parameter (← Reader.need "identifier" d.identifier) (d.type.getD none)

/-- The form of a bracketed list. -/
def indexedForm (r : Reader α) : Reader.Form (Draft α) (Shape α) where
  title := "struct variant Syntax::Indexed"
  fields := [.of "items" true (·.items) (fun a d => { d with items := some a }) (Reader.list r)]
  blank := .blank
  build d := .ok (indexed (d.items.getD []))

/-- The form of any other node. -/
def branchForm (r : Reader α) : Reader.Form (Draft α) (Shape α) where
  title := "struct variant Syntax::Branch"
  fields := [
    .of "children" true (·.nodes) (fun a d => { d with nodes := some a }) (Reader.list r)]
  blank := .blank
  build d := .ok (branch (d.nodes.getD []))

/-- Reads a shape, given the reader of a child. -/
def reader (r : Reader α) : Reader (Shape α) :=
  Reader.tagged "internally tagged enum Syntax" [
    ("leaf", Reader.bare .leaf),
    ("function", Reader.beside (functionForm r)),
    ("method", Reader.beside (methodForm r)),
    ("parameter_decl", Reader.beside (parameterForm r)),
    ("indexed", Reader.beside (indexedForm r)),
    ("branch", Reader.beside (branchForm r))]

end Shape

/-- What has been read of a node. -/
structure NodeDraft (α : Type) where
  category : Option Category
  span : Option Span
  shape : Option (Shape α)

/-- The form of a node, given how its shape is read. -/
def nodeForm {α β : Type} (title : String) (shape : Reader (Shape α))
    (make : Category → Span → Shape α → β) : Reader.Form (NodeDraft α) β where
  title := title
  fields := [
    .of "category" false (·.category) (fun a d => { d with category := some a })
      Category.reader,
    .of "span" false (·.span) (fun a d => { d with span := some a }) Span.reader,
    .of "syntax" false (·.shape) (fun a d => { d with shape := some a }) shape]
  blank := ⟨none, none, none⟩
  build d := do
    return make (← Reader.need "category" d.category) (← Reader.need "span" d.span)
      (← Reader.need "syntax" d.shape)

/-- How many nodes may stand inside one another: each one takes a level of the text. -/
def maxNodes : Nat := Json.maxDepth + 1

/-- A node beyond the last level that a text may have. -/
def tooDeep {α : Type} : Reader α := fun _ _ => .error (.unplaced .tooDeep [])

namespace Term

/-- Reads a term with at most a given number of nodes inside one another. -/
def readerWithin : Nat → Reader Term
  | 0, site, n => tooDeep site n
  | levels + 1, site, n =>
    Reader.struct (nodeForm "struct Term" (Shape.reader (readerWithin levels)) Term.mk) site n

/-- **Reads a term.** -/
def reader : Reader Term := readerWithin maxNodes

end Term

namespace Patch

variable {α : Type}

/-- What has been read of a patch. -/
structure Draft (α : Type) where
  before : Option α
  after : Option α

/-- The before-side of a patch. -/
def beforeField (r : Reader α) : Reader.Field (Draft α) :=
  .of "before" false (·.before) (fun a d => { d with before := some a }) r

/-- The after-side of a patch. -/
def afterField (r : Reader α) : Reader.Field (Draft α) :=
  .of "after" false (·.after) (fun a d => { d with after := some a }) r

/-- The form of an insertion. -/
def insertForm (r : Reader α) : Reader.Form (Draft α) (Patch α) where
  title := "struct variant Patch::Insert"
  fields := [afterField r]
  blank := ⟨none, none⟩
  build d := do return insert (← Reader.need "after" d.after)

/-- The form of a deletion. -/
def deleteForm (r : Reader α) : Reader.Form (Draft α) (Patch α) where
  title := "struct variant Patch::Delete"
  fields := [beforeField r]
  blank := ⟨none, none⟩
  build d := do return delete (← Reader.need "before" d.before)

/-- The form of a replacement. -/
def replaceForm (r : Reader α) : Reader.Form (Draft α) (Patch α) where
  title := "struct variant Patch::Replace"
  fields := [beforeField r, afterField r]
  blank := ⟨none, none⟩
  build d := do
    return replace (← Reader.need "before" d.before) (← Reader.need "after" d.after)

/-- Reads a patch, given the reader of a side. -/
def reader (r : Reader α) : Reader (Patch α) :=
  Reader.choice [
    ("insert", Reader.record (insertForm r)),
    ("delete", Reader.record (deleteForm r)),
    ("replace", Reader.record (replaceForm r))]

end Patch

namespace Diff

/-- Reads a diff with at most a given number of nodes inside one another. -/
def readerWithin : Nat → Reader Diff
  | 0, site, n => tooDeep site n
  | levels + 1, site, n =>
    Reader.choice [
      ("node", Reader.record
        (nodeForm "struct variant Diff::Node" (Shape.reader (readerWithin levels)) Diff.node)),
      ("leaf", Reader.wrapped fun site n => Diff.leaf <$> Patch.reader Term.reader site n)]
      site n

/-- **Reads a diff.** -/
def reader : Reader Diff := readerWithin maxNodes

end Diff

namespace Document

/-- What has been read of a document. -/
structure Draft where
  beforePath : Option String
  afterPath : Option String
  beforeSource : Option String
  afterSource : Option String
  diff : Option Diff

/-- The form of a document. -/
def form : Reader.Form Draft Document where
  title := "struct FileDiff"
  fields := [
    .of "before_path" true (·.beforePath) (fun a d => { d with beforePath := some a })
      Reader.string,
    .of "after_path" true (·.afterPath) (fun a d => { d with afterPath := some a })
      Reader.string,
    .of "before_source" true (·.beforeSource) (fun a d => { d with beforeSource := some a })
      Reader.string,
    .of "after_source" true (·.afterSource) (fun a d => { d with afterSource := some a })
      Reader.string,
    .of "diff" false (·.diff) (fun a d => { d with diff := some a }) Diff.reader]
  blank := ⟨none, none, none, none, none⟩
  build d := do
    return ⟨d.beforePath.getD "", d.afterPath.getD "", d.beforeSource.getD "",
      d.afterSource.getD "", ← Reader.need "diff" d.diff⟩

/-- **Reads a document.** -/
def reader : Reader Document := Reader.struct form

/-- **The document a text holds.** -/
def ofText (text : String) : Except Json.ReadError Document := Json.read reader text

end Document

namespace Info

/-- What has been read of a side of an edit. -/
structure Draft where
  category : Option (Option Category)
  name : Option String
  span : Option Span

/-- The form of a side of an edit. -/
def form : Reader.Form Draft Info where
  title := "struct DiffInfo"
  fields := [
    .of "category" false (·.category) (fun a d => { d with category := some a })
      (Reader.option Category.reader),
    .of "name" false (·.name) (fun a d => { d with name := some a }) Reader.string,
    .of "span" false (·.span) (fun a d => { d with span := some a }) Span.reader]
  blank := ⟨none, none, none⟩
  build d := do
    return ⟨d.category.getD none, ← Reader.need "name" d.name, ← Reader.need "span" d.span⟩

/-- Reads a side of an edit. -/
def reader : Reader Info := Reader.struct form

end Info

namespace Context

/-- What has been read of a context. -/
structure Draft where
  category : Option Category
  name : Option String
  span : Option Span
  change : Option Change

/-- The category, the name and the span of a declaration. -/
def declarationFields : List (Reader.Field Draft) := [
  .of "category" false (·.category) (fun a d => { d with category := some a }) Category.reader,
  .of "name" false (·.name) (fun a d => { d with name := some a }) Reader.string,
  .of "span" false (·.span) (fun a d => { d with span := some a }) Span.reader]

/-- The declaration made of what has been read. -/
def Draft.declaration (d : Draft) : Except Json.Cause Declaration := do
  return ⟨← Reader.need "category" d.category, ← Reader.need "name" d.name,
    ← Reader.need "span" d.span⟩

/-- The form of an edited declaration. -/
def editedForm : Reader.Form Draft Context where
  title := "struct variant SummarizableInfo::Summarizable"
  fields := declarationFields ++ [
    .of "change_type" false (·.change) (fun a d => { d with change := some a }) Change.reader]
  blank := ⟨none, none, none, none⟩
  build d := do
    return edited (← d.declaration) (← Reader.need "change_type" d.change)

/-- The form of an enclosing declaration. -/
def enclosingForm : Reader.Form Draft Context where
  title := "struct variant SummarizableInfo::InSummarizable"
  fields := declarationFields
  blank := ⟨none, none, none, none⟩
  build d := do return enclosing (← d.declaration)

/-- Reads a context. -/
def reader : Reader Context :=
  Reader.tagged "internally tagged enum SummarizableInfo" [
    ("summarizable", Reader.beside editedForm),
    ("in_summarizable", Reader.beside enclosingForm)]

end Context

namespace Record

/-- What has been read of a change record. -/
structure Draft where
  patch : Option (Patch Info)
  context : Option (Option Context)

/-- The form of a change record. -/
def form : Reader.Form Draft Record where
  title := "struct ChangeRecord"
  fields := [
    .of "patch" false (·.patch) (fun a d => { d with patch := some a })
      (Patch.reader Info.reader),
    .of "context" false (·.context) (fun a d => { d with context := some a })
      (Reader.option Context.reader)]
  blank := ⟨none, none⟩
  build d := do return ⟨← Reader.need "patch" d.patch, d.context.getD none⟩

/-- **Reads a change record.** -/
def reader : Reader Record := Reader.struct form

end Record

end DiffContents
