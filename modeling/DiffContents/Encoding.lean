import DiffContents.Document
import DiffContents.Json.Value

/-!
# The JSON form of documents and reports

Every type of the library that is written to a file has one JSON form, and `toJson` is the value
of that form.  All members are written, in a fixed order, with null for what is absent; only a
table of contents leaves out what is empty.
-/

namespace DiffContents

universe u

/-- A line and a column. -/
def Position.toJson (p : Position) : Json :=
  .object [("line", .ofNat p.line.toNat), ("column", .ofNat p.column.toNat)]

/-- A byte range with both places. -/
def Span.toJson (s : Span) : Json :=
  .object [
    ("start_byte", .ofNat s.startByte.toNat),
    ("end_byte", .ofNat s.endByte.toNat),
    ("start", s.start.toJson),
    ("end", s.stop.toJson)]

/-- A category is written by name. -/
def Category.toJson (c : Category) : Json := .string c.name

/-- A change is written by its word. -/
def Change.toJson (c : Change) : Json := .string c.word

namespace Shape

variable {α : Type u}

/-- The word for the kind of a shape. -/
def kind : Shape α → String
  | leaf => "leaf"
  | function _ _ _ => "function"
  | method _ _ _ _ => "method"
  | parameter _ _ => "parameter_decl"
  | indexed _ => "indexed"
  | branch _ => "branch"

/-- The members of a shape besides its kind, given the form of a child. -/
def members (f : α → Json) : Shape α → List (String × Json)
  | leaf => []
  | function identifier params body =>
    [("identifier", f identifier), ("params", .ofList f params), ("body", .ofList f body)]
  | method receiver identifier params body =>
    [("receiver", .ofOption f receiver), ("identifier", f identifier),
      ("params", .ofList f params), ("body", .ofList f body)]
  | parameter identifier type => [("identifier", f identifier), ("ty", .ofOption f type)]
  | indexed items => [("items", .ofList f items)]
  | branch nodes => [("children", .ofList f nodes)]

/-- A shape is written with its kind first. -/
def toJson (f : α → Json) (s : Shape α) : Json :=
  .object (("kind", .string s.kind) :: s.members f)

@[simp] theorem kind_map {β : Type u} (f : α → β) (s : Shape α) : (s.map f).kind = s.kind := by
  cases s <;> rfl

theorem members_map {β : Type u} (g : β → Json) (f : α → β) (s : Shape α) :
    (s.map f).members g = s.members (g ∘ f) := by
  cases s with
  | method receiver => cases receiver <;> simp [map, members, Json.ofList, Json.ofOption]
  | parameter _ type => cases type <;> simp [map, members, Json.ofOption]
  | _ => simp [map, members, Json.ofList]

end Shape

/-- A node is written as its category, its span and its shape. -/
def nodeJson (category : Category) (span : Span) (shape : Json) : Json :=
  .object [("category", category.toJson), ("span", span.toJson), ("syntax", shape)]

/-- **The form of a term.** -/
def Term.toJson : Term → Json :=
  Term.fold fun category span shape => nodeJson category span (shape.toJson id)

theorem Term.toJson_mk (c : Category) (s : Span) (shape : Shape Term) :
    (Term.mk c s shape).toJson = nodeJson c s (shape.toJson Term.toJson) := by
  simp only [Term.toJson, Term.fold_mk, Shape.toJson, Shape.kind_map, Shape.members_map]
  rfl

/-- A patch is written under its kind, given the form of a side. -/
def Patch.toJson {α : Type u} (f : α → Json) : Patch α → Json
  | .insert after => .object [("insert", .object [("after", f after)])]
  | .delete before => .object [("delete", .object [("before", f before)])]
  | .replace before after =>
    .object [("replace", .object [("before", f before), ("after", f after)])]

/-- **The form of a diff.** -/
def Diff.toJson : Diff → Json :=
  Diff.fold (fun patch => .object [("leaf", patch.toJson Term.toJson)])
    fun category span shape => .object [("node", nodeJson category span (shape.toJson id))]

theorem Diff.toJson_leaf (p : Patch Term) :
    (Diff.leaf p).toJson = .object [("leaf", p.toJson Term.toJson)] := rfl

theorem Diff.toJson_node (c : Category) (s : Span) (shape : Shape Diff) :
    (Diff.node c s shape).toJson =
      .object [("node", nodeJson c s (shape.toJson Diff.toJson))] := by
  simp only [Diff.toJson, Diff.fold_node, Shape.toJson, Shape.kind_map, Shape.members_map]
  rfl

/-- **The form of a document.** -/
def Document.toJson (d : Document) : Json :=
  .object [
    ("before_path", .string d.beforePath),
    ("after_path", .string d.afterPath),
    ("before_source", .string d.beforeSource),
    ("after_source", .string d.afterSource),
    ("diff", d.diff.toJson)]

/-- The form of a side of an edit; a region that could not be parsed has a null category. -/
def Info.toJson (i : Info) : Json :=
  .object [
    ("category", .ofOption Category.toJson i.category),
    ("name", .string i.name),
    ("span", i.span.toJson)]

/-- The members of a declaration. -/
def Declaration.members (d : Declaration) : List (String × Json) :=
  [("category", d.category.toJson), ("name", .string d.name), ("span", d.span.toJson)]

/-- A context is written with its kind first. -/
def Context.toJson : Context → Json
  | .edited declaration change =>
    .object (("kind", .string "summarizable") :: declaration.members ++
      [("change_type", change.toJson)])
  | .enclosing declaration =>
    .object (("kind", .string "in_summarizable") :: declaration.members)

/-- **The form of a change record.** -/
def Record.toJson (r : Record) : Json :=
  .object [
    ("patch", r.patch.toJson Info.toJson),
    ("context", .ofOption Context.toJson r.context)]

/-- An entry is written with the label of its category and the lines of its span. -/
def Entry.toJson (e : Entry) : Json :=
  .object [
    ("changeType", e.change.toJson),
    ("category", .string e.category.label),
    ("term", .string e.name),
    ("span", .string e.span.lines)]

/-- A fault is written with its text and the lines of its span. -/
def Fault.toJson (f : Fault) : Json :=
  .object [("error", .string f.message), ("span", .string f.span.lines)]

/-- Lists under keys are written as members. -/
def Buckets.toJson {α : Type u} (f : α → Json) (b : Buckets α) : Json :=
  .object (b.toList.map fun p => (p.1, .ofList f p.2))

/-- A member that is left out when there is nothing under any key. -/
def Buckets.member {α : Type u} (name : String) (f : α → Json) (b : Buckets α) :
    List (String × Json) :=
  if b.isEmpty then [] else [(name, b.toJson f)]

/-- **The form of a table of contents.** -/
def Contents.toJson (c : Contents) : Json :=
  .object (c.entries.member "changes" Entry.toJson ++ c.faults.member "errors" Fault.toJson)

end DiffContents
