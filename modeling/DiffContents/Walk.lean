import DiffContents.Diff
import DiffContents.Naming
import DiffContents.Record

/-!
# The change records of a diff

Every edit of a diff gives one change record, in source order.  An edit of a declaration is
reported under that declaration.  Any other edit is reported under the innermost function or
method around it, which is named as it stands after all edits; when something inside that
function or method was deleted, it has no such state, and the edit goes without a context.

* `Sources.record` is the record of an edit on its own;
* `Sources.survey` walks a diff from the leaves up and fills in contexts on the way;
* `Sources.records` is the list of records it finds.
-/

namespace DiffContents

/-- **The two texts a diff compares.** -/
structure Sources where
  before : String
  after : String
deriving DecidableEq, Repr, Inhabited

/-- A function or method that could not give its context, because something inside it was
deleted. -/
structure MissedContext where
  category : Category
  /-- The line the declaration begins on. -/
  line : UInt32
deriving DecidableEq, Repr, Inhabited

/-- **What walking a diff finds.** -/
structure Survey where
  /-- The tree after all edits, unless something was deleted. -/
  after? : Option Term
  /-- The records of its edits, in source order. -/
  records : List Record
  /-- The declarations that could not give a context, the innermost first. -/
  missed : List MissedContext
deriving Repr, Inhabited

namespace Sources

/-- How a term shows on one side of an edit: a region the parser could not make sense of shows
without a category. -/
def infoIn (source : String) (t : Term) : Info where
  category := if t.category = .parseError then none else some t.category
  name := t.displayName source
  span := t.span

/-- The sides of an edit, each named from its own source. -/
def infos (s : Sources) (patch : Patch Term) : Patch Info :=
  patch.mapSides (infoIn s.before) (infoIn s.after)

/-- The context of an edit that is reported under itself, because it shows a declaration. -/
def ownContext (infos : Patch Info) : Option Context :=
  match infos.shown.category with
  | some category =>
    if category.isDeclaration then
      some (.edited ⟨category, infos.shown.name, infos.shown.span⟩ infos.change)
    else none
  | none => none

/-- **The record of an edit on its own.** -/
def record (s : Sources) (patch : Patch Term) : Record :=
  ⟨s.infos patch, ownContext (s.infos patch)⟩

/-- The context an unchanged node gives, named as it stands after all edits. -/
def enclosing (s : Sources) (category : Category) (span : Span) (after : Term) : Context :=
  .enclosing ⟨category, after.displayName s.after, span⟩

/-- An unchanged node over what was found in its children. -/
def join (s : Sources) (category : Category) (span : Span) (shape : Shape Survey) : Survey :=
  let after? := (shape.map Survey.after?).transpose.map (Term.mk category span)
  let records := shape.children.flatMap Survey.records
  let missed := shape.children.flatMap Survey.missed
  if category.establishesContext then
    match after? with
    | some after =>
      { after? := some after
        records := records.map (Record.fill (s.enclosing category span after))
        missed := missed }
    | none =>
      { after? := none, records := records, missed := missed ++ [⟨category, span.start.line⟩] }
  else { after? := after?, records := records, missed := missed }

/-- **The walk of a diff**, from the leaves up. -/
def survey (s : Sources) : Diff → Survey :=
  Diff.fold (fun patch => { after? := patch.after?, records := [s.record patch], missed := [] })
    s.join

/-- The change records of a diff, one for every edit, in source order. -/
def records (s : Sources) (d : Diff) : List Record := (s.survey d).records

@[simp] theorem survey_leaf (s : Sources) (p : Patch Term) :
    s.survey (.leaf p) = ⟨p.after?, [s.record p], []⟩ := rfl

@[simp] theorem survey_node (s : Sources) (c : Category) (sp : Span) (shape : Shape Diff) :
    s.survey (.node c sp shape) = s.join c sp (shape.map s.survey) := by
  simp [survey]

@[simp] theorem after?_join (s : Sources) (c : Category) (sp : Span) (shape : Shape Survey) :
    (s.join c sp shape).after? =
      (shape.map Survey.after?).transpose.map (Term.mk c sp) := by
  unfold join
  dsimp only
  split
  · split
    · next h => exact h.symm
    · next h => exact h.symm
  · rfl

/-- **The walk sees the tree after all edits**, whatever the sources say. -/
theorem after?_survey (s : Sources) (d : Diff) : (s.survey d).after? = d.after? := by
  induction d using Diff.induction with
  | leaf p => rfl
  | node c sp shape ih =>
    rw [survey_node, after?_join, Diff.after?_node, Shape.map_map]
    rw [Shape.map_congr (f := Survey.after? ∘ s.survey) (g := Diff.after?) ih]

end Sources

end DiffContents
