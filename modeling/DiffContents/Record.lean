import DiffContents.Category
import DiffContents.Patch
import DiffContents.Position
import DiffContents.Text.Lowercase

/-!
# Change records

A change record is one edit of a diff together with the declaration it is reported under, its
context: either a declaration that was edited itself (`Context.edited`), or an unchanged one
around the edit (`Context.enclosing`).  An edit may have no context at all.

Two contexts are alike (`Context.alike`) when they speak of declarations of one category whose
names differ at most in case.
-/

namespace DiffContents

/-- **One side of an edit** as a report shows it.  A side without a category is a region the
parser could not make sense of. -/
structure Info where
  category : Option Category
  name : String
  span : Span
deriving DecidableEq, Repr, Inhabited

namespace Info

/-- The side shows a region the parser could not make sense of. -/
def isError (i : Info) : Bool := i.category.isNone

end Info

/-- A declaration named in a report. -/
structure Declaration where
  category : Category
  name : String
  span : Span
deriving DecidableEq, Repr, Inhabited

namespace Declaration

/-- Same category, and the same name up to case. -/
def alike (a b : Declaration) : Bool :=
  decide (a.category = b.category) && decide (Text.lowercase a.name = Text.lowercase b.name)

theorem alike_iff {a b : Declaration} : a.alike b = true ↔
    a.category = b.category ∧ Text.lowercase a.name = Text.lowercase b.name := by
  simp [alike]

@[simp] theorem alike_refl (a : Declaration) : a.alike a = true := by simp [alike]

theorem alike_symm {a b : Declaration} (h : a.alike b = true) : b.alike a = true := by
  rw [alike_iff] at *
  exact ⟨h.1.symm, h.2.symm⟩

theorem alike_trans {a b c : Declaration} (h : a.alike b = true) (h' : b.alike c = true) :
    a.alike c = true := by
  rw [alike_iff] at *
  exact ⟨h.1.trans h'.1, h.2.trans h'.2⟩

end Declaration

/-- **The declaration an edit is reported under.** -/
inductive Context where
  /-- A declaration that was edited itself, and how. -/
  | edited (declaration : Declaration) (change : Change)
  /-- An unchanged declaration around the edit. -/
  | enclosing (declaration : Declaration)
deriving DecidableEq, Repr, Inhabited

namespace Context

/-- The declaration a context speaks of. -/
def declaration : Context → Declaration
  | edited declaration _ | enclosing declaration => declaration

/-- The change to report; an unchanged declaration with an edit inside it was modified. -/
def change : Context → Change
  | edited _ change => change
  | enclosing _ => .modified

/-- The context is a declaration that was edited itself. -/
def isEdited : Context → Bool
  | edited _ _ => true
  | enclosing _ => false

/-- Two contexts speak of declarations of one category with one name up to case. -/
def alike (a b : Context) : Bool := a.declaration.alike b.declaration

/-- The same context, reported as modified. -/
def asModified : Context → Context
  | edited declaration _ => edited declaration .modified
  | enclosing declaration => enclosing declaration

@[simp] theorem declaration_asModified (c : Context) :
    c.asModified.declaration = c.declaration := by
  cases c <;> rfl

@[simp] theorem change_asModified (c : Context) : c.asModified.change = .modified := by
  cases c <;> rfl

@[simp] theorem isEdited_asModified (c : Context) : c.asModified.isEdited = c.isEdited := by
  cases c <;> rfl

end Context

/-- **An edit and the declaration it is reported under.** -/
structure Record where
  /-- Both sides of the edit. -/
  patch : Patch Info
  /-- The declaration it is reported under, if any. -/
  context : Option Context
deriving DecidableEq, Repr, Inhabited

namespace Record

/-- The side a report shows. -/
def info (r : Record) : Info := r.patch.shown

/-- The change the edit makes. -/
def change (r : Record) : Change := r.patch.change

/-- The record shows a region the parser could not make sense of. -/
def isError (r : Record) : Bool := r.info.isError

/-- The record with a context, unless it has one already. -/
def fill (context : Context) (r : Record) : Record :=
  { r with context := r.context.or (some context) }

@[simp] theorem patch_fill (c : Context) (r : Record) : (r.fill c).patch = r.patch := rfl

@[simp] theorem context_fill (c : Context) (r : Record) :
    (r.fill c).context = r.context.or (some c) := rfl

/-- A context offered later never replaces one offered before. -/
theorem fill_fill (c d : Context) (r : Record) : (r.fill c).fill d = r.fill c := by
  cases r with
  | mk patch context => cases context <;> rfl

end Record

end DiffContents
