/-!
# Patches

A patch is an edit at one place: something inserted, deleted or replaced.  It has a before-side,
an after-side or both, and reports show one of them (`Patch.shown`).  The kind of a patch is its
`Change`.
-/

namespace DiffContents

universe u v

/-- What happened to a declaration. -/
inductive Change where
  | added | removed | modified
deriving DecidableEq, Repr, Inhabited

/-- The word for a change. -/
def Change.word : Change → String
  | added => "added"
  | removed => "removed"
  | modified => "modified"

/-- **An edit at one place of a tree.** -/
inductive Patch (α : Type u) where
  | insert (after : α)
  | delete (before : α)
  | replace (before after : α)
deriving DecidableEq, Repr, Inhabited

namespace Patch

variable {α : Type u} {β : Type v}

/-- The before-side; an insertion has none. -/
def before? : Patch α → Option α
  | insert _ => none
  | delete before | replace before _ => some before

/-- The after-side; a deletion has none. -/
def after? : Patch α → Option α
  | delete _ => none
  | insert after | replace _ after => some after

/-- The side shown in reports: the after-side if there is one. -/
def shown : Patch α → α
  | insert after | replace _ after => after
  | delete before => before

/-- The change a patch makes. -/
def change : Patch α → Change
  | insert _ => .added
  | delete _ => .removed
  | replace _ _ => .modified

/-- Each side replaced by a function of its own. -/
def mapSides (onBefore onAfter : α → β) : Patch α → Patch β
  | insert after => insert (onAfter after)
  | delete before => delete (onBefore before)
  | replace before after => replace (onBefore before) (onAfter after)

/-- The sides in the order `mapSides` visits them, each with whether it is the after-side. -/
def sides : Patch α → List (Bool × α)
  | insert after => [(true, after)]
  | delete before => [(false, before)]
  | replace before after => [(false, before), (true, after)]

@[simp] theorem change_mapSides (f g : α → β) (p : Patch α) :
    (p.mapSides f g).change = p.change := by
  cases p <;> rfl

@[simp] theorem before?_mapSides (f g : α → β) (p : Patch α) :
    (p.mapSides f g).before? = p.before?.map f := by
  cases p <;> rfl

@[simp] theorem after?_mapSides (f g : α → β) (p : Patch α) :
    (p.mapSides f g).after? = p.after?.map g := by
  cases p <;> rfl

theorem shown_eq (p : Patch α) : some p.shown = p.after?.or p.before? := by
  cases p <;> rfl

end Patch

end DiffContents
