import DiffContents.Log.Directive

/-!
# Log filters

A filter says which events a log shows.  It is a list of directives; of those that are about an
event, the most particular one says how far the log goes.  As a text, directives stand between
commas.
-/

namespace DiffContents

/-- **Which events a log shows.** -/
structure Filter where
  directives : List Directive
deriving DecidableEq, Repr, Inhabited

namespace Filter

/-- The filter for all events up to a level. -/
def upTo (level : Level) : Filter := ⟨[.upTo level]⟩

/-- The filter in a text.  A text without directives shows errors. -/
def ofText? (s : String) : Option Filter := do
  let directives ← ((s.splitOn ",").filter (· ≠ "")).mapM Directive.ofText?
  if directives.isEmpty then return upTo .error else return ⟨directives⟩

/-- The more particular one of two directives. -/
def ruling (best : Option Directive) (d : Directive) : Option Directive :=
  match best with
  | none => some d
  | some b => if b.givesWay d then some d else some b

/-- **An event is shown.** -/
def shows (f : Filter) (e : Event) : Bool :=
  match (f.directives.filter (·.applies e)).foldl ruling none with
  | some d => e.level.rank ≤ d.limit
  | none => false

end Filter

end DiffContents
