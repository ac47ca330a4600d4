/-!
# JSON values

A JSON value as data: objects keep their members in the order they are written in, and a name
may occur more than once.  Whole numbers are kept apart from the others, which are floating point
numbers.
-/

namespace DiffContents

universe u

namespace Json

/-- A number of a JSON text. -/
inductive Number where
  | int (value : Int)
  | float (value : Float)
deriving DecidableEq, Repr, Inhabited

end Json

/-- **A JSON value.** -/
inductive Json where
  | null
  | bool (value : Bool)
  | number (value : Json.Number)
  | string (value : String)
  | array (elements : List Json)
  | object (members : List (String × Json))
deriving BEq, Repr, Inhabited

namespace Json

/-- A natural number as a value. -/
def ofNat (n : Nat) : Json := .number (.int n)

/-- A value that may be absent, null standing for its absence. -/
def ofOption {α : Type u} (f : α → Json) : Option α → Json
  | none => .null
  | some a => f a

/-- A list of values. -/
def ofList {α : Type u} (f : α → Json) (as : List α) : Json := .array (as.map f)

/-- The first member of an object with a given name. -/
def member? (name : String) : Json → Option Json
  | .object members => members.lookup name
  | _ => none

end Json

end DiffContents
