/-!
# TOML values

A value of a TOML text as data.  Floating point numbers and moments (dates, times of day and
both) are kept as they are written.
-/

namespace DiffContents

/-- **A TOML value.** -/
inductive Toml where
  | string (value : String)
  | integer (value : Int)
  | float (text : String)
  | boolean (value : Bool)
  /-- A date, a time of day, or both. -/
  | moment (text : String)
  | array (elements : List Toml)
  | table (entries : List (String × Toml))
deriving Repr, Inhabited

end DiffContents
