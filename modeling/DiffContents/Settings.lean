import DiffContents.Toml.Statement

/-!
# Settings

The settings of a directory are a TOML text with two tables: `output` for the form of reports and
`summary` for how they are made.  Everything in it may be left out, and what is not a setting is
passed over; but a setting of a wrong type makes the whole text invalid.

A table of settings may also be given as an array of its values in order.
-/

namespace DiffContents

/-- **The settings of a directory.** -/
structure Settings where
  /-- The name of the format of reports. -/
  format : Option String
  /-- Whether reports have colours. -/
  colours : Option Bool
  /-- Whether JSON takes a single line. -/
  compact : Bool
  /-- How many documents may be summarized at a time. -/
  threads : Option Nat
deriving DecidableEq, Repr, Inhabited

namespace Settings

/-- The settings where nothing is set. -/
def blank : Settings := ⟨none, none, false, none⟩

/-- The name of the file that holds the settings. -/
def fileName : String := ".tocrc.toml"

/-- The values under some names, from a table or, in order, from an array.  A moment stands for a
table without these names. -/
def fields? (names : List String) : Toml → Option (List (Option Toml))
  | .table entries => some (names.map fun name => entries.lookup name)
  | .array elements => some (names.zipIdx.map fun (_, i) => elements[i]?)
  | .moment _ => some (names.map fun _ => none)
  | _ => none

/-- A value of a type, or nothing where none is given. -/
def typed? {α : Type} (read : Toml → Option α) : Option Toml → Option (Option α)
  | none => some none
  | some v => (read v).map some

/-- A text. -/
def text? : Toml → Option String
  | .string s => some s
  | _ => none

/-- A truth value. -/
def flag? : Toml → Option Bool
  | .boolean b => some b
  | _ => none

/-- A count. -/
def count? : Toml → Option Nat
  | .integer (.ofNat n) => some n
  | _ => none

/-- A table of settings, which is empty where none is given. -/
def group? (root : List (String × Toml)) (name : String) (names : List String) :
    Option (List (Option Toml)) :=
  fields? names ((root.lookup name).getD (.table []))

/-- The settings in a table. -/
def ofEntries? (root : List (String × Toml)) : Option Settings := do
  match ← group? root "output" ["format", "color", "compact"],
      ← group? root "summary" ["threads"] with
  | [format, colours, compact], [threads] =>
    return {
      format := ← typed? text? format
      colours := ← typed? flag? colours
      compact := (← typed? flag? compact).getD false
      threads := ← typed? count? threads }
  | _, _ => none

/-- **The settings in a text.** -/
def ofText? (text : String) : Option Settings := do
  match ← Toml.parse? text with
  | .table root => ofEntries? root
  | _ => none

end Settings

end DiffContents
