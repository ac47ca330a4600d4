import DiffContents.Toml.Value

/-!
# Tables under construction

The tables of a TOML text are built up statement by statement.  What may be added to a table
depends on how it came to be (`Origin`): a table that has its own heading is complete without it,
a table made by the dots of a key is open to further keys of that kind, and a table that was only
passed on the way to another one may still be given a heading.
-/

namespace DiffContents

namespace Toml

/-- **A key**: the names on the way to it, and its own. -/
structure Key where
  path : List String
  name : String
deriving DecidableEq, Repr, Inhabited

/-- How a table came to be. -/
inductive Origin where
  /-- It has a heading. -/
  | heading
  /-- It was passed on the way to a table with a heading. -/
  | passed
  /-- It was passed on the way to the key of a value. -/
  | dotted
deriving DecidableEq, Repr, Inhabited

/-- **What stands under a name** of a table under construction. -/
inductive Item where
  /-- A value. -/
  | value (value : Toml)
  /-- A table. -/
  | section (origin : Origin) (entries : List (String × Item))
  /-- An array of tables, of which only the latest is still under construction. -/
  | sections (latest : List (String × Item)) (earlier : List (List (String × Item)))
deriving Repr, Inhabited

/-- The entries of a table under construction. -/
abbrev Entries := List (String × Item)

namespace Entries

/-- The entries with an item under a name, in place of what stands there. -/
def set (name : String) (item : Item) : Entries → Entries
  | [] => [(name, item)]
  | (n, i) :: rest => if n = name then (name, item) :: rest else (n, i) :: set name item rest

/-- **Changes the table at the end of a path.**  Tables that are missing on the way are made, with
the given origin.  The way may lead through the latest element of an array of tables, but not
through a value, and a key's dots may not lead through a table with a heading. -/
def alter (origin : Origin) (change : Origin → Entries → Option Entries) :
    List String → Origin → Entries → Option Entries
  | [], own, es => change own es
  | name :: path, _, es =>
    match es.lookup name with
    | none => do return es.set name (.section origin (← alter origin change path origin []))
    | some (.value _) => none
    | some (.section own inner) =>
      if origin = .dotted ∧ own = .heading then none
      else do return es.set name (.section own (← alter origin change path own inner))
    | some (.sections latest earlier) => do
      return es.set name (.sections (← alter origin change path .heading latest) earlier)

/-- A value under a new name.  A key without dots adds to a table that was not made by dots, and a
key with dots to one that was. -/
def add (dots : Bool) (name : String) (value : Toml) (own : Origin) (es : Entries) :
    Option Entries :=
  if dots = decide (own = .dotted) ∧ (es.lookup name).isNone then
    some (es.set name (.value value))
  else none

/-- A value given to a key. -/
def assign (key : Key) (value : Toml) (own : Origin) (es : Entries) : Option Entries :=
  alter .dotted (add (!key.path.isEmpty) key.name value) key.path own es

/-- A table with a heading: a new one, or one that was only passed before. -/
def open? (name : String) (_ : Origin) (es : Entries) : Option Entries :=
  match es.lookup name with
  | none => some (es.set name (.section .heading []))
  | some (.section .passed inner) => some (es.set name (.section .heading inner))
  | some _ => none

/-- One more element of an array of tables. -/
def openElement? (name : String) (_ : Origin) (es : Entries) : Option Entries :=
  match es.lookup name with
  | none => some (es.set name (.sections [] []))
  | some (.sections latest earlier) => some (es.set name (.sections [] (latest :: earlier)))
  | some _ => none

end Entries

mutual

/-- The value of an item. -/
def Item.toToml : Item → Toml
  | .value v => v
  | .section _ entries => .table (Item.entriesToToml entries)
  | .sections latest earlier =>
    .array ((.table (Item.entriesToToml latest) :: Item.tablesToToml earlier).reverse)

/-- The entries with their values. -/
def Item.entriesToToml : List (String × Item) → List (String × Toml)
  | [] => []
  | (name, item) :: rest => (name, item.toToml) :: Item.entriesToToml rest

/-- The tables of the elements of an array. -/
def Item.tablesToToml : List (List (String × Item)) → List Toml
  | [] => []
  | entries :: rest => .table (Item.entriesToToml entries) :: Item.tablesToToml rest

end

/-- The table made of assignments. -/
def tableOf? (assignments : List (Key × Toml)) : Option Toml := do
  let es ← assignments.foldlM (fun es (key, value) => Entries.assign key value .heading es) []
  return .table (Item.entriesToToml es)

end Toml

end DiffContents
