/-!
# Files by path

A directory holds files under paths.  Reading a path follows its names one by one from the
directory: a name leads to a file, to a directory of further names, or nowhere.

What is above the directory is not known, except that it is made of directories.
-/

namespace DiffContents

/-- **Why a path could not be read.** -/
inductive ReadFault where
  | notFound | isDirectory | notDirectory
  /-- The bytes of the file are not a text. -/
  | notText
  /-- Any other fault, in words. -/
  | other (text : String)
deriving DecidableEq, Repr, Inhabited

/-- The words for a fault. -/
def ReadFault.text : ReadFault → String
  | notFound => "No such file or directory (os error 2)"
  | isDirectory => "Is a directory (os error 21)"
  | notDirectory => "Not a directory (os error 20)"
  | notText => "stream did not contain valid UTF-8"
  | other text => text

/-- What reading a path gives. -/
abbrev FileReader := String → Except ReadFault String

/-- **A directory**: files under the names that lead to them.  A file without a text has bytes
that are none. -/
structure Directory where
  files : List (List String × Option String)
deriving DecidableEq, Repr, Inhabited

namespace Directory

/-- The names of a path. -/
def names (path : String) : List String := (path.toList.splitOn '/').map String.ofList

/-- A name that stays where it is. -/
def stays (name : String) : Bool := name = "" || name = "."

/-- A directory with files at given paths. -/
def ofList (files : List (String × Option String)) : Directory :=
  ⟨files.map fun (path, text) => ((names path).filter (!stays ·), text)⟩

/-- Where a path leads. -/
inductive Place where
  /-- To a directory inside. -/
  | inside (names : List String)
  /-- Above the directory. -/
  | above
  /-- To a file. -/
  | file (names : List String)
deriving DecidableEq, Repr, Inhabited

/-- Some file lies below the given names. -/
def hasBelow (d : Directory) (names : List String) : Bool :=
  d.files.any fun (path, _) => names.length < path.length && path.take names.length = names

/-- One name further. -/
def step (d : Directory) (name : String) : Place → Except ReadFault Place
  | .file _ => .error .notDirectory
  | .above => if stays name || name = ".." then .ok .above else .error .notFound
  | .inside names =>
    if stays name then .ok (.inside names)
    else if name = ".." then .ok (if names.isEmpty then .above else .inside names.dropLast)
    else if (d.files.lookup (names ++ [name])).isSome then .ok (.file (names ++ [name]))
    else if d.hasBelow (names ++ [name]) then .ok (.inside (names ++ [name]))
    else .error .notFound

/-- Where the names of a path lead. -/
def follow (d : Directory) : List String → Place → Except ReadFault Place
  | [], place => .ok place
  | name :: names, place => do d.follow names (← d.step name place)

/-- Where a path leads; a path from the root begins above the directory. -/
def resolve (d : Directory) (path : String) : Except ReadFault Place :=
  if path = "" then .error .notFound
  else d.follow (names path) (if path.toList.head? = some '/' then .above else .inside [])

/-- **The text at a path.** -/
def read (d : Directory) : FileReader := fun path => do
  match ← d.resolve path with
  | .inside _ | .above => .error .isDirectory
  | .file names =>
    match d.files.lookup names with
    | some (some text) => .ok text
    | some none => .error .notText
    | none => .error .notFound

end Directory

end DiffContents
