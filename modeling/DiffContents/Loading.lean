import DiffContents.Decoding
import DiffContents.Files
import DiffContents.Settings

/-!
# Loading documents and settings

A document is loaded from a path: the file there is read, and its text is read as a document.
Either may fail, and the error names the path as it was given.

The settings are loaded in the same way from the file that holds them.  A fault among them stops
nothing: the settings are blank then.
-/

namespace DiffContents

/-- **Why a document could not be loaded.** -/
inductive LoadError where
  | unreadable (path : String) (fault : ReadFault)
  | invalid (path : String) (error : Json.ReadError)
deriving DecidableEq, Repr, Inhabited

namespace LoadError

/-- The path that could not be loaded. -/
def path : LoadError → String
  | unreadable path _ | invalid path _ => path

/-- What lies behind the error. -/
def cause : LoadError → String
  | unreadable _ fault => fault.text
  | invalid _ error => error.message

/-- The message for the error. -/
def message : LoadError → String
  | unreadable path fault => "Failed to read " ++ path ++ ": " ++ fault.text
  | invalid path error => "Invalid diff document " ++ path ++ ": " ++ error.message

/-- What a command says it failed at. -/
def headline : LoadError → String
  | unreadable path _ => "Failed to read diff file " ++ path
  | e@(invalid _ _) => e.message

/-- A text with its lines indented. -/
def indented (s : String) : String :=
  "    " ++ String.intercalate "\n    " (s.splitOn "\n")

/-- The report of a command that failed: its headline, and under it the cause. -/
def report (e : LoadError) : String :=
  "Error: " ++ e.headline ++ "\n\nCaused by:\n" ++ indented e.cause ++ "\n"

end LoadError

namespace Document

/-- The document in a text from a path. -/
def parse (path text : String) : Except LoadError Document :=
  (ofText text).mapError (.invalid path)

/-- **The document at a path.** -/
def load (read : FileReader) (path : String) : Except LoadError Document := do
  parse path (← (read path).mapError (.unreadable path))

end Document

namespace Settings

/-- **Why settings could not be used.** -/
inductive Fault where
  | unreadable (fault : ReadFault)
  /-- The text is none of settings. -/
  | invalid (text : String)
deriving DecidableEq, Repr, Inhabited

/-- **The settings of a directory**, and why they could not be used.  Settings that are missing,
unreadable or invalid are blank. -/
def load (read : FileReader) : Settings × Option Fault :=
  match read fileName with
  | .error .notFound => (.blank, none)
  | .error fault => (.blank, some (.unreadable fault))
  | .ok text =>
    match ofText? text with
    | some settings => (settings, none)
    | none => (.blank, some (.invalid text))

end Settings

end DiffContents
