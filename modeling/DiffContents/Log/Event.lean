import DiffContents.Document
import DiffContents.Loading

/-!
# Log events

What a command tells about its work: the documents it loaded, the records it found in each, and
what went wrong with the settings.
-/

namespace DiffContents

/-- How much an event matters. -/
inductive Level where
  | error | warn | info | debug | trace
deriving DecidableEq, Repr, Inhabited

namespace Level

/-- The name of a level. -/
def name : Level → String
  | error => "ERROR"
  | warn => "WARN"
  | info => "INFO"
  | debug => "DEBUG"
  | trace => "TRACE"

/-- How far a log has to go to show a level. -/
def rank : Level → Nat
  | error => 1
  | warn => 2
  | info => 3
  | debug => 4
  | trace => 5

end Level

/-- **An event of a log.** -/
structure Event where
  level : Level
  /-- The part of the program it comes from. -/
  source : String
  message : String
  fields : List (String × String)
deriving DecidableEq, Repr, Inhabited

namespace Event

/-- The names of what an event tells. -/
def fieldNames (e : Event) : List String := "message" :: e.fields.map Prod.fst

/-- The line of an event. -/
def line (e : Event) : String :=
  e.level.name ++ " " ++ e.source ++ ": " ++ e.message ++
    String.join (e.fields.map fun (name, value) => " " ++ name ++ "=" ++ value)

/-- The settings could not be read. -/
def settingsUnreadable (fault : ReadFault) : Event :=
  ⟨.warn, "toc::config", "Failed to read " ++ Settings.fileName ++ ": " ++ fault.text, []⟩

/-- The settings are invalid.  What their reader has to say about it comes last, where it is
known. -/
def settingsInvalid (reason : Option String) : Event :=
  ⟨.warn, "toc::config",
    "Failed to parse " ++ Settings.fileName ++ reason.elim "" fun words => ": " ++ words, []⟩

/-- The settings could not be used, for what the reader of settings says of each text. -/
def settingsFault (reason : String → Option String) : Settings.Fault → Event
  | .unreadable fault => settingsUnreadable fault
  | .invalid text => settingsInvalid (reason text)

/-- A document was loaded. -/
def loaded (path : String) (d : Document) : Event :=
  ⟨.debug, "toc::commands", "loaded diff", [("path", path), ("key", d.key)]⟩

/-- A declaration could not give its context. -/
def missed (m : MissedContext) : Event :=
  ⟨.trace, "toc_core::differ::walker",
    "declaration has children without an after-side, skipping context",
    [("category", m.category.name), ("line", toString m.line.toNat)]⟩

/-- Repetitions were removed. -/
def deduplicated (total kept : Nat) : Event :=
  ⟨.debug, "toc_core::differ::dedup", "deduplicated change records",
    [("total", toString total), ("kept", toString kept)]⟩

/-- A document was summarized. -/
def summarized (key : String) (records : Nat) : Event :=
  ⟨.debug, "toc_core", "summarized file", [("key", key), ("records", toString records)]⟩

end Event

namespace Document

/-- The events of finding the records of a document. -/
def surveyEvents (d : Document) : List Event := d.survey.missed.map Event.missed

/-- The events of finding its records without repetitions. -/
def recordEvents (d : Document) : List Event :=
  d.surveyEvents ++ [.deduplicated d.rawRecords.length d.records.length]

/-- The events of summarizing a document. -/
def summaryEvents (d : Document) : List Event :=
  d.recordEvents ++ [.summarized d.key d.records.length]

end Document

end DiffContents
