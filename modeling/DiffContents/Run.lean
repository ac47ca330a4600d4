import DiffContents.Help
import DiffContents.Loading
import DiffContents.Log.Filter
import DiffContents.Report.Edits
import DiffContents.Report.Summary

/-!
# Running the program

`run` says what the program does with its arguments, given what it finds around it: the files it
may read, two variables, and whether it reports to a terminal.  It gives what the program reports
or fails with, and what its log shows.

All documents are loaded, in the order they are given in, before anything else is done with them;
the first one that cannot be loaded is what the program fails with.
-/

namespace DiffContents

/-- **What the program finds around it.** -/
structure Environment where
  /-- What reading a path gives. -/
  read : FileReader
  /-- The number of threads asked for. -/
  threads : Option String
  /-- The events asked for. -/
  logFilter : Option String
  /-- Reports go to a terminal.  Summaries and edits have colours there, unless the settings say
  otherwise; help is given without styles. -/
  terminal : Bool := false
  /-- What the reader of settings says of a text that holds none, where its words are known. -/
  settingsReason : String → Option String := fun _ => none

/-- **What the program reports.** -/
inductive Report where
  /-- What the program can do, for arguments without a command. -/
  | overview
  /-- Help on a topic, with the number of threads of the environment. -/
  | help (topic : Topic) (long : Bool) (threads : Option String)
  | version (scope : Scope)
  | summary (layout : Layout) (contents : Contents) (files : Nat)
  | edits (layout : Layout) (edits : Edits)

/-- The text of a report, given how many milliseconds it took. -/
def Report.text (milliseconds : Nat) : Report → String
  | overview => (Topic.scope .program).text false none ++ "\n"
  | help topic long threads => topic.text long threads
  | version scope => scope.version
  | summary layout contents files =>
    Summary.render layout ⟨contents, files, milliseconds⟩ ++ "\n"
  | edits layout e => e.render layout ++ "\n"

/-- Why there is no report. -/
inductive Failure where
  /-- The arguments do not follow the rules. -/
  | misuse
  | loading (error : LoadError)
deriving DecidableEq, Repr, Inhabited

/-- **What the program does.** -/
structure Outcome where
  result : Except Failure Report
  /-- The events its log shows. -/
  log : List Event

namespace Outcome

/-- The exit code of the program. -/
def exitCode (o : Outcome) : Nat :=
  match o.result with
  | .ok _ => 0
  | .error (.loading _) => 1
  | .error .misuse => 2

/-- What the program prints, given how many milliseconds its work took. -/
def printed (milliseconds : Nat) (o : Outcome) : String :=
  match o.result with
  | .ok report => report.text milliseconds
  | .error _ => ""

end Outcome

/-- **Loads documents in order**, up to the first one that cannot be loaded; also gives the events
of those that were loaded. -/
def loadAll (read : FileReader) : List String → List Event × Except LoadError (List Document)
  | [] => ([], .ok [])
  | path :: paths =>
    match Document.load read path with
    | .error e => ([], .error e)
    | .ok d =>
      let (events, ds) := loadAll read paths
      (.loaded path d :: events, ds.map (d :: ·))

/-- The layout of the reports of an invocation: the arguments come before the settings, and where
the settings leave colours open a report has them if it goes to a terminal. -/
def layout (terminal : Bool) (settings : Settings) (i : Invocation) (command : Command) :
    Layout where
  format := i.format.getD ((settings.format.bind Format.ofName?).getD .table)
  colours := settings.colours.getD terminal
  compact := command.compact || settings.compact

/-- The report of a command on the documents it was given, and the events of making it. -/
def conclude (l : Layout) : Command → List Document → List Event × Report
  | .summarize _ _ _, ds =>
    (ds.flatMap Document.summaryEvents, .summary l (contentsOfAll ds) ds.length)
  | .records _ true _, ds =>
    (ds.flatMap Document.surveyEvents,
      .edits l ⟨(ds.map Document.key).headD "", true, ds.flatMap Document.rawRecords⟩)
  | .records _ false _, ds =>
    (ds.flatMap Document.recordEvents,
      .edits l ⟨(ds.map Document.key).headD "", false, ds.flatMap Document.records⟩)

/-- What a command comes to, and all events of it. -/
def perform (read : FileReader) (l : Layout) (c : Command) :
    List Event × Except Failure Report :=
  match loadAll read c.paths with
  | (events, .error e) => (events, .error (.loading e))
  | (events, .ok ds) =>
    let (more, report) := conclude l c ds
    (events ++ more, .ok report)

/-- Which events the log of an invocation shows. -/
def logFilter (setting? : Option String) (i : Invocation) : Filter :=
  (setting?.bind Filter.ofText?).getD
    (.upTo (if i.quiet then .error else if i.verbose then .debug else .warn))

/-- What an invocation comes to, and all events of it. -/
def invoke (env : Environment) (i : Invocation) : List Event × Except Failure Report :=
  let (settings, fault) := Settings.load env.read
  let events := fault.toList.map (Event.settingsFault env.settingsReason)
  match i.command with
  | none => (events, .ok .overview)
  | some c =>
    let (more, result) := perform env.read (layout env.terminal settings i c) c
    (events ++ more, result)

/-- **What the program does with its arguments.** -/
def run (env : Environment) (args : List String) : Outcome :=
  match Request.ofArguments env.threads args with
  | .misuse => ⟨.error .misuse, []⟩
  | .help topic long => ⟨.ok (.help topic long env.threads), []⟩
  | .version scope => ⟨.ok (.version scope), []⟩
  | .run i =>
    let (events, result) := invoke env i
    ⟨result, events.filter (logFilter env.logFilter i).shows⟩

end DiffContents
