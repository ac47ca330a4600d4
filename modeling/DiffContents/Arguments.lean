import DiffContents.Report.Layout
import DiffContents.Text.Digits

/-!
# Command-line arguments

The program has two commands, `summarize` and `records`, and options of its own, which may also
stand behind the command.  An option may be given once before the command and once behind it, and
then the latter counts.

`Request.ofArguments` says what a list of arguments asks for.
-/

namespace DiffContents

/-- The part of the program that arguments are read for. -/
inductive Scope where
  | program | summarize | records
deriving DecidableEq, Repr, Inhabited

/-- What an argument with a dash in front may ask for. -/
inductive Choice where
  | verbose | quiet | format | compact | raw | threads | help | version
deriving DecidableEq, Repr, Inhabited

namespace Choice

/-- The choice needs a value. -/
def takesValue : Choice → Bool
  | format | threads => true
  | _ => false

/-- The name of a choice, after two dashes. -/
def name : Choice → String
  | verbose => "verbose"
  | quiet => "quiet"
  | format => "format"
  | compact => "compact"
  | raw => "raw"
  | threads => "threads"
  | help => "help"
  | version => "version"

/-- The letter of a choice, after one dash. -/
def letter? : Choice → Option Char
  | verbose => some 'v'
  | quiet => some 'q'
  | threads => some 'j'
  | help => some 'h'
  | version => some 'V'
  | format | compact | raw => none

end Choice

/-- The choices of a scope. -/
def Scope.choices : Scope → List Choice
  | program => [.verbose, .quiet, .format, .help, .version]
  | summarize => [.compact, .threads, .verbose, .quiet, .format, .help, .version]
  | records => [.raw, .compact, .verbose, .quiet, .format, .help, .version]

/-- What help is asked for. -/
inductive Topic where
  | scope (s : Scope)
  /-- The command that gives help. -/
  | help
deriving DecidableEq, Repr, Inhabited

/-- **A command.** -/
inductive Command where
  | summarize (files : List String) (compact : Bool) (threads : Option Nat)
  | records (file : String) (raw compact : Bool)
deriving DecidableEq, Repr, Inhabited

namespace Command

/-- The paths a command reads. -/
def paths : Command → List String
  | summarize files _ _ => files
  | records file _ _ => [file]

/-- JSON is asked for on a single line. -/
def compact : Command → Bool
  | summarize _ compact _ | records _ _ compact => compact

end Command

/-- **A command with the options of the program.** -/
structure Invocation where
  verbose : Bool
  quiet : Bool
  format : Option Format
  /-- The command; without one, the program shows what it can do. -/
  command : Option Command
deriving DecidableEq, Repr, Inhabited

/-- **What arguments ask for.** -/
inductive Request where
  | run (invocation : Invocation)
  | help (topic : Topic) (long : Bool)
  | version (scope : Scope)
  /-- The arguments do not follow the rules. -/
  | misuse
deriving DecidableEq, Repr, Inhabited

/-- What has been given in a scope. -/
structure Given where
  verbose : Bool
  quiet : Bool
  compact : Bool
  raw : Bool
  format : Option Format
  threads : Option Nat
  files : List String
  /-- A choice whose value, an argument of its own, has not been looked at yet. -/
  held : Option (Choice × String)
deriving DecidableEq, Repr, Inhabited

namespace Given

/-- Nothing has been given. -/
def nothing : Given := ⟨false, false, false, false, none, none, [], none⟩

/-- A flag, if it was not given before. -/
def once (before : Bool) (g : Given) : Except Request Given :=
  if before then .error .misuse else .ok g

/-- A choice without a value is given; help and version end the reading. -/
def choose (scope : Scope) (long : Bool) (g : Given) : Choice → Except Request Given
  | .verbose => once g.verbose { g with verbose := true }
  | .quiet => once g.quiet { g with quiet := true }
  | .compact => once g.compact { g with compact := true }
  | .raw => once g.raw { g with raw := true }
  | .help => .error (.help (.scope scope) long)
  | .version => .error (.version scope)
  | .format | .threads => .error .misuse

/-- The format with a name, which is written in lower case. -/
def format? (s : String) : Option Format :=
  if s = "table" then some .table else if s = "json" then some .json else none

/-- A number of threads. -/
def threads? (s : String) : Option Nat := (Text.natural? s).filter (· < UInt64.size)

/-- A choice with its value is given. -/
def put (g : Given) (c : Choice) (value : String) : Except Request Given :=
  match c, g.format, g.threads, format? value, threads? value with
  | .format, none, _, some f, _ => .ok { g with format := some f }
  | .threads, _, none, _, some n => .ok { g with threads := some n }
  | _, _, _, _, _ => .error .misuse

/-- The value that was held back is looked at.  This happens when anything else is given, or at the
end, but not before a command. -/
def release (g : Given) : Except Request Given :=
  match g.held with
  | none => .ok g
  | some (c, value) => { g with held := none }.put c value

/-- A file is given; its name is not empty. -/
def addFile (scope : Scope) (g : Given) (file : String) : Except Request Given :=
  match scope with
  | .summarize =>
    if file = "" then .error .misuse else .ok { g with files := g.files ++ [file] }
  | .records =>
    if file = "" || !g.files.isEmpty then .error .misuse else .ok { g with files := [file] }
  | .program => .error .misuse

/-- Reads letters after one dash.  The letter of a choice that needs a value takes the letters
after it for that value, or else waits for the next argument. -/
def letters (scope : Scope) : List Char → Given → Except Request (Given × Option Choice)
  | [], g => .ok (g, none)
  | c :: cs, g =>
    match scope.choices.find? (·.letter? = some c) with
    | none => .error .misuse
    | some choice =>
      if choice.takesValue then
        match cs with
        | [] => .ok (g, some choice)
        | '=' :: value => return (← g.put choice (String.ofList value), none)
        | value => return (← g.put choice (String.ofList value), none)
      else do letters scope cs (← g.choose scope false choice)

/-- Reads a word after two dashes, which an equals sign and a value may follow. -/
def word (scope : Scope) (cs : List Char) (g : Given) :
    Except Request (Given × Option Choice) :=
  let name := String.ofList (cs.takeWhile (· ≠ '='))
  let value? := (cs.dropWhile (· ≠ '=')).tail?.map String.ofList
  match scope.choices.find? (·.name = name), value? with
  | none, _ => .error .misuse
  | some choice, some value => do
    if choice.takesValue then return (← g.put choice value, none) else .error .misuse
  | some choice, none => do
    if choice.takesValue then return (g, some choice)
    else return (← g.choose scope true choice, none)

/-- **Reads the arguments of a scope**, up to a command; also gives the arguments from the command
on.  A choice may be waiting for its value.  After two dashes alone every argument is a file. -/
def read (scope : Scope) : Option Choice → Bool → List String → Given →
    Except Request (Given × List String)
  | some _, _, [], _ => .error .misuse
  | none, _, [], g => do return (← g.release, [])
  | some choice, escaped, arg :: args, g =>
    match arg.toList with
    | '-' :: _ :: _ => .error .misuse
    | _ => read scope none escaped args { g with held := some (choice, arg) }
  | none, true, arg :: args, g => do
    read scope none true args (← (← g.release).addFile scope arg)
  | none, false, arg :: args, g =>
    match arg.toList with
    | ['-', '-'] => read scope none true args g
    | '-' :: '-' :: cs => do
      let (g, waiting) ← (← g.release).word scope cs
      read scope waiting false args g
    | '-' :: c :: cs => do
      let (g, waiting) ← (← g.release).letters scope (c :: cs)
      read scope waiting false args g
    | _ =>
      if scope = .program then .ok (g, arg :: args)
      else do read scope none false args (← (← g.release).addFile scope arg)

/-- The invocation of a command, from what was given before it and behind it. -/
def invocation (before behind : Given) (command : Command) : Invocation where
  verbose := before.verbose || behind.verbose
  quiet := before.quiet || behind.quiet
  format := behind.format.or before.format
  command := some command

end Given

namespace Request

/-- The command with a name. -/
def scope? (name : String) : Option Scope :=
  if name = "summarize" || name = "s" then some .summarize
  else if name = "records" then some .records
  else none

/-- What the arguments behind `help` ask for. -/
def ofHelp : List String → Request
  | [] => help (.scope .program) true
  | [name] =>
    match scope? name with
    | some scope => help (.scope scope) true
    | none => if name = "help" then help .help true else misuse
  | _ => misuse

/-- The number of threads: the one given, or else that of the environment. -/
def threads (given : Option Nat) (setting? : Option String) : Except Request (Option Nat) :=
  match given, setting? with
  | some n, _ => .ok (some n)
  | none, none => .ok none
  | none, some s =>
    match Given.threads? s with
    | some n => .ok (some n)
    | none => .error misuse

/-- What a command's arguments ask for. -/
def ofCommand (setting? : Option String) (before : Given) (scope : Scope)
    (args : List String) : Except Request Request := do
  let (g, _) ← Given.read scope none false args .nothing
  let before ← before.release
  match scope, g.files with
  | .summarize, file :: files =>
    let n ← threads g.threads setting?
    return run (before.invocation g (.summarize (file :: files) g.compact n))
  | .records, [file] => return run (before.invocation g (.records file g.raw g.compact))
  | _, _ => .error misuse

/-- What is asked for, whether or not the reading came to its end. -/
def settle : Except Request Request → Request
  | .ok r | .error r => r

/-- **What arguments ask for**, given the number of threads of the environment. -/
def ofArguments (setting? : Option String) (args : List String) : Request :=
  settle do
    let (g, rest) ← Given.read .program none false args .nothing
    match rest with
    | [] => return run ⟨g.verbose, g.quiet, g.format, none⟩
    | name :: args =>
      if name = "help" then return ofHelp args
      else
        match scope? name with
        | some scope => ofCommand setting? g scope args
        | none => return misuse

/-- The paths of the documents that are asked for. -/
def paths : Request → List String
  | run i => (i.command.map Command.paths).getD []
  | _ => []

end Request

end DiffContents
