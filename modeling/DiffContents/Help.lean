import DiffContents.Arguments

/-!
# Help

What the program prints about itself.
-/

namespace DiffContents

/-- A text of several lines. -/
def linesText (lines : List String) : String := String.join (lines.map (· ++ "\n"))

namespace Scope

/-- The name of a scope, with the program's name in front. -/
def title : Scope → String
  | program => "toc"
  | summarize => "toc-summarize"
  | records => "toc-records"

/-- The version of a scope. -/
def version (s : Scope) : String := s.title ++ " 0.1.0\n"

end Scope

namespace Topic

/-- The lines that introduce the program. -/
def introduction : List String := [
  "Table-of-contents summaries for structural diffs",
  "",
  "Usage: toc [OPTIONS] [COMMAND]",
  "",
  "Commands:",
  "  summarize  Summarize one or more diff documents [alias: s]",
  "  records    Show the change records found in one diff document",
  "  help       Print this message or the help of the given subcommand(s)",
  ""]

/-- Examples of commands. -/
def examples : List String := [
  "",
  "Examples:",
  "  toc summarize change.json          Summarize one diff",
  "  toc summarize *.json --format json Merged JSON document for many diffs",
  "  toc records change.json --raw      Inspect records before deduplication"]

/-- The lines that introduce the summary command. -/
def aboutSummarize : List String := [
  "Summarize one or more diff documents",
  "",
  "Usage: toc summarize [OPTIONS] <FILES>...",
  "",
  "Arguments:"]

/-- The lines that introduce the command that shows single edits. -/
def aboutRecords : List String := [
  "Show the change records found in one diff document",
  "",
  "Usage: toc records [OPTIONS] <FILE>",
  "",
  "Arguments:"]

/-- The setting of the environment that stands in for a number of threads. -/
def threadsSetting (threads : Option String) : String :=
  "[env: TOC_THREADS=" ++ threads.getD "" ++ "]"

/-- The options of the program, one a line, with their descriptions behind so many blanks more. -/
def options (gap : String) : List String := [
  "  -v, --verbose          " ++ gap ++ "Enable verbose output (debug logging)",
  "  -q, --quiet            " ++ gap ++ "Suppress all output except errors",
  "      --format <FORMAT>  " ++ gap ++
    "Output format (overrides config default) [possible values: table, json]",
  "  -h, --help             " ++ gap ++ "Print help (see more with '--help')",
  "  -V, --version          " ++ gap ++ "Print version"]

/-- The options of the program at length. -/
def longOptions : List String := [
  "  -v, --verbose",
  "          Enable verbose output (debug logging)",
  "",
  "  -q, --quiet",
  "          Suppress all output except errors",
  "",
  "      --format <FORMAT>",
  "          Output format (overrides config default)",
  "",
  "          Possible values:",
  "          - table: Human-readable table format (default)",
  "          - json:  JSON format for machine consumption",
  "",
  "  -h, --help",
  "          Print help (see a summary with '-h')",
  "",
  "  -V, --version",
  "          Print version"]

/-- Help for the program. -/
def programLines (long : Bool) : List String :=
  introduction ++ "Options:" :: (if long then longOptions else options "") ++ examples

/-- Help for the summary command. -/
def summarizeLines (long : Bool) (threads : Option String) : List String :=
  if long then
    aboutSummarize ++ [
      "  <FILES>...",
      "          Diff documents (JSON)",
      "",
      "Options:",
      "      --compact",
      "          Single-line JSON output",
      "",
      "  -j, --threads <THREADS>",
      "          Worker threads (defaults to one per CPU)",
      "          ",
      "          " ++ threadsSetting threads,
      ""] ++ longOptions
  else
    aboutSummarize ++ [
      "  <FILES>...  Diff documents (JSON)",
      "",
      "Options:",
      "      --compact            Single-line JSON output",
      "  -j, --threads <THREADS>  Worker threads (defaults to one per CPU) " ++
        threadsSetting threads] ++ options "  "

/-- Help for the command that shows single edits. -/
def recordsLines (long : Bool) : List String :=
  if long then
    aboutRecords ++ [
      "  <FILE>",
      "          Diff document (JSON)",
      "",
      "Options:",
      "      --raw",
      "          Show records before deduplication",
      "",
      "      --compact",
      "          Single-line JSON output",
      ""] ++ longOptions
  else
    aboutRecords ++ [
      "  <FILE>  Diff document (JSON)",
      "",
      "Options:",
      "      --raw              Show records before deduplication",
      "      --compact          Single-line JSON output"] ++ options ""

/-- Help for the command that gives help. -/
def helpLines : List String := [
  "Print this message or the help of the given subcommand(s)",
  "",
  "Usage: toc help [COMMAND]...",
  "",
  "Arguments:",
  "  [COMMAND]...  Print help for the subcommand(s)"]

/-- **Help on a topic**, at length or not; it shows the number of threads of the environment. -/
def text (long : Bool) (threads : Option String) : Topic → String
  | scope .program => linesText (programLines long)
  | scope .summarize => linesText (summarizeLines long threads)
  | scope .records => linesText (recordsLines long)
  | help => linesText helpLines

end Topic

end DiffContents
