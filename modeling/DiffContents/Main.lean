import DiffContents.Run

/-!
# The program

Reads the files its arguments name, runs, prints its report and its log, and exits.
-/

namespace DiffContents

/-- The fault behind an error of reading a file.  The code of a path that goes on after a file
may be negated. -/
def ReadFault.ofError : IO.Error → ReadFault
  | .noFileOrDirectory _ _ _ => .notFound
  | .inappropriateType _ code _ =>
    if code = 20 || code = 0 - 20 then .notDirectory else .isDirectory
  | e => .other (toString e)

/-- What reading a path gives. -/
def readPath (path : String) : IO (Except ReadFault String) := do
  try
    let bytes ← IO.FS.readBinFile path
    match String.fromUTF8? bytes with
    | some text => return .ok text
    | none => return .error .notText
  catch e => return .error (ReadFault.ofError e)

/-- A reader of paths that have been read before. -/
def readerOf (texts : List (String × Except ReadFault String)) : FileReader := fun path =>
  (texts.lookup path).getD (.error .notFound)

end DiffContents

open DiffContents in
/-- **The program.** -/
def main (args : List String) : IO UInt32 := do
  let threads ← IO.getEnv "TOC_THREADS"
  let started ← IO.monoMsNow
  let paths := Settings.fileName :: (Request.ofArguments threads args).paths
  let texts ← paths.mapM fun path => do return (path, ← readPath path)
  let environment : Environment := {
    read := readerOf texts
    threads := threads
    logFilter := ← IO.getEnv "RUST_LOG"
    terminal := ← (← IO.getStdout).isTty }
  let outcome := run environment args
  let code := UInt32.ofNat outcome.exitCode
  for event in outcome.log do
    IO.eprintln event.line
  let finished ← IO.monoMsNow
  IO.print (outcome.printed (finished - started))
  match outcome.result with
  | .error (.loading e) => IO.eprint e.report
  | .error .misuse => IO.eprintln "error: invalid arguments\n\nFor more information, try '--help'."
  | .ok _ => pure ()
  return code
