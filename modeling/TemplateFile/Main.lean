import TemplateFile.CommandLine.Elapsed
import TemplateFile.CommandLine.Run

/-!
# The command line program

This is the only part that reads files, looks at the clock and prints.  What it
prints, and in which order, is decided by `RunState.next` and `Options.summary`.
-/

namespace TemplateFile
namespace CommandLine

/-- What the help option prints. -/
def helpText : String :=
  "Parses template files and reports their file-level structure\n\n" ++
  "Usage: templatefile [OPTIONS] <FILE>...\n\n" ++
  "Options:\n" ++
  "      --kind <KIND>  source, dependency or indirect\n" ++
  "  -q, --quiet        Only print diagnostics\n" ++
  "      --dump         Print the parsed namespace, aliases and templates\n" ++
  "  -h, --help         Print help\n" ++
  "  -V, --version      Print version"

/-- What the version option prints. -/
def versionText : String := "templatefile 0.1.0"

/-- A system's error number, which may be given as a negative word. -/
def errorNumber (code : UInt32) : Nat :=
  if code.toNat < 0x80000000 then code.toNat else 0x100000000 - code.toNat

/-- The reason why reading a file failed. -/
def readFailure : IO.Error -> ReadFailure
  | .noFileOrDirectory _ code details => .ofCode (errorNumber code) details
  | .inappropriateType _ code details => .ofCode (errorNumber code) details
  | .permissionDenied _ code details => .ofCode (errorNumber code) details
  | .invalidArgument _ code details => .ofCode (errorNumber code) details
  | .resourceExhausted _ code details => .ofCode (errorNumber code) details
  | .otherError code details => .ofCode (errorNumber code) details
  | other => .system (toString other) 0

/-- The text of a file. -/
def readText (name : String) : IO (Except ReadFailure String) := do
  try
    return ReadFailure.decode (← IO.FS.readBinFile name)
  catch error =>
    return .error (readFailure error)

/-- Print a line; an elapsed time is counted from the moment `since`. -/
def printLine (since : Nat) : OutputLine -> IO Unit
  | .plain text => IO.println text
  | .timed text => do
      let now ← IO.monoNanosNow
      IO.println (text ++ Elapsed.text (now - since))

/-- Run with given options and return the exit code. -/
def execute (options : Options) : IO UInt32 := do
  let began ← IO.monoNanosNow
  let mut state := RunState.start
  for name in options.inputs do
    let content ← readText name
    let fileBegan ← IO.monoNanosNow
    let (lines, next) := state.next options name content
    state := next
    for line in lines do
      printLine fileBegan line
  for line in options.summary state.failures do
    printLine began line
  return state.exitCode.toUInt32

end CommandLine
end TemplateFile

open TemplateFile in
/-- The program: read the arguments, then the files. -/
def main (arguments : List String) : IO UInt32 := do
  match Options.ofArguments arguments with
  | .ok options => CommandLine.execute options
  | .error .help =>
      IO.println CommandLine.helpText
      return 0
  | .error .version =>
      IO.println CommandLine.versionText
      return 0
  | .error (.misuse fault) =>
      IO.eprintln ("error: " ++ fault.message)
      return 2
