import TemplateFile.CommandLine.Options
import TemplateFile.Diagnostic.Snippet
import TemplateFile.Parse

namespace TemplateFile

/-!
# Runs of the command line

A run goes through its files in order, and the files share one session.  Each
file contributes lines of its own and may fail; the run ends with a summary and
fails if a file did.  Some lines end with the time that something took, which
only the outermost layer knows, so a line says whether it does.
-/

/-- Why a file could not be read. -/
inductive ReadFailure where
  | notText
  | system (description : String) (code : Nat)
deriving DecidableEq, Repr

namespace ReadFailure

/-- There is no such file. -/
def notFound : ReadFailure := system "No such file or directory" 2

/-- A part of the path before the last is not a directory. -/
def notDirectory : ReadFailure := system "Not a directory" 20

/-- The path names a directory. -/
def isDirectory : ReadFailure := system "Is a directory" 21

/-- The failure with a system's error number.  The common ones have a fixed
description, the others the one that the system gives. -/
def ofCode (code : Nat) (description : String) : ReadFailure :=
  match code with
  | 2 => notFound
  | 13 => system "Permission denied" 13
  | 20 => notDirectory
  | 21 => isDirectory
  | 36 => system "File name too long" 36
  | code => system description code

/-- The message about the failure. -/
def message : ReadFailure -> String
  | notText => "stream did not contain valid UTF-8"
  | system description code => description ++ " (os error " ++ toString code ++ ")"

/-- The text that bytes encode. -/
def decode (bytes : ByteArray) : Except ReadFailure String :=
  match String.fromUTF8? bytes with
  | some text => .ok text
  | none => .error notText

end ReadFailure

/-- A line of output: a text alone, or a text that an elapsed time follows. -/
inductive OutputLine where
  | plain (text : String)
  | timed (text : String)
deriving DecidableEq, Repr

/-- What one input file contributes to a run. -/
structure InputReport where
  lines : List OutputLine
  failed : Bool
deriving DecidableEq, Repr

namespace SourceFile

/-- The line that lists an alias. -/
def aliasLine (declaration : AliasDeclaration) : String :=
  "  alias " ++ declaration.target ++ " as " ++ declaration.name

/-- The lines that list a namespace and its attributes. -/
def namespaceLines (declaration : NamespaceDeclaration) : List String :=
  ("  namespace " ++ declaration.name) ::
    declaration.attributes.map fun entry => "    " ++ entry.name ++ "=\"" ++ entry.value ++ "\""

/-- The line that lists a template. -/
def templateLine (template : Template) : String :=
  (if template.isDelegate then "  deltemplate " else "  template ") ++ template.displayName ++
    " (line " ++ toString template.location.first.line ++
    (if template.doc.isSome then ", documented)" else ")")

/-- The lines that list what a file declares. -/
def listing (file : SourceFile) : List String :=
  [file.path ++ " (" ++ file.kind.label ++ ")"] ++
    (file.delegatePackage.map fun package => "  delpackage " ++ package).toList ++
    (file.namespaceDeclaration.map namespaceLines).getD [] ++
    file.aliases.map aliasLine ++
    file.templates.map templateLine

end SourceFile

namespace Options

/-- Parse one input, named as on the command line, whose text is `source`. -/
def parseInput (options : Options) (session : Session) (name source : String) : InputReport × Session :=
  let (outcome, session) :=
    session.parseFile (BodyScript.always BodyParser.raw) options.kind name source
  let progress := if options.quiet then [] else [OutputLine.timed ("Parsed " ++ name ++ " in ")]
  let problems := (outcome.diagnostics.flatMap fun diagnostic => diagnostic.display source).map OutputLine.plain
  let listing :=
    if options.dump then
      match outcome.result with
      | some file => file.listing.map OutputLine.plain
      | none => []
    else []
  (⟨progress ++ problems ++ listing, outcome.failed⟩, session)

/-- Take one input, which may have been impossible to read. -/
def processInput (options : Options) (session : Session) (name : String) (content : Except ReadFailure String) :
    InputReport × Session :=
  match content with
  | .ok source => options.parseInput session name source
  | .error failure =>
      (⟨[.plain ("Error: failed to read " ++ name ++ ": " ++ failure.message)], true⟩, session)

/-- The line that ends a run. -/
def summary (options : Options) (failures : Nat) : List OutputLine :=
  if options.quiet then []
  else
    [.timed ("Parsed " ++ toString options.inputs.length ++ " file(s), " ++ toString failures ++ " failed, in ")]

end Options

/-- How far a run has come: the session, and how many files have failed. -/
structure RunState where
  session : Session
  failures : Nat
deriving DecidableEq, Repr

namespace RunState

/-- A run before its first file. -/
def start : RunState := ⟨Session.start, 0⟩

/-- The run after one more input, and the lines that the input contributed. -/
def next (state : RunState) (options : Options) (name : String) (content : Except ReadFailure String) :
    List OutputLine × RunState :=
  let (report, session) := options.processInput state.session name content
  (report.lines, ⟨session, if report.failed then state.failures + 1 else state.failures⟩)

/-- The run after several inputs, and all their lines. -/
def nextAll (options : Options) (read : String -> Except ReadFailure String) :
    RunState -> List String -> List OutputLine × RunState
  | state, [] => ([], state)
  | state, name :: names =>
      let (lines, state) := state.next options name (read name)
      let (others, state) := nextAll options read state names
      (lines ++ others, state)

/-- The exit code of a run that ends here. -/
def exitCode (state : RunState) : Nat := if 0 < state.failures then 1 else 0

end RunState

namespace Options

/-- A whole run, where `read` gives the content of each file: its lines and its
exit code. -/
def run (options : Options) (read : String -> Except ReadFailure String) : List OutputLine × Nat :=
  let (lines, state) := RunState.nextAll options read RunState.start options.inputs
  (lines ++ options.summary state.failures, state.exitCode)

end Options

end TemplateFile
