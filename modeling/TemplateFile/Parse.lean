import TemplateFile.Grammar.File

namespace TemplateFile

/-!
# Parsing files

A session is what many files share: one supply of ids and one log.  Parsing a
file takes a session to a later one and answers with the tree, if the file has
the form of a file, and with what was reported on the way.  A file has failed
exactly when something was reported during its own parse; its tree may be there
all the same, when only bodies failed.
-/

/-- What the parses of many files share. -/
structure Session where
  ids : IdSupply
  log : Log
deriving DecidableEq, Repr

namespace Session

/-- A session before the first file. -/
def start : Session := ⟨IdSupply.empty, Log.empty .keep⟩

end Session

/-- The answer to one parse. -/
structure ParseOutcome where
  file : Option SourceFile
  failed : Bool
  diagnostics : List Diagnostic
  requests : List BodyRequest
deriving DecidableEq, Repr

namespace ParseOutcome

/-- The tree, only if nothing was reported. -/
def result (outcome : ParseOutcome) : Option SourceFile := if outcome.failed then none else outcome.file

end ParseOutcome

namespace ParseState

/-- The state before the first token of a file. -/
def start (session : Session) (path source : String) : ParseState :=
  ⟨TokenStream.ofSource path source, session.ids, session.log, []⟩

/-- What is shared with other files. -/
def toSession (state : ParseState) : Session := ⟨state.ids, state.log⟩

end ParseState

namespace Session

/-- Parse the text of a file. -/
def parseFile (session : Session) (script : BodyScript) (kind : FileKind) (path source : String) :
    ParseOutcome × Session :=
  let checkpoint := session.log.checkpoint
  let (file, state) :=
    match FileRule.sourceFile script kind (ParseState.start session path source) with
    | .ok file state => (some file, state)
    | .error error state => (none, { state with log := state.log.add error.toReport })
  ({ file := file
     failed := state.log.hasErrorsSince checkpoint
     diagnostics := state.log.since checkpoint
     requests := state.requests },
   state.toSession)

end Session

end TemplateFile
