import TemplateFile.Body.Parser
import TemplateFile.Grammar.Head
import TemplateFile.Tree.SourceFile
import TemplateFile.Tree.TemplateText

namespace TemplateFile

/-!
# The grammar of a file

A file is its head, its templates and nothing more.  Reading a template also
parses its body, by asking the body parser whose turn it is.  Whatever the
answer, the template has been read and the next one has its turn: a body that
fails is reported and leaves its template without a body, and it has no say in
what follows.
-/

/-- The state of reading one file: the tokens left, the supply of ids, the log,
and the bodies handed out so far, in order. -/
structure ParseState where
  tokens : TokenStream
  ids : IdSupply
  log : Log
  requests : List BodyRequest

namespace ParseState

/-- The number of tokens left to read. -/
def size (state : ParseState) : Nat := state.tokens.size

/-- Whether the current token is a template. -/
def standsAtTemplate (state : ParseState) : Bool := state.tokens.current.kind.isTemplate

/-- The body of the current token, as it is handed to a body parser. -/
def requestHere (state : ParseState) : BodyRequest where
  text := String.ofList (TemplateText.bodyText state.tokens.current.value.toList)
  path := state.tokens.path
  start := state.tokens.current.span.first.toPlace

/-- The template that the current token declares, with the next id and no body
yet. -/
def declaredHere (state : ParseState) (kind : TemplateKind) (namespaceName : Option String) : Template :=
  Template.declare state.ids.take.1 kind
    (String.ofList (TemplateText.commandText kind state.tokens.current.value.toList)) state.tokens.current.doc
    (state.tokens.locationOf state.tokens.current) namespaceName

/-- The answer of the body parser whose turn it is. -/
def answerHere (state : ParseState) (script : BodyScript) : BodyAnswer :=
  script state.requests.length state.requestHere

/-- The report about a template whose body failed.  The first line number of
the failure's message is raised by the line where the template begins. -/
def failureReport (request : BodyRequest) (template : Template) (failure : BodyFailure) : Report where
  location := template.location
  format := .templateBodyFailure
  arguments :=
    [request.path, template.displayName, TemplateText.shiftLineNumber failure.message request.start.line]
  tip := none

/-- The nodes of an answer, numbered from a supply.  A failure has none and
takes no ids. -/
def nodesOf (answer : BodyAnswer) (ids : IdSupply) : Option (Body RawText) × IdSupply :=
  match answer.outcome with
  | .ok passages => (some (passages.number ids).1, (passages.number ids).2)
  | .error _ => (none, ids)

/-- Everything that an answer makes the log grow by: what the body parser
reports itself, and then its failure, if it failed. -/
def reportsOf (request : BodyRequest) (template : Template) (answer : BodyAnswer) : List Report :=
  answer.reports ++
    match answer.outcome with
    | .ok _ => []
    | .error failure => [failureReport request template failure]

/-- Read the current token as a template of a given kind and parse its body. -/
def readTemplate (script : BodyScript) (namespaceName : Option String) (kind : TemplateKind)
    (state : ParseState) : Template × ParseState :=
  let template := state.declaredHere kind namespaceName
  let answer := state.answerHere script
  let nodes := nodesOf answer state.ids.take.2
  ({ template with body := nodes.1 },
   { tokens := state.tokens.advance
     ids := nodes.2
     log := state.log.addAll (reportsOf state.requestHere template answer)
     requests := state.requests ++ [state.requestHere] })

end ParseState

/-- A rule for a file. -/
abbrev FileRule (Value : Type) := Rule ParseState Value

namespace FileRule

/-- A rule for the head of a file, as a rule for the file. -/
def ofHeader {Value : Type} (rule : HeaderRule Value) : FileRule Value := fun state =>
  match rule state.tokens with
  | .ok value tokens => .ok value { state with tokens := tokens }
  | .error error tokens => .error error { state with tokens := tokens }

/-- The next id of the supply. -/
def takeId : FileRule Nat := fun state =>
  let (id, ids) := state.ids.take
  .ok id { state with ids := ids }

/-- What may begin a template. -/
def templateTags : Expectation := ⟨.template .basic, [.template .delegate]⟩

/-- A template with its body. -/
def template (script : BodyScript) (namespaceName : Option String) : FileRule Template := fun state =>
  match state.tokens.current.kind with
  | .template kind =>
      let (template, next) := state.readTemplate script namespaceName kind
      .ok template next
  | _ => ofHeader (HeaderRule.unexpected templateTags.text) state

/-- A template leaves fewer tokens than it found. -/
theorem size_lt_of_template (script : BodyScript) (namespaceName : Option String) (state : ParseState)
    (value : Template) (next : ParseState) (ran : template script namespaceName state = .ok value next) :
    next.size < state.size := by
  unfold template at ran
  split at ran
  · next kind isTemplate =>
      cases ran
      exact TokenStream.size_advance_lt (by rw [isTemplate]; exact TokenKind.noConfusion)
  · cases ran

/-- The templates that follow each other from here on. -/
def templates (script : BodyScript) (namespaceName : Option String) : FileRule (List Template) :=
  Rule.repeatWhile ParseState.size ParseState.standsAtTemplate (template script namespaceName)
    fun state value next _ ran => size_lt_of_template script namespaceName state value next ran

/-- What could have followed the templates of a file. -/
def afterTemplates (head : FileHead) (templates : List Template) : Expectation :=
  if templates = [] then head.following else ⟨.anyTemplate, [.endOfFile]⟩

/-- A whole file.  The file's own id comes before those of its templates. -/
def sourceFile (script : BodyScript) (kind : FileKind) : FileRule SourceFile := do
  let id ← takeId
  let head ← ofHeader FileHead.rule
  let templates ← templates script (head.namespaceDeclaration.map NamespaceDeclaration.name)
  let state ← get
  if state.tokens.hasTokens then
    ofHeader (HeaderRule.unexpected (afterTemplates head templates).text)
  else
    return { id := id
             path := state.tokens.path
             kind := kind
             delegatePackage := head.delegatePackage
             namespaceDeclaration := head.namespaceDeclaration
             aliases := head.aliases
             templates := templates }

end FileRule

end TemplateFile
