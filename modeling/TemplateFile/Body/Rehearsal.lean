import TemplateFile.Body.Parser

namespace TemplateFile

/-!
# Rehearsed answers

A rehearsed answer is written down before there is a body to parse.  It says
what to report, always at the beginning of the template, and then how to end:
with a failure, with given texts, or by keeping the body as it is.  A list of
them is a script; past its end every body is kept as it is.
-/

/-- A report without its location. -/
structure RehearsedReport where
  format : MessageFormat
  arguments : List String
  tip : Option String

/-- How a rehearsed answer ends. -/
inductive RehearsedOutcome where
  | fail (failure : BodyFailure)
  | keepText
  | texts (body : Body String)

/-- An answer written down in advance. -/
structure RehearsedAnswer where
  reports : List RehearsedReport
  outcome : RehearsedOutcome

namespace RehearsedAnswer

/-- The report made for a request. -/
def reportFor (request : BodyRequest) (report : RehearsedReport) : Report :=
  ⟨request.location, report.format, report.arguments, report.tip⟩

/-- The passages that hold given texts, all at the beginning of the template. -/
def passagesFor (request : BodyRequest) (texts : List String) : List Passage :=
  texts.map fun text => ⟨text, request.location⟩

/-- The body parser that gives the answer whatever the body is. -/
def toBodyParser (answer : RehearsedAnswer) : BodyParser := fun request =>
  { reports := answer.reports.map (reportFor request)
    outcome :=
      match answer.outcome with
      | .fail failure => .error failure
      | .keepText => (BodyParser.raw request).outcome
      | .texts body => .ok ⟨passagesFor request body.header, passagesFor request body.content⟩ }

/-- The script made of a list of answers. -/
def toScript (answers : List RehearsedAnswer) : BodyScript := fun call =>
  match answers[call]? with
  | some answer => answer.toBodyParser
  | none => BodyParser.raw

end RehearsedAnswer

end TemplateFile
