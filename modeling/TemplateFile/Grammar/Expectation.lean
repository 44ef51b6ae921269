import TemplateFile.Token.Kind

namespace TemplateFile

/-!
# What could have stood here

An expectation lists what the grammar accepts at some point of a file, in the
words that a message uses.  Each item of the list describes one or more kinds
of token, so an expectation can be read as a set of kinds as well as a text.
-/

/-- Something the grammar accepts, in words. -/
inductive Expected where
  | header (tag : HeaderTag)
  | packageName
  | namespaceName
  | anyAttribute
  | attributeKey (key : AttributeKey)
  | equals
  | attributeValue
  | aliasedNamespace
  | asWord
  | aliasName
  | closeCurly
  | anyTemplate
  | template (kind : TemplateKind)
  | endOfFile
deriving DecidableEq, Repr

namespace Expected

/-- The words for it. -/
def text : Expected -> String
  | header tag => String.ofList tag.keyword
  | packageName => "a delegate package name"
  | namespaceName => "a namespace name"
  | anyAttribute => "an attribute"
  | attributeKey key => String.ofList key.word
  | equals => "="
  | attributeValue => "a quoted attribute value"
  | aliasedNamespace => "an aliased namespace"
  | asWord => "as"
  | aliasName => "an alias name"
  | closeCurly => "\x7d"
  | anyTemplate => "a template"
  | template kind => String.ofList kind.keyword
  | endOfFile => "end of file"

/-- The kinds of token that it stands for. -/
def kinds : Expected -> List TokenKind
  | header tag => [.header tag]
  | packageName => [.name]
  | namespaceName => [.name]
  | anyAttribute => [.attributeKey .autoescape, .attributeKey .requireCss, .attributeKey .cssBase]
  | attributeKey key => [.attributeKey key]
  | equals => [.equals]
  | attributeValue => [.quoted]
  | aliasedNamespace => [.name]
  | asWord => [.asWord]
  | aliasName => [.name]
  | closeCurly => [.closeCurly]
  | anyTemplate => [.template .basic, .template .delegate]
  | template kind => [.template kind]
  | endOfFile => [.endOfFile]

end Expected

/-- What the grammar accepts at some point: the first possibility, and the
others. -/
structure Expectation where
  first : Expected
  others : List Expected
deriving DecidableEq, Repr

namespace Expectation

/-- A single possibility. -/
def only (item : Expected) : Expectation := ⟨item, []⟩

/-- The items, in order. -/
def items (expectation : Expectation) : List Expected := expectation.first :: expectation.others

/-- The text of a list of possibilities after the first one: commas stand
between them, and `or` before the last. -/
def continuation : List Expected -> String
  | [] => ""
  | [last] => " or " ++ last.text
  | item :: rest => ", " ++ item.text ++ continuation rest

/-- The expectation in words. -/
def text (expectation : Expectation) : String := expectation.first.text ++ continuation expectation.others

/-- The kinds of token that could have stood there. -/
def kinds (expectation : Expectation) : List TokenKind := expectation.items.flatMap Expected.kinds

end Expectation

end TemplateFile
