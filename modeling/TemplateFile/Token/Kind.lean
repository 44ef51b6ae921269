import TemplateFile.TemplateKind

namespace TemplateFile

/-!
# Kinds of token

A file is a sequence of small header tokens and of whole templates, each of
which is a single token.  The kind of a token says which of these it is.  The
words `autoescape`, `requirecss`, `cssbase` and `as` are reserved: each is a
kind of its own and never a name.
-/

/-- The header tags, apart from the templates. -/
inductive HeaderTag where
  | package
  | namespaceTag
  | aliasTag
deriving DecidableEq, Repr

namespace HeaderTag

/-- The brace and keyword that begin the tag. -/
def keyword : HeaderTag -> List Char
  | package => "\x7bdelpackage".toList
  | namespaceTag => "\x7bnamespace".toList
  | aliasTag => "\x7balias".toList

end HeaderTag

/-- The words that may begin an attribute of a namespace tag. -/
inductive AttributeKey where
  | autoescape
  | requireCss
  | cssBase
deriving DecidableEq, Repr

namespace AttributeKey

/-- The reserved word. -/
def word : AttributeKey -> List Char
  | autoescape => "autoescape".toList
  | requireCss => "requirecss".toList
  | cssBase => "cssbase".toList

end AttributeKey

/-- The kind of a token.  An unexpected token is a piece of text that no rule
accepts: one character, or a construct that never ends. -/
inductive TokenKind where
  | endOfFile
  | unexpected
  | name
  | quoted
  | closeCurly
  | equals
  | header (tag : HeaderTag)
  | template (kind : TemplateKind)
  | attributeKey (key : AttributeKey)
  | asWord
deriving DecidableEq, Repr

namespace TokenKind

/-- The name under which the kind is written out. -/
def label : TokenKind -> String
  | endOfFile => "EOF"
  | unexpected => "Unexpected"
  | name => "DottedIdent"
  | quoted => "String"
  | closeCurly => "CloseCurly"
  | equals => "Assignment"
  | header .package => "DelPackage"
  | header .namespaceTag => "Namespace"
  | header .aliasTag => "Alias"
  | template .basic => "BasicTemplate"
  | template .delegate => "DelegateTemplate"
  | attributeKey .autoescape => "Autoescape"
  | attributeKey .requireCss => "RequireCss"
  | attributeKey .cssBase => "CssBase"
  | asWord => "As"

/-- All kinds. -/
def all : List TokenKind :=
  [endOfFile, unexpected, name, quoted, closeCurly, equals, header .package, header .namespaceTag,
   header .aliasTag, template .basic, template .delegate, attributeKey .autoescape,
   attributeKey .requireCss, attributeKey .cssBase, asWord]

/-- The kind with a given name. -/
def ofLabel? (label : String) : Option TokenKind := all.find? fun kind => kind.label == label

/-- Whether the kind may begin an attribute. -/
def isAttributeKey : TokenKind -> Bool
  | attributeKey _ => true
  | _ => false

/-- Whether a token of the kind is a whole template. -/
def isTemplate : TokenKind -> Bool
  | template _ => true
  | _ => false

/-- The kind of a reserved word. -/
def reserved? (word : List Char) : Option TokenKind :=
  if word = AttributeKey.autoescape.word then some (attributeKey .autoescape)
  else if word = AttributeKey.requireCss.word then some (attributeKey .requireCss)
  else if word = AttributeKey.cssBase.word then some (attributeKey .cssBase)
  else if word = "as".toList then some asWord
  else none

end TokenKind

end TemplateFile
