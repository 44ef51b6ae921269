namespace TemplateFile

/-!
# The two kinds of template

A template is basic or a delegate.  The kind decides the keyword that opens it
and the tag that closes it, and nothing else about how it is written.
-/

/-- Whether a template is chosen by its name or stands in for another one. -/
inductive TemplateKind where
  | basic
  | delegate
deriving DecidableEq, Repr

namespace TemplateKind

/-- The brace and keyword that begin an open tag. -/
def keyword : TemplateKind -> List Char
  | basic => "\x7btemplate".toList
  | delegate => "\x7bdeltemplate".toList

/-- The tag that closes a template. -/
def closer : TemplateKind -> List Char
  | basic => "\x7b/template\x7d".toList
  | delegate => "\x7b/deltemplate\x7d".toList

/-- The name of the kind. -/
def label : TemplateKind -> String
  | basic => "Basic"
  | delegate => "Delegate"

end TemplateKind

end TemplateFile
