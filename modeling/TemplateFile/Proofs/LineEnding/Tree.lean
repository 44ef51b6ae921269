import TemplateFile.Proofs.Body.LastPlace
import TemplateFile.Proofs.LineEnding.Tokens
import TemplateFile.Tree.SourceFile

namespace TemplateFile

/-!
# Line endings in a tree

A tree keeps texts of its file: the values of attributes, the command texts and
documentation comments of templates, and their bodies.  With carriage returns
in the file they are in these texts too.  Everything else in the tree is a name
or a place, and has no line endings.

The body parser for raw texts counts lines itself.  It does so by line feeds
alone, and measures the last line only, so it is not misled.
-/

/-! ## Trees with carriage returns -/

/-- The attribute with a carriage return before every line feed of its value. -/
def Attribute.withReturns (entry : Attribute) : Attribute := { entry with value := Source.withReturns entry.value }

/-- The declaration with carriage returns in its attributes. -/
def NamespaceDeclaration.withReturns (declaration : NamespaceDeclaration) : NamespaceDeclaration :=
  { declaration with attributes := declaration.attributes.map Attribute.withReturns }

/-- The node with a carriage return before every line feed of its text. -/
def RawText.withReturns (node : RawText) : RawText := { node with text := Source.withReturns node.text }

/-- The body with carriage returns in its nodes. -/
def Body.withReturns (body : Body RawText) : Body RawText :=
  ⟨body.header.map RawText.withReturns, body.content.map RawText.withReturns⟩

/-- The template with carriage returns in its command text, its documentation comment and its body. -/
def Template.withReturns (template : Template) : Template :=
  { template with
    commandText := Source.withReturns template.commandText
    doc := template.doc.map Source.withReturns
    body := template.body.map Body.withReturns }

/-- The tree with carriage returns in the texts that it keeps. -/
def SourceFile.withReturns (file : SourceFile) : SourceFile :=
  { file with
    namespaceDeclaration := file.namespaceDeclaration.map NamespaceDeclaration.withReturns
    templates := file.templates.map Template.withReturns }

theorem Template.nameIn_withReturns (commandText : String) :
    nameIn (Source.withReturns commandText) = nameIn commandText := by
  rw [nameIn, Source.toList_withReturns, Text.firstWord_withReturns, nameIn]

/-- The templates of a file are called the same. -/
theorem SourceFile.map_names_withReturns (tree : Option SourceFile) :
    ((tree.map withReturns).map fun file => file.templates.map Template.name) =
      tree.map fun file => file.templates.map Template.name := by
  cases tree with
  | none => rfl
  | some file =>
      change some ((file.templates.map Template.withReturns).map Template.name) = _
      rw [List.map_map]
      exact congrArg some (List.map_congr_left fun template _ => Template.nameIn_withReturns template.commandText)

/-! ## The text of a template -/

namespace TemplateText

theorem commandText_withReturns (kind : TemplateKind) (text : List Char) :
    commandText kind (Text.withReturns text) = Text.withReturns (commandText kind text) := by
  have afterKeyword : forall openTag : List Char,
      (Text.dropWord? kind.keyword (Text.withReturns openTag)).getD (Text.withReturns openTag) =
        Text.withReturns ((Text.dropWord? kind.keyword openTag).getD openTag) := by
    intro openTag
    rw [Text.dropWord?_withReturns (Scanner.isInLine_keyword kind)]
    cases Text.dropWord? kind.keyword openTag <;> rfl
  rw [commandText, commandText, Text.cutAt?_withReturns (by decide) (by decide)]
  cases Text.cutAt? ['\x7d'] text with
  | none => exact (congrArg Text.trim (afterKeyword text)).trans (Text.trim_withReturns _)
  | some around => exact (congrArg Text.trim (afterKeyword around.1)).trans (Text.trim_withReturns _)

theorem Parts.bodyText_withReturns {kind : TemplateKind} {text openTag body : List Char}
    (parts : Parts kind text openTag body) :
    bodyText (Text.withReturns text) = Text.withReturns (bodyText text) := by
  rcases parts.exists_front with ⟨front, free, whole⟩
  have freeLater : '\x7d' ∉ Text.withReturns front := mt (Text.mem_withReturns_iff (by decide)).mp free
  have closer := Text.withReturns_of_notMem ((Construct.template kind).isInLine_closer).noFeed
  rw [parts.bodyText_eq, whole, Text.withReturns_append, Text.withReturns_append, Text.withReturns_append body,
    show Text.withReturns kind.closer = kind.closer from closer]
  exact bodyText_append freeLater _

end TemplateText

/-! ## Raw texts -/

namespace BodyParser

/-- Carriage returns do not count as lines, nor on the last line. -/
theorem lastPlace_withReturns (start : Place) (body : List Char) :
    lastPlace start (Text.withReturns body) = lastPlace start body := by
  by_cases breaks : '\n' ∈ body
  · have breaksLater := (Text.mem_withReturns_iff (by decide)).mpr breaks
    rw [lastPlace_of_mem start breaksLater, lastPlace_of_mem start breaks, Source.count_withReturns,
      Source.lastLine_withReturns]
  · rw [Text.withReturns_of_notMem breaks]

end BodyParser

/-- The request with a carriage return before every line feed of its body. -/
def BodyRequest.withReturns (request : BodyRequest) : BodyRequest :=
  { request with text := Source.withReturns request.text }

/-- The body parser for raw texts hands over the same passage with carriage returns. -/
theorem ParseState.nodesOf_raw_withReturns (request : BodyRequest) (ids : IdSupply) :
    nodesOf (BodyParser.raw request.withReturns) ids =
      Prod.map (Option.map Body.withReturns) id (nodesOf (BodyParser.raw request) ids) := by
  have sameEmpty : (Source.withReturns request.text).isEmpty = request.text.isEmpty := by
    rw [Bool.eq_iff_iff, String.isEmpty_iff, String.isEmpty_iff, ← String.toList_eq_nil_iff,
      ← String.toList_eq_nil_iff, Source.toList_withReturns, Text.withReturns_eq_nil_iff]
  have last := BodyParser.lastPlace_withReturns request.start request.text.toList
  rw [← Source.toList_withReturns] at last
  rw [BodyParser.raw, BodyParser.raw, BodyRequest.withReturns]
  simp only [sameEmpty, last]
  cases request.text.isEmpty with
  | true => rfl
  | false => rfl

end TemplateFile
