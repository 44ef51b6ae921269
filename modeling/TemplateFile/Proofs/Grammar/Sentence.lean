import TemplateFile.Token.Kind
import Mathlib.Computability.Language

namespace TemplateFile
namespace Sentence

open Computability

/-!
# The sentences of the file grammar

A file is accepted or rejected by the kinds of its tokens alone.  The sentences
are the sequences of kinds that a file may have, the end of the file included.
-/

/-- A sequence of the language, or nothing. -/
def optional (language : Language TokenKind) : Language TokenKind := 1 + language

/-- Package tags. -/
def packageTag : Language TokenKind := {[.header .package, .name, .closeCurly]}

/-- Attributes of a namespace tag. -/
def attributePair : Language TokenKind := {kinds | ∃ key, kinds = [.attributeKey key, .equals, .quoted]}

/-- Namespace tags. -/
def namespaceTag : Language TokenKind := {[.header .namespaceTag, .name]} * (attributePair∗ * {[.closeCurly]})

/-- Alias tags. -/
def aliasTag : Language TokenKind :=
  {[.header .aliasTag, .name]} * (optional {[.asWord, .name]} * {[.closeCurly]})

/-- Templates. -/
def template : Language TokenKind := {kinds | ∃ kind, kinds = [.template kind]}

/-- Files. -/
def file : Language TokenKind :=
  optional packageTag * (optional namespaceTag * (aliasTag∗ * (template∗ * {[.endOfFile]})))

/-- A sequence of kinds that some sentence begins with. -/
def Viable (kinds : List TokenKind) : Prop := ∃ rest, kinds ++ rest ∈ file

theorem nil_mem_optional (language : Language TokenKind) : [] ∈ optional language := Or.inl rfl

end Sentence
end TemplateFile
