import TemplateFile.Id
import TemplateFile.Source.Location

namespace TemplateFile

/-!
# Nodes of a template body

A body is made of pieces of text, each with its location.  A passage is such a
piece before it has an id, which is how a body parser hands it over; a raw text
is the same piece as a node of the tree.  `number` gives the passages of a body
their ids, in order.
-/

/-- A piece of text and where it stands. -/
structure Passage where
  text : String
  location : Location
deriving DecidableEq, Repr

/-- A node that keeps a piece of text as it is. -/
structure RawText extends Passage where
  id : Nat
deriving DecidableEq, Repr

/-- A template body in two parts: what it declares, and its content. -/
structure Body (Node : Type) where
  header : List Node
  content : List Node
deriving DecidableEq, Repr

namespace RawText

/-- The nodes for passages, numbered in order from a supply. -/
def numberAll : List Passage -> IdSupply -> List RawText × IdSupply
  | [], ids => ([], ids)
  | passage :: rest, ids =>
      let (id, ids) := ids.take
      let (nodes, ids) := numberAll rest ids
      (⟨passage, id⟩ :: nodes, ids)

end RawText

namespace Body

/-- The body with its passages numbered, those of the header first. -/
def number (body : Body Passage) (ids : IdSupply) : Body RawText × IdSupply :=
  let (header, ids) := RawText.numberAll body.header ids
  let (content, ids) := RawText.numberAll body.content ids
  (⟨header, content⟩, ids)

end Body

end TemplateFile
