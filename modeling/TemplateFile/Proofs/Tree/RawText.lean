import TemplateFile.Tree.RawText

namespace TemplateFile

/-!
# Numbered passages

Numbering passages adds ids to them and changes nothing else.  The ids are
consecutive, they begin with the next one of the supply, and there is one for
each passage; from a later supply the same passages get ids that are later by
the same amount.
-/

namespace RawText

/-- The node with its id changed. -/
def mapId (change : Nat -> Nat) (node : RawText) : RawText := ⟨node.toPassage, change node.id⟩

theorem numberAll_cons (passage : Passage) (rest : List Passage) (ids : IdSupply) :
    numberAll (passage :: rest) ids =
      (⟨passage, ids.next⟩ :: (numberAll rest ⟨ids.next + 1⟩).1, (numberAll rest ⟨ids.next + 1⟩).2) := rfl

theorem map_toPassage_numberAll (passages : List Passage) (ids : IdSupply) :
    (numberAll passages ids).1.map RawText.toPassage = passages := by
  induction passages generalizing ids with
  | nil => rfl
  | cons passage rest inductionHypothesis => rw [numberAll_cons, List.map_cons, inductionHypothesis]

theorem map_id_numberAll (passages : List Passage) (ids : IdSupply) :
    (numberAll passages ids).1.map RawText.id = List.range' ids.next passages.length := by
  induction passages generalizing ids with
  | nil => rfl
  | cons passage rest inductionHypothesis =>
      rw [numberAll_cons, List.map_cons, inductionHypothesis, List.length_cons, List.range'_succ]

theorem next_numberAll (passages : List Passage) (ids : IdSupply) :
    (numberAll passages ids).2.next = ids.next + passages.length := by
  induction passages generalizing ids with
  | nil => rfl
  | cons passage rest inductionHypothesis =>
      rw [numberAll_cons, inductionHypothesis, List.length_cons, Nat.add_assoc, Nat.add_comm 1]

/-- A supply that is later by some amount gives ids that are later by this amount. -/
theorem numberAll_add (amount : Nat) (passages : List Passage) (ids : IdSupply) :
    numberAll passages ⟨amount + ids.next⟩ =
      ((numberAll passages ids).1.map (mapId (amount + ·)), ⟨amount + (numberAll passages ids).2.next⟩) := by
  induction passages generalizing ids with
  | nil => rfl
  | cons passage rest inductionHypothesis =>
      rw [numberAll_cons, numberAll_cons, Nat.add_assoc, inductionHypothesis ⟨ids.next + 1⟩, List.map_cons]
      rfl

end RawText

namespace Body

/-- The body without its ids. -/
def passages (body : Body RawText) : Body Passage :=
  ⟨body.header.map RawText.toPassage, body.content.map RawText.toPassage⟩

/-- The nodes of both parts, those of the header first. -/
def nodes {Node : Type} (body : Body Node) : List Node := body.header ++ body.content

/-- The body with its ids changed. -/
def mapIds (change : Nat -> Nat) (body : Body RawText) : Body RawText :=
  ⟨body.header.map (RawText.mapId change), body.content.map (RawText.mapId change)⟩

theorem passages_number (body : Body Passage) (ids : IdSupply) : (body.number ids).1.passages = body := by
  simp only [passages, number, RawText.map_toPassage_numberAll]

theorem map_id_number (body : Body Passage) (ids : IdSupply) :
    (body.number ids).1.nodes.map RawText.id = List.range' ids.next body.nodes.length := by
  simp only [nodes, number, List.map_append, RawText.map_id_numberAll, RawText.next_numberAll, List.length_append,
    List.range'_append_1]

theorem next_number (body : Body Passage) (ids : IdSupply) :
    (body.number ids).2.next = ids.next + body.nodes.length := by
  simp only [nodes, number, RawText.next_numberAll, List.length_append, Nat.add_assoc]

theorem number_add (amount : Nat) (body : Body Passage) (ids : IdSupply) :
    body.number ⟨amount + ids.next⟩ =
      ((body.number ids).1.mapIds (amount + ·), ⟨amount + (body.number ids).2.next⟩) := by
  simp only [number, mapIds, RawText.numberAll_add]

end Body

end TemplateFile
