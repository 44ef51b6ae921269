namespace TemplateFile

/-!
# Ids

Every file, template and body node has an id, and all of them come from one
supply.  A supply is the next id it will give: ids only grow, so an id that
was given is never given again.
-/

/-- A supply of ids, as the id it gives next. -/
structure IdSupply where
  next : Nat
deriving DecidableEq, Repr

namespace IdSupply

/-- The supply that starts with zero. -/
def empty : IdSupply := ⟨0⟩

/-- The next id, and the supply after it. -/
def take (ids : IdSupply) : Nat × IdSupply := (ids.next, ⟨ids.next + 1⟩)

end IdSupply

end TemplateFile
