import Mathlib.Data.List.Forall2
import Mathlib.Data.List.Pairwise

namespace TemplateFile

/-!
# Lists in relation to each other

What is known of one list carries over to another one that is related to it
element by element: membership, order, and further relations.
-/

variable {First Second Third : Type} {one : First -> Second -> Prop} {two : Second -> Third -> Prop}
  {firsts : List First} {seconds : List Second} {thirds : List Third}

/-- Two lists that are related to a third one are related to each other. -/
theorem forall₂_trans (left : List.Forall₂ one firsts seconds) (right : List.Forall₂ two seconds thirds) :
    List.Forall₂ (fun first third => ∃ second, one first second ∧ two second third) firsts thirds := by
  induction left generalizing thirds with
  | nil =>
      cases right
      exact .nil
  | cons here _ inductionHypothesis =>
      cases right with
      | cons there others => exact .cons ⟨_, here, there⟩ (inductionHypothesis others)

/-- Every element comes from one that is related to it. -/
theorem exists_of_forall₂ (related : List.Forall₂ one firsts seconds) {second : Second} (member : second ∈ seconds) :
    ∃ first, first ∈ firsts ∧ one first second := by
  induction related with
  | nil => cases member
  | cons here _ inductionHypothesis =>
      rcases List.mem_cons.mp member with rfl | later
      · exact ⟨_, List.mem_cons_self, here⟩
      · rcases inductionHypothesis later with ⟨first, listed, holds⟩
        exact ⟨first, List.mem_cons_of_mem _ listed, holds⟩

/-- A list that is related to an ordered one is ordered, if the relation carries the order over. -/
theorem pairwise_of_forall₂ {early : First -> First -> Prop} {late : Second -> Second -> Prop}
    (related : List.Forall₂ one firsts seconds) (sorted : firsts.Pairwise early)
    (carries : forall {first other second another}, one first second -> one other another -> early first other ->
      late second another) : seconds.Pairwise late := by
  rw [List.pairwise_iff_get] at sorted ⊢
  have parts := List.forall₂_iff_get.mp related
  have bound : forall index : Fin seconds.length, index.val < firsts.length := fun index =>
    Nat.lt_of_lt_of_eq index.isLt parts.1.symm
  intro index later earlier
  exact carries (parts.2 index (bound index) index.isLt) (parts.2 later (bound later) later.isLt)
    (sorted ⟨index, bound index⟩ ⟨later, bound later⟩ earlier)

end TemplateFile
