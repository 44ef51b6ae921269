import TemplateFile.Grammar.Expectation
import Mathlib.Data.List.Infix

namespace TemplateFile

/-!
# An expectation can be read back

A message shows an expectation as text only.  Nothing is lost by that: no item
begins with the words of another one, so the items can be told apart one after
the other, and two expectations with the same text are the same.
-/

namespace Expected

/-- Everything that the grammar can expect. -/
def all : List Expected :=
  [header .package, header .namespaceTag, header .aliasTag, packageName, namespaceName, anyAttribute,
   attributeKey .autoescape, attributeKey .requireCss, attributeKey .cssBase, equals, attributeValue,
   aliasedNamespace, asWord, aliasName, closeCurly, anyTemplate, template .basic, template .delegate, endOfFile]

theorem mem_all (item : Expected) : item ∈ all := by
  cases item with
  | header tag => cases tag <;> decide
  | attributeKey key => cases key <;> decide
  | template kind => cases kind <;> decide
  | _ => decide

/-- No item begins with the words of another one. -/
theorem eq_of_text_begins {item other : Expected} (begins : item.text.toList <+: other.text.toList) :
    item = other := by
  have free : forall item, item ∈ all -> forall other, other ∈ all ->
      item.text.toList <+: other.text.toList -> item = other := by
    decide +kernel
  exact free item (mem_all item) other (mem_all other) begins

/-- Items can be told apart by the texts that begin with them. -/
theorem eq_of_text_append {item other : Expected} {rest tail : List Char}
    (same : item.text.toList ++ rest = other.text.toList ++ tail) : item = other ∧ rest = tail := by
  have sameItem : item = other := by
    rcases List.append_eq_append_iff.mp same with ⟨more, longer, _⟩ | ⟨more, longer, _⟩
    · exact eq_of_text_begins ⟨more, longer.symm⟩
    · exact (eq_of_text_begins ⟨more, longer.symm⟩).symm
  subst sameItem
  exact ⟨rfl, List.append_cancel_left same⟩

end Expected

namespace Expectation

/-- A text names a kind of token if it is the text of an expectation with that kind. -/
def Names (text : String) (kind : TokenKind) : Prop :=
  ∃ expectation : Expectation, expectation.text = text ∧ kind ∈ expectation.kinds

theorem toList_continuation_singleton (item : Expected) :
    (continuation [item]).toList = ' ' :: 'o' :: 'r' :: ' ' :: item.text.toList :=
  String.toList_append

theorem toList_continuation_cons (item next : Expected) (rest : List Expected) :
    (continuation (item :: next :: rest)).toList =
      ',' :: ' ' :: (item.text.toList ++ (continuation (next :: rest)).toList) := by
  rw [continuation, String.toList_append, String.toList_append, List.append_assoc]
  · rfl
  · exact List.cons_ne_nil _ _

theorem continuation_injective {items others : List Expected}
    (same : (continuation items).toList = (continuation others).toList) : items = others := by
  induction items generalizing others with
  | nil =>
      match others with
      | [] => rfl
      | [other] => rw [toList_continuation_singleton] at same; cases same
      | other :: next :: rest => rw [toList_continuation_cons] at same; cases same
  | cons item items inductionHypothesis =>
      match items, others with
      | [], [] => rw [toList_continuation_singleton] at same; cases same
      | _ :: _, [] => rw [toList_continuation_cons] at same; cases same
      | [], other :: next :: rest =>
          rw [toList_continuation_singleton, toList_continuation_cons] at same
          cases (List.cons.inj same).1
      | _ :: _, [other] =>
          rw [toList_continuation_singleton, toList_continuation_cons] at same
          cases (List.cons.inj same).1
      | [], [other] =>
          rw [toList_continuation_singleton, toList_continuation_singleton] at same
          have texts : item.text.toList = other.text.toList := by
            simpa only [List.cons.injEq, true_and] using same
          have begins : item.text.toList <+: other.text.toList := ⟨[], by rw [texts, List.append_nil]⟩
          rw [Expected.eq_of_text_begins begins]
      | second :: items, other :: next :: rest =>
          rw [toList_continuation_cons, toList_continuation_cons] at same
          have parts := Expected.eq_of_text_append (List.cons.inj (List.cons.inj same).2).2
          rw [parts.1, inductionHypothesis parts.2]

/-- Two expectations with the same text are the same. -/
theorem text_injective : Function.Injective text := by
  rintro ⟨first, others⟩ ⟨otherFirst, otherOthers⟩ same
  have sameList := congrArg String.toList same
  rw [text, text, String.toList_append, String.toList_append] at sameList
  have parts := Expected.eq_of_text_append sameList
  exact congrArg₂ Expectation.mk parts.1 (continuation_injective parts.2)

/-- The text of an expectation names its kinds and no others. -/
theorem names_text_iff {expectation : Expectation} {kind : TokenKind} :
    Names expectation.text kind ↔ kind ∈ expectation.kinds := by
  constructor
  · rintro ⟨other, same, named⟩
    rw [← text_injective same]
    exact named
  · exact fun named => ⟨expectation, rfl, named⟩

end Expectation

end TemplateFile
