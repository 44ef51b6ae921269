import TemplateFile.Grammar.SyntaxError
import TemplateFile.Proofs.Text.Quoted
import TemplateFile.Text.Search

namespace TemplateFile
namespace SyntaxFault

/-!
# A message tells its fault

The first words of a message say what kind of fault it is about, and the quoted
token after them ends where it says so itself.  So whatever a token looks like,
be it a whole message with quotes and parentheses of its own, it cannot be taken
for anything but a token.  What is left of the message holds the expected text
as it is.
-/

/-- The words in front of the token. -/
def lead : SyntaxFault -> String
  | unrecognised _ => "unrecognised input "
  | unexpected _ _ => "unexpected token "

/-- The text of the token. -/
def token : SyntaxFault -> String
  | unrecognised text => text
  | unexpected text _ => text

/-- What follows the token. -/
def trail : SyntaxFault -> String
  | unrecognised _ => ""
  | unexpected _ expected => " (expected " ++ expected ++ ")"

/-- The message in which the token is quoted in a given way. -/
def messageWith (quoted : List Char) (fault : SyntaxFault) : List Char :=
  fault.lead.toList ++ quoted ++ fault.trail.toList

/-- The expected text in what follows a token. -/
def expectedIn? (trail : List Char) : Option String :=
  (Text.dropWord? " (expected ".toList trail).bind fun rest =>
    match rest.reverse with
    | ')' :: inside => some (String.ofList inside.reverse)
    | _ => none

/-- The fault that a message tells. -/
def ofMessage? (message : List Char) : Option SyntaxFault :=
  match Text.dropWord? "unrecognised input ".toList message with
  | some rest =>
      match Text.unquote? rest with
      | some (text, []) => some (unrecognised (String.ofList text))
      | _ => none
  | none => do
      let rest <- Text.dropWord? "unexpected token ".toList message
      let (text, trail) <- Text.unquote? rest
      let expected <- expectedIn? trail
      return unexpected (String.ofList text) expected

/-- A message tells a fault: the fault can be read off the message, and its token
off the quoted part of it, which nothing inside it breaks out of. -/
structure Tells (message quoted : List Char) (fault : SyntaxFault) : Prop where
  parts : message = fault.messageWith quoted
  reads : ofMessage? message = some fault
  recovers : forall rest, Text.unquote? (quoted ++ rest) = some (fault.token.toList, rest)
  isSealed : Text.Sealed quoted

theorem message_unrecognised (text : String) :
    (unrecognised text).message = "unrecognised input " ++ Text.quote text := rfl

theorem message_unexpected (text expected : String) :
    (unexpected text expected).message =
      "unexpected token " ++ Text.quote text ++ " (expected " ++ expected ++ ")" := rfl

theorem toList_message (fault : SyntaxFault) :
    fault.message.toList = fault.messageWith (Text.quote fault.token).toList := by
  cases fault with
  | unrecognised text =>
      simp only [message_unrecognised, String.toList_append, messageWith, lead, token, trail, String.toList_empty,
        List.append_nil]
  | unexpected text expected =>
      simp only [message_unexpected, String.toList_append, messageWith, lead, token, trail, List.append_assoc]

theorem expectedIn?_trail (text expected : String) :
    expectedIn? (unexpected text expected).trail.toList = some expected := by
  have closing : ")".toList = [')'] := rfl
  have dropped : Text.dropWord? " (expected ".toList (unexpected text expected).trail.toList =
      some (expected.toList ++ [')']) := by
    rw [Text.dropWord?_eq_some_iff, trail, String.toList_append, String.toList_append, closing, List.append_assoc]
  rw [expectedIn?, dropped, Option.bind_some, List.reverse_append, List.reverse_singleton, List.singleton_append]
  simp only [List.reverse_reverse, String.ofList_toList]

/-- The fault is read off its message, whichever way the token is quoted. -/
theorem ofMessage?_messageWith {fault : SyntaxFault} {quoted : List Char}
    (quotes : Text.Quotes fault.token.toList quoted) : ofMessage? (fault.messageWith quoted) = some fault := by
  have unquoted := quotes.unquote?_append fault.trail.toList
  have dropped : Text.dropWord? fault.lead.toList (fault.messageWith quoted) =
      some (quoted ++ fault.trail.toList) := Text.dropWord?_eq_some_iff.mpr (List.append_assoc _ _ _)
  cases fault with
  | unrecognised text =>
      simp only [lead] at dropped
      simp only [ofMessage?, dropped, unquoted]
      simp only [trail, String.toList_empty, token, String.ofList_toList]
  | unexpected text expected =>
      -- The two kinds of messages differ in their third letter.
      have other : Text.dropWord? "unrecognised input ".toList
          ((unexpected text expected).messageWith quoted) = none := by
        have third : "unexpected token ".toList = 'u' :: 'n' :: 'e' :: "xpected token ".toList := rfl
        rw [messageWith, lead, third]
        rfl
      simp only [lead] at dropped
      simp only [ofMessage?, other, dropped, unquoted, expectedIn?_trail, token, Option.bind_eq_bind,
        Option.bind_some, String.ofList_toList, Option.pure_def]

theorem tells_messageWith {fault : SyntaxFault} {quoted : List Char}
    (quotes : Text.Quotes fault.token.toList quoted) : Tells (fault.messageWith quoted) quoted fault where
  parts := rfl
  reads := ofMessage?_messageWith quotes
  recovers := quotes.unquote?_append
  isSealed := quotes.isSealed

/-- A message determines its fault, and the quoted part of it determines the
token.  The same goes for every other choice of the characters to hide, even one
that looks at what stands in front of them. -/
theorem message_determines :
    (forall fault other : SyntaxFault, fault.message = other.message -> fault = other) ∧
      (forall fault : SyntaxFault, Tells fault.message.toList (Text.quote fault.token).toList fault) ∧
      forall hides, Text.HidesControls hides -> forall fault : SyntaxFault,
        Tells (fault.messageWith (Text.quoteBy hides fault.token.toList)) (Text.quoteBy hides fault.token.toList)
          fault := by
  have chosen : forall hides, Text.HidesControls hides -> forall fault : SyntaxFault,
      Tells (fault.messageWith (Text.quoteBy hides fault.token.toList)) (Text.quoteBy hides fault.token.toList)
        fault :=
    fun hides controls fault => tells_messageWith (Text.quotes_quoteBy controls _)
  have actual : forall fault : SyntaxFault, Tells fault.message.toList (Text.quote fault.token).toList fault := by
    intro fault
    rw [toList_message, Text.toList_quote]
    exact chosen _ Text.hidesControls_isHidden fault
  refine ⟨fun fault other same => ?_, actual, chosen⟩
  have told := (actual fault).reads
  rw [same, (actual other).reads] at told
  exact (Option.some.inj told).symm

/-- A token with an accent in front and one on a letter, of which only the first
is hidden. -/
theorem message_determines_detached :
    Text.HidesControls Text.hidesDetached ∧
      Text.quoteBy Text.hidesDetached ['\u0301', 'e', '\u0301'] =
        ['"', '\\', 'u', '\x7b', '3', '0', '1', '\x7d', 'e', '\u0301', '"'] ∧
      Tells
        ((unrecognised "\u0301e\u0301").messageWith
          (Text.quoteBy Text.hidesDetached "\u0301e\u0301".toList))
        (Text.quoteBy Text.hidesDetached "\u0301e\u0301".toList) (unrecognised "\u0301e\u0301") :=
  ⟨Text.hidesControls_hidesDetached, by decide +kernel,
    message_determines.2.2 Text.hidesDetached Text.hidesControls_hidesDetached (unrecognised "\u0301e\u0301")⟩

end SyntaxFault
end TemplateFile
