import Workflow.Fault

/-!
# Replies

A reply is what a person sends to a conversation that waits: typed text, a picked choice, or both.
-/

namespace Workflow

/-- A reply to a waiting conversation. -/
structure Reply where
  content : String := ""
  /-- The id of the picked choice. -/
  choice : Option String := none
  deriving DecidableEq, Repr, Inhabited

namespace Reply

/-- Read a reply. -/
def decode : Decoder Reply :=
  Shape.record "ResumeInput" fun fields =>
    Reply.mk <$> Shape.withDefault "content" Shape.text "" fields
      <*> Shape.withDefault "choice_id" (Shape.optional Shape.text) none fields

/-- A reply as a value. -/
def encode (reply : Reply) : Value :=
  .object [("content", .text reply.content), ("choice_id", Value.ofText? reply.choice)]

/-- The reply a value stands for: nothing is an empty reply and a text is typed. -/
def ofValue : Value → Except Fault Reply
  | .null => .ok {}
  | .text s => .ok { content := s }
  | v => Fault.check "ResumeInput" decode v

/-- What the reply looks like in the conversation: the typed text, or else the picked choice. -/
def shown (reply : Reply) : String :=
  if reply.content ≠ "" then reply.content else reply.choice.getD ""

end Reply

namespace Value

/-- The items of a value that is gone through one by one: those of a list, the names of an object,
or the characters of a text. -/
def iterate : Value → Except Fault (List Value)
  | .list items => .ok items
  | .object fields => .ok (fields.map fun field => .text field.1)
  | .text s => .ok (s.toList.map fun c => .text (String.singleton c))
  | v => .error (.misuse (.noItems v.kindName))

/-- The fields of a value that should have some. -/
def fieldsOf : Value → Except Fault Fields
  | .object fields => .ok fields
  | v => .error (.misuse (.noFields v.kindName))

end Value

end Workflow
