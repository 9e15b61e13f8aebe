import Workflow.Conversation.Variables
import Workflow.Execution.Result
import Workflow.Graph.Basic
import Workflow.Moment

/-!
# Conversations

A conversation walks a graph. It is idle until it starts, runs through steps that need nobody, is
suspended at a step that waits for a reply, and is completed when no step is left. What it says and
what becomes of its steps is told to the outside as effects, in the order in which it happens.
-/

namespace Workflow

/-- Something said in a conversation. -/
structure Message where
  role : Role
  content : String
  metadata : Option Fields := none
  deriving DecidableEq, Repr

namespace Message

/-- Read a message, with an id that may be given; `fresh` is the id of one without an id. -/
def decode (fresh : String) : Decoder (String × Message) :=
  Shape.record "ChatMessage" fun fields =>
    (fun id role content _ metadata => (id, Message.mk role content metadata))
      <$> Shape.withDefault "id" Shape.text fresh fields
      <*> Shape.required "role" Role.decode fields
      <*> Shape.required "content" Shape.text fields
      <*> Shape.withDefault "timestamp" Moment.decode default fields
      <*> Shape.withDefault "metadata" (Shape.optional Shape.object) none fields

/-- A message as a value, without an id. -/
def encode (message : Message) : Value :=
  .object [("role", .text message.role.name), ("content", .text message.content),
    ("metadata", Answer.encodeFields? message.metadata)]

end Message

/-- A conversation and where it stands. -/
structure Conversation where
  graph : Graph
  /-- The name of the run. -/
  id : String
  /-- The routine the conversation belongs to; empty when it belongs to none. -/
  routine : String := ""
  state : RunState := .idle
  /-- The id of the step reached last. -/
  node : Option String := none
  messages : List Message := []
  bindings : Variables := {}

/-- A conversation in a context. It belongs to the routine of the context unless it belongs to
another. -/
def Conversation.inContext (graph : Graph) (id routine : String) (context : Context) :
    Conversation :=
  { graph, id, routine := if routine = "" then context.routine else routine,
    bindings := .ofFields context.bindings }

/-- A conversation as a value. -/
def Conversation.encode (c : Conversation) : Value :=
  .object [("execution_id", .text c.id), ("routine_id", .text c.routine),
    ("state", .text c.state.name), ("node", Value.ofText? c.node),
    ("messages", .list (c.messages.map Message.encode)), ("variables", .object c.bindings.shown)]

/-- What a conversation tells the outside. -/
inductive Effect where
  /-- A message was said at a step. -/
  | said (step : String) (message : Message)
  /-- The state changed. -/
  | moved (state : RunState)
  /-- A step ended. -/
  | recorded (step : Step) (result : StepResult)
  deriving DecidableEq, Repr

/-- What an observer does when told of the last of the given effects. It may end with a fault of its
own. -/
abbrev Observer := List Effect → Except Fault Unit

/-- What happens to the result of a step: nothing keeps it, it is kept, or keeping it fails. -/
inductive Recorder where
  | absent
  | keeping
  | failing (reason : String)
  deriving DecidableEq, Repr

/-- What is asked of a conversation. -/
inductive Request where
  /-- Start at the trigger. -/
  | start
  /-- Deliver a reply. -/
  | resume (input : Value)
  /-- Say something without going on. -/
  | note (content : Value)
  deriving DecidableEq, Repr

end Workflow
