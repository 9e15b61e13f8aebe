import Workflow.Engine.Lifecycle

/-!
# Conversations of an engine

A conversation starts on a routine that is active and keeps the graph the routine had then. Answers
for a routine that is not active are held back, unless the settings let them pass.
-/

namespace Workflow.Engine

variable {X : Type}

/-- Check that an answer may be delivered to a conversation of a routine. -/
def gate (id : String) : Work X Unit := do
  if (← get).settings.resumePolicy = .block then
    match ← stored (Store.routine? id) with
    | none => Operation.fail (.noRoutine id)
    | some routine =>
      if routine.status ≠ .active then
        Operation.fail (.heldInput id routine.name routine.status)

/-- What becomes of the results of a conversation of a routine. -/
def recorderFor (engine : Engine X) (routine : String) : Recorder :=
  match Dict.get? engine.unwritable routine with
  | some reason => .failing reason
  | none => .keeping

/-- Pass on what a conversation tells. That the store takes no results ends the turn itself, so it
is no fault here. -/
def passOn (c : Conversation) (effect : Effect) : Work X Unit :=
  match effect with
  | .said step message => notify (.said c.routine c.id step message.role message.content)
  | .moved _ => pure ()
  | .recorded step result => do
    let _ ← (audit c.routine c.id step result).attempt

/-- Carry out a request to a conversation and pass on what it tells. -/
def carryOut (c : Conversation) (request : Request) : Work X Outcome := do
  let outcome := c.handle (recorderFor (← get) c.routine) request
  let _ ← Operation.each (passOn outcome.conversation) outcome.effects
  pure outcome

/-- Change the table of conversations. -/
def changeTable (f : ConversationTable → ConversationTable) : Work X Unit :=
  modify fun engine => { engine with table := f engine.table }

/-- Start a conversation. Its variables are the configuration of the routine with the given ones set
over it. -/
def start (id : String) (bindings : Fields) : Work X Conversation := do
  let found ← routine id none
  if found.status ≠ .active then
    Operation.fail (.refusedStart found.id found.name found.status)
  else
    let graph ← check found.definition
    let idle : Conversation :=
      { graph, id := ← fresh, routine := found.id
        bindings := .ofFields (Dict.merge found.configuration bindings) }
    let outcome ← carryOut idle .start
    let _ ← Operation.ofExcept outcome.response
    changeTable fun table => table.track outcome.conversation
    pure outcome.conversation

/-- The conversation with an id, which must be at hand. -/
def conversation (id : String) : Work X Conversation := do
  match (← get).table.find? id with
  | some c => pure c
  | none => Operation.fail (.noConversation id)

/-- Deliver an answer to a conversation. -/
def resume (id : String) (input : Value) : Work X Conversation := do
  let c ← conversation id
  gate c.routine
  let outcome ← carryOut c (.resume input)
  match outcome.response with
  | .ok _ =>
    changeTable fun table => table.track outcome.conversation
    pure outcome.conversation
  | .error fault =>
    changeTable fun table => table.put outcome.conversation
    Operation.fail fault

end Workflow.Engine
