import Workflow.Conversation.Basic
import Workflow.Operation
import Workflow.Reply.Choice
import Workflow.Reply.Validation

/-!
# Turns

A turn is what happens between one request and the moment the conversation waits again or ends. A
fault in the middle of a turn leaves the conversation as it was at that moment.

Going on without waiting cannot go around in a graph, so a turn passes each step at most once. The
number of steps is therefore enough fuel for it.
-/

namespace Workflow

/-- A conversation in the middle of a turn, with the effects of the turn so far, in order. -/
structure Turn where
  conversation : Conversation
  effects : List Effect := []
  observer : Observer := fun _ => .ok ()

namespace Turn

variable {α : Type}

/-- Add an effect to those of the turn. -/
def add (effect : Effect) : Operation Turn Unit :=
  modify fun turn => { turn with effects := turn.effects ++ [effect] }

/-- Tell the observer of an effect. A fault of the observer ends nothing. -/
def tell (effect : Effect) : Operation Turn Unit := do
  add effect
  let turn ← get
  let _ ← (Operation.ofExcept (turn.observer turn.effects)).attempt

/-- The conversation as it stands. -/
def current : Operation Turn Conversation := return (← get).conversation

/-- Change the conversation. -/
def change (f : Conversation → Conversation) : Operation Turn Unit :=
  modify fun turn => { turn with conversation := f turn.conversation }

/-- Say something. Only a text can be said. -/
def sayWith (role : Role) (content : Value) (metadata : Option Fields) : Operation Turn Message :=
  match content with
  | .text content => do
    let message : Message := { role, content, metadata }
    change fun c => { c with messages := c.messages ++ [message] }
    tell (.said ((← current).node.getD "") message)
    pure message
  | _ =>
    Operation.fail
      (.malformed "ChatMessage" (.object [("content", content)]) [⟨[.field "content"], .notText⟩])

/-- Say something without metadata. -/
def say (role : Role) (content : Value) : Operation Turn Unit := do
  let _ ← sayWith role content none

/-- Say a sentence of the system. -/
def announce (sentence : String) : Operation Turn Unit := say .system (.text sentence)

/-- Say a sentence of the system that names a value. -/
def announceWith (sentence : String → String) (named : Value) : Operation Turn Unit := do
  announce (sentence (← Operation.ofExcept named.wording))

/-- Go into a state. -/
def moveTo (state : RunState) : Operation Turn Unit := do
  if (← current).state ≠ state then
    change fun c => { c with state }
    tell (.moved state)

/-- A value of the configuration with its placeholders filled, when it is a text. -/
def filled (v : Value) : Operation Turn Value := do
  Operation.ofExcept (interpolateText (← current).bindings.context v)

/-- Keep the result of a step. -/
def record (recorder : Recorder) (step : Step) (narrative : String) (suspended : Bool) :
    Operation Turn Unit := do
  unless (← current).routine = "" do
    let result : StepResult :=
      { success := true, status := if suspended then .suspended else .completed,
        narrative :=
          if narrative ≠ "" then narrative else "Processed " ++ step.displayName ++ "." }
    match recorder with
    | .absent => pure ()
    | .keeping => add (.recorded step result)
    | .failing reason =>
      add (.recorded step result)
      Operation.fail (.failedWrite reason)

/-- A button as it is shown: its fields, with the placeholders of its title filled. -/
def shownButton (button : Value) : Operation Turn Value :=
  match button with
  | .object fields => do
    let title ← Operation.ofExcept ((Dict.get? fields "title").getD (.text "")).wording
    let shown ← filled (.text title)
    pure (.object (Dict.set fields "title" shown))
  | v => Operation.fail (.misuse (.notFields v.kindName))

/-- Offer buttons. -/
def offerButtons (step : Step) : Operation Turn Unit := do
  let body ← filled ((step.setting "body").orElse (.text step.label))
  let listed := step.setting "buttons"
  let buttons ← if listed.truthy then Operation.ofExcept listed.iterate else pure []
  let shown ← Operation.each shownButton buttons
  let _ ← sayWith .assistant body (some [("type", .text "buttons"), ("buttons", .list shown)])

/-- What an action step does: the action its configuration names, or else its key. -/
def actionType (step : Step) : Value :=
  (step.setting "action_type").orElse ((Value.ofText? step.key).orElse (.text "unknown"))

/-- Set a variable from the configuration of a step. -/
def setVariable (step : Step) : Operation Turn Unit := do
  let name := step.setting "variable"
  let value ← filled (step.setting "value")
  let bindings ← Operation.ofExcept ((← current).bindings.set name value)
  change fun c => { c with bindings }
  announceWith ("Variable set: " ++ ·) name

/-- Carry out an action step. -/
def act (step : Step) : Operation Turn Unit := do
  let action := actionType step
  if action = .text "send_message" then
    say .assistant (← filled ((Dict.get? step.config "message").getD (.text "")))
  else if action = .text "set_variable" ∧ (step.setting "variable").truthy then
    setVariable step
  else announceWith ("Action: " ++ ·) action

/-- Carry out a step. The answer is whether the conversation has to wait. -/
def process (step : Step) : Operation Turn Bool := do
  match step.kind with
  | .trigger => announce "Trigger activated."
  | .buttons => offerButtons step
  | .waitInput =>
    let timeout := (step.setting "timeout").orElse (.text "1h")
    announceWith ("Waiting for input (" ++ · ++ ")...") timeout
  | .action => act step
  | .tag =>
    let tag ← filled ((step.setting "tag_name").orElse (.text step.label))
    let verb := if step.setting "action" = .text "remove" then "removed" else "added"
    announceWith ("Tag " ++ verb ++ ": " ++ ·) tag
  | .stage =>
    let stage ← filled ((step.setting "stage").orElse
      ((step.setting "status").orElse (.text step.label)))
    announceWith ("Stage changed to: " ++ ·) stage
  | .wait | .rule | .unknown => announce ("Processed node: " ++ step.type)
  pure step.interactive

/-- The texts of messages with a space between them. -/
def narrativeOf (messages : List Message) : String :=
  " ".intercalate (messages.map Message.content)

/-- Reach a step, carry it out and keep its result. The answer is whether the conversation has to
wait. -/
def visit (recorder : Recorder) (step : Step) : Operation Turn Bool := do
  change fun c => { c with node := some step.id }
  let mark := (← current).messages.length
  let suspend ← process step
  let said := (← current).messages.drop mark
  record recorder step (narrativeOf said) suspend
  pure suspend

/-- Carry out steps from one on until the conversation waits or no step is left. -/
def walk (recorder : Recorder) : Nat → Step → Operation Turn Unit
  | 0, _ => Operation.fail .exhausted
  | fuel + 1, step => do
    if ← visit recorder step then moveTo .suspended
    else
      match (← current).graph.stepAfter? step.id with
      | some next => walk recorder fuel next
      | none => moveTo .completed

/-- Carry out steps with enough fuel for the graph. -/
def walkFrom (recorder : Recorder) (step : Step) : Operation Turn Unit := do
  walk recorder (← current).graph.size step

/-- Start at the trigger and go onward from there. -/
def start (onward : Step → Operation Turn Unit) : Operation Turn RunState := do
  let c ← current
  if c.state ≠ .idle then Operation.fail (.alreadyStarted c.id c.state)
  else
    moveTo .running
    onward c.graph.trigger
    return (← current).state

/-- What is said when a reply leads nowhere. -/
def noPathNotice : String := "Flow ended (no path found)."

section Resume

variable (recorder : Recorder) (onward : Step → Operation Turn Unit)

/-- Follow the edge a choice selects and go onward from its end. Without an edge the conversation is
over, if what is missing can be put into words. -/
def follow (step : Step) (choice : Value) : Operation Turn Unit := do
  match (← current).graph.resumeEdge step choice with
  | .ok edge =>
    let target ← Operation.ofExcept ((← current).graph.node edge.target)
    onward target
  | .error (.noPath _ _) =>
    announce noPathNotice
    record recorder step noPathNotice false
    moveTo .completed
  | .error fault => Operation.fail fault

/-- Keep a typed reply under the name the step gives for it. -/
def storeReply (step : Step) (content : String) : Operation Turn Unit := do
  let name := step.setting "store_as"
  if name.truthy then
    let bindings ← Operation.ofExcept ((← current).bindings.set name (.text content))
    change fun c => { c with bindings }

/-- Take in a reply that picks no choice. The answer is whether the step accepts it. -/
def acceptTyped (step : Step) (content : String) : Operation Turn Bool := do
  if ← Operation.ofExcept (Reply.fits content (step.setting "validation")) then
    storeReply step content
    pure true
  else
    say .system (← Operation.ofExcept step.refusal)
    moveTo .suspended
    pure false

/-- Deliver a reply to the step that waits for it. -/
def deliver (step : Step) (reply : Reply) : Operation Turn Unit := do
  moveTo .running
  say .user (.text reply.shown)
  let choice ← Operation.ofExcept (reply.choiceAt step)
  let accepted ←
    if step.kind = .waitInput ∧ choice = .null then acceptTyped step reply.content
    else pure true
  if accepted then follow recorder onward step choice

/-- Deliver a reply to a conversation that waits. -/
def resume (input : Value) : Operation Turn RunState := do
  let c ← current
  if c.state ≠ .suspended then Operation.fail (.notSuspended c.id c.state)
  else
    let reply ← Operation.ofExcept (Reply.ofValue input)
    let step ← Operation.ofExcept (c.graph.node (c.node.getD ""))
    deliver recorder onward step reply
    return (← current).state

end Resume

/-- Say something without going on. -/
def note (content : Value) : Operation Turn Message := sayWith .system content none

end Turn

/-- What a request gives back. -/
inductive Response where
  | state (state : RunState)
  | message (message : Message)
  deriving DecidableEq, Repr

/-- How a request to a conversation turned out. -/
structure Outcome where
  response : Except Fault Response
  conversation : Conversation
  /-- What was told to the outside during the turn. -/
  effects : List Effect

namespace Conversation

/-- The turn a request brings about, with a way to go onward from a step. -/
def turn (recorder : Recorder) (onward : Step → Operation Turn Unit) :
    Request → Operation Turn Response
  | .start => Response.state <$> Turn.start onward
  | .resume input => Response.state <$> Turn.resume recorder onward input
  | .note content => Response.message <$> Turn.note content

/-- Carry out a request. -/
def handle (recorder : Recorder) (c : Conversation) (request : Request)
    (observer : Observer := fun _ => .ok ()) : Outcome :=
  let onward := Turn.walkFrom recorder
  let (response, turn) := (turn recorder onward request).perform { conversation := c, observer }
  ⟨response, turn.conversation, turn.effects⟩

end Conversation

end Workflow
