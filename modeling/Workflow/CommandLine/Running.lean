import Workflow.CommandLine.Report
import Workflow.Engine.Catalog
import Workflow.Engine.Conversations
import Workflow.Engine.Dispatch

/-!
# Commands that run routines

A routine is made from a template in an engine of its own, which keeps everything in memory and is
gone afterwards. Either one event is passed to the routine, or a conversation is held with it. In a
conversation the replies given in advance come first, and then lines are asked for as long as it
waits.
-/

namespace Workflow.CommandLine

/-- The scope of the routines made here. -/
def scope : String := "cli"

/-- An engine in memory with the templates that come with the library. -/
def engineInMemory (settings : Settings) : Engine Empty :=
  ((Engine.seed : Engine.Work Empty _).perform (Engine.ofSettings settings Store.inMemory)).2

/-- An engine, and what was printed while it worked. -/
structure Session where
  engine : Engine Empty
  printed : List Printed := []

namespace Session

/-- Work on the engine of a session. -/
def engineWork {α : Type} (work : Engine.Work Empty α) : Operation Session α :=
  Operation.within Session.engine (fun engine session => { session with engine }) work

/-- Print in a session. -/
def print {α : Type} (work : Printing α) : Operation Session α :=
  Operation.within Session.printed (fun printed session => { session with printed }) work

/-- Work in a session on a new engine, as work that prints. -/
def onNewEngine {α : Type} (settings : Settings) (work : Operation Session α) : Printing α :=
  Operation.ofFunction fun printed =>
    let (outcome, session) := work.perform { engine := engineInMemory settings, printed }
    (outcome, session.printed)

end Session

/-- Make a routine from the template with a key. -/
def makeRoutine (template : String) (configuration : Fields) : Engine.Work Empty Routine := do
  Engine.instantiate (← Engine.template template) scope configuration "" "system"

/-- The style of a status. -/
def styleOf : ResultStatus → String
  | .completed => "green"
  | .failed => "red"
  | .suspended => "yellow"
  | .running => "blue"

/-- The result of a step as a row. -/
def resultRow (position : Nat) (result : StepResult) : List String :=
  let style := styleOf result.status
  [countText (position + 1), "[" ++ style ++ "]" ++ result.status.name ++ "[/" ++ style ++ "]",
    Markup.escape result.narrative]

/-- The results of the steps that an event sets off in a routine. -/
def resultsOf (routine : Routine) (trigger : String) (payload : Fields) (follow : Bool) :
    Activity (Engine Empty) (List StepResult) := do
  if follow then
    let chains ← Engine.dispatchChains Engine.performNone trigger payload scope
    return (Dict.get? chains routine.id).getD []
  else Engine.dispatch Engine.performNone trigger payload scope

/-- Print the results of a dispatch. -/
def printResults (routine : Routine) (channel : ChannelKind) (results : List StepResult) :
    Printing Nat := do
  Printing.table
    { title := "[bold]" ++ routine.name ++ "[/bold] [dim](channel: " ++ channel.name ++ ")[/dim]"
      columns :=
        [⟨"#", some 3, false⟩, ⟨"Status", some 10, false⟩, ⟨"Narrative", none, false⟩]
      rows := results.zipIdx.map fun (result, position) => resultRow position result }
  pure (if results.all StepResult.success then 0 else 1)

/-- Pass an event to a routine made from a template. -/
def dispatch (settings : Settings) (template trigger : String) (payload configuration : Fields)
    (follow : Bool) : Printing Nat :=
  Printing.refused <| Session.onNewEngine settings do
    let routine ← Session.engineWork (makeRoutine template configuration)
    let results ← Session.engineWork fun engine =>
      (resultsOf routine trigger payload follow).run engine
    if results.isEmpty then
      Session.print (Printing.line
        ("[yellow]Trigger '" ++ trigger ++ "' did not match '" ++ template ++ "'.[/yellow]"))
      pure 0
    else Session.print (printResults routine (ChannelKind.ofSettings settings) results)

/-- The line for something said. -/
def messageLine (message : Message) : String :=
  let content := Markup.escape message.content
  match message.role with
  | .system => "[dim]  · " ++ content ++ "[/dim]"
  | .assistant => "[bold cyan]bot[/bold cyan]  " ++ content
  | .user => "[bold green]you[/bold green]  " ++ content

/-- The line for a button on offer. -/
def buttonLine (button : Fields) : String :=
  let id := (button.read "id").display
  "       [cyan]" ++ Markup.escape ("[" ++ id ++ "]") ++ "[/cyan] " ++
    Markup.escape (button.read "title").display

/-- The buttons offered with a message. -/
def buttonsOf (message : Message) : List Fields :=
  let metadata := message.metadata.getD []
  if metadata.read "type" = .text "buttons" then
    match metadata.read "buttons" with
    | .list buttons => buttons.filterMap fun button =>
      match button with
      | .object fields => some fields
      | _ => none
    | _ => []
  else []

/-- Print what was said. -/
def printMessage (message : Message) : Printing Unit := do
  Printing.line (messageLine message)
  let _ ← Operation.each (fun button => Printing.line (buttonLine button)) (buttonsOf message)

/-- Print what was said in a conversation after its first messages. -/
def printAfter (count : Nat) (c : Conversation) : Printing Unit := do
  let _ ← Operation.each printMessage (c.messages.drop count)

/-- A reply: a number sign comes before the id of a button, and anything else is typed. -/
def replyOf (text : String) : Reply :=
  match text.toList with
  | '#' :: id => { choice := some (String.ofList id) }
  | _ => { content := text }

/-- A source of replies. -/
inductive Line where
  /-- A reply given in advance. -/
  | scripted (text : String)
  /-- A line that is asked for. -/
  | typed (text : String)
  deriving DecidableEq, Repr

/-- Give replies as long as the conversation waits. The answer is its state, or nothing when it
still waits and no line is left. -/
def converse (c : Conversation) : List Line → Operation Session (Option RunState)
  | [] => do
    if c.state = .suspended then
      Session.print (Printing.plain "you:Aborted.")
      pure none
    else pure (some c.state)
  | line :: rest => do
    if c.state ≠ .suspended then pure (some c.state)
    else
      let text ← match line with
        | .scripted text => pure text
        | .typed text => do
          Session.print (Printing.plain ("you: " ++ text))
          pure text
      if line = .typed "" then converse c rest
      else
        let next ← Session.engineWork (Engine.resume c.id (replyOf text).encode)
        Session.print (printAfter c.messages.length next)
        converse next rest

/-- Hold a conversation with a routine made from a template. -/
def simulate (settings : Settings) (template : String) (bindings : Fields)
    (replies typed : List String) : Printing Nat :=
  Printing.refused <| Session.onNewEngine settings do
    let routine ← Session.engineWork (makeRoutine template bindings)
    let c ← Session.engineWork (Engine.start routine.id bindings)
    Session.print (printAfter 0 c)
    match ← converse c (replies.map Line.scripted ++ typed.map Line.typed) with
    | none => pure 1
    | some state =>
      Session.print (Printing.line ("[bold]Conversation " ++ state.name ++ ".[/bold]"))
      pure 0

end Workflow.CommandLine
