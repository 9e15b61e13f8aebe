import Workflow.Dispatch.Trigger
import Workflow.Engine.Basic

/-!
# Dispatch

An event is passed to every routine of a scope. A routine whose trigger fires carries out its first
step, or all its steps up to one that waits, when the event is to be followed. Routines that are not
active are passed over and counted. Whatever goes wrong in one routine ends as a failed result of
that routine, and the others go on.

A fault without words is the one thing that cannot be told of a routine: a keyword that has no text
ends the call before anything is carried out, and a routine that ends with a fault without words ends
it when all routines have ended.

The routines of one dispatch go side by side. They give way to each other only where a handler of
the user's own does, as one does that passes on an event of its own.

What makes a routine wait is left out: that only so many steps are carried out at a time, and that a
routine works on one event at a time. Waiting decides when a step is carried out and not what comes
of it, unless a handler waits for an event that comes back to its own routine.
-/

namespace Workflow.Engine

variable {X : Type}

/-- The graph of a routine: the one that is kept for its version, or else its definition, checked.
-/
def graphOf (routine : Routine) : Work X Graph := do
  let engine ← get
  match engine.graphs.find? routine.id routine.version with
  | some entry =>
    set { engine with graphs := engine.graphs.touch routine.id routine.version }
    pure entry.graph
  | none =>
    let graph ← check routine.definition
    modify fun engine =>
      { engine with graphs := engine.graphs.keep ⟨routine.id, routine.version, graph⟩ }
    pure graph

/-- What an event means for a routine. -/
inductive Verdict where
  /-- The definition of the routine is not a graph. -/
  | broken
  /-- The trigger has a keyword without a text. -/
  | wordless
  /-- The trigger does not fire. -/
  | silent
  /-- The trigger fires and the routine is not active. -/
  | inactive
  /-- The trigger fires and there is no step after it. -/
  | stepless
  /-- The trigger fires, and this is the step to carry out. -/
  | due (step : Step)
  deriving DecidableEq, Repr

/-- What an event means for a routine with a graph. -/
def verdictOn (graph : Graph) (status : RoutineStatus) (key : String) (payload : Fields) :
    Verdict :=
  if graph.trigger.wordless (some key) then .wordless
  else if !graph.trigger.fires (some key) payload then .silent
  else if status ≠ .active then .inactive
  else
    match graph.firstActionable? with
    | some step => .due step
    | none => .stepless

/-- What an event means for a routine. -/
def verdict (key : String) (payload : Fields) (routine : Routine) : Work X Verdict := do
  match ← (graphOf routine).attempt with
  | .ok graph => pure (verdictOn graph routine.status key payload)
  | .error _ => pure .broken

/-- Note that a routine was passed over. -/
def skip (routine : Routine) (key : String) : Work X Unit := do
  let skip : Skip := ⟨routine.id, routine.name, routine.status, key⟩
  modify fun engine =>
    let skips := engine.skips ++ [skip]
    { engine with skips := skips.drop (skips.length - recentSkips), skipped := engine.skipped + 1 }
  notify (.dispatchSkipped routine.id key routine.status)

/-- What an event brings about: the steps to carry out, and how many routines are passed over. -/
structure Matches where
  intents : List Intent := []
  skipped : Nat := 0
  deriving DecidableEq, Repr

/-- Find out what an event means for one more routine. -/
def matchRoutine (key : String) (payload : Fields) (scope : String) (found : Matches)
    (routine : Routine) : Work X Matches := do
  match ← verdict key payload routine with
  | .broken | .silent | .stepless => pure found
  | .wordless => Operation.fail (.oversizeNumber .written)
  | .inactive =>
    skip routine key
    pure { found with skipped := found.skipped + 1 }
  | .due step =>
    let intent : Intent :=
      { routine := routine.id, execution := ← fresh, step
        context := { routine := routine.id, scope, payload } }
    pure { found with intents := found.intents ++ [intent] }

/-- Find out what an event means for the routines of a scope. -/
def matchAll (key : String) (payload : Fields) (scope : String) : Work X Matches := do
  let listed ← stored (Store.listRoutines scope none)
  listed.foldlM (matchRoutine key payload scope) {}

/-- Keep the result of a step. A store that does not take it stops nothing. -/
def auditResult (intent : Intent) (result : StepResult) : Work X Unit := do
  let _ ← (audit intent.routine intent.execution intent.step result).attempt

variable (perform : X → Context → Fields → Activity (Engine X) Returned)

/-- Carry out a step whatever it is, and keep its result. -/
def runFirst (intent : Intent) : Activity (Engine X) StepResult := do
  let result ← (surroundings perform).execute intent
  .ofOperation (auditResult intent result)
  pure result

/-- Carry out a step unless it waits, and keep its result. -/
def runStep (intent : Intent) : Activity (Engine X) StepResult := do
  if intent.step.interactive then
    let result := StepResult.waiting intent.step
    .ofOperation (auditResult intent result)
    pure result
  else runFirst perform intent

/-- The memory after a step: what a step with a key gave out is kept under the key. -/
def remember (memory : Fields) (step : Step) (result : StepResult) : Fields :=
  match step.key, result.output with
  | some key, some output => if key = "" then memory else Dict.set memory key (.object output)
  | _, _ => memory

/-- What comes after a step, if anything does. The routine is looked up anew, because it may have
changed while the step was carried out. -/
def nextIntent (intent : Intent) (result : StepResult) : Work X (Option Intent) := do
  if !result.continues then pure none
  else
    match ← stored (Store.routine? intent.routine) with
    | none => pure none
    | some routine =>
      let graph ← graphOf routine
      let following ← Operation.ofExcept
        (graph.ask intent.step.id (graph.stepAfter? intent.step.id))
      pure (following.map fun step =>
        let memory := remember intent.context.memory intent.step result
        { intent with step, context := { intent.context with memory } })

/-- How many steps a chain may take when handlers change its routine while it runs. -/
def chainAllowance : Nat := 1000000

/-- The number of steps of a routine, as far as it is known. -/
def stepCount (id : String) : Work X Nat := do
  match ← (stored (Store.routine? id)).attempt with
  | .ok (some routine) => return routine.definition.steps.length
  | _ => return 0

/-- Carry out steps in a row until one fails or waits or none is left. -/
def runSteps : Nat → Intent → Activity (Engine X) (List StepResult)
  | 0, _ => .ended (.error .exhausted)
  | fuel + 1, intent => do
    let result ← runStep perform intent
    match ← Activity.ofOperation (nextIntent intent result) with
    | some next => return result :: (← runSteps fuel next)
    | none => return [result]

/-- Carry out steps in a row. Through a routine that stays as it is a chain passes no step twice, so
the number of its steps is enough; the allowance is for routines that change on the way. -/
def runChain (intent : Intent) : Activity (Engine X) (List StepResult) := do
  let count ← Activity.ofOperation (stepCount intent.routine)
  runSteps perform (count + chainAllowance) intent

/-- Carry out all intents, side by side. Whoever asks for this gives way before and after. -/
def settled {α : Type} (run : Intent → Activity (Engine X) α) (intents : List Intent) :
    Activity (Engine X) (List (Except Fault α)) :=
  if intents.isEmpty then pure []
  else do
    Activity.giveWay
    let outcomes ← Activity.together (intents.map fun intent => (run intent).attempt)
    Activity.giveWay
    pure outcomes

/-- An outcome, or what is told in its place when an intent ended with a fault. -/
def recovered {α : Type} (crashed : Intent → Fault → Except Fault α) (intent : Intent) :
    Except Fault α → Except Fault α
  | .ok outcome => .ok outcome
  | .error fault => crashed intent fault

/-- Carry out all intents, side by side. A fault becomes the outcome of its intent alone, if there is
something to tell in its place. -/
def isolated {α : Type} (run : Intent → Activity (Engine X) α)
    (crashed : Intent → Fault → Except Fault α) (intents : List Intent) :
    Activity (Engine X) (List α) := do
  let outcomes ← settled run intents
  .ended ((intents.zipWith (recovered crashed) outcomes).mapM fun outcome => outcome)

/-- The result of an intent that could not be carried out. -/
def crashed (intent : Intent) (fault : Fault) : Except Fault StepResult := do
  .ok (.failed intent.step (← fault.wording))

/-- Carry out the first step of each intent. -/
def runAll (intents : List Intent) : Activity (Engine X) (List StepResult) :=
  isolated (runFirst perform) crashed intents

/-- The results of a chain that could not be carried out. -/
def crashedChain (intent : Intent) (fault : Fault) : Except Fault (List StepResult) := do
  return [← crashed intent fault]

/-- Carry out the chain of each intent. The results of each routine come with its id. -/
def runChains (intents : List Intent) :
    Activity (Engine X) (List (String × List StepResult)) := do
  let chains ← isolated (runChain perform) crashedChain intents
  pure ((intents.map Intent.routine).zip chains)

/-- Pass an event to a scope. The answer has the results, and how many routines were passed over. -/
def dispatchCounted (key : String) (payload : Fields) (scope : String) (follow : Bool) :
    Activity (Engine X) (List StepResult × Nat) := do
  let found ← Activity.ofOperation (matchAll key payload scope)
  if follow then
    let chains ← runChains perform found.intents
    pure (chains.flatMap (·.2), found.skipped)
  else
    let results ← runAll perform found.intents
    pure (results, found.skipped)

/-- Pass an event to a scope: one result for each routine that carried out its first step. -/
def dispatch (key : String) (payload : Fields) (scope : String) :
    Activity (Engine X) (List StepResult) := do
  return (← dispatchCounted perform key payload scope false).1

/-- Pass an inbound message to a scope. -/
def dispatchMessage (text scope : String) (payload : Fields) :
    Activity (Engine X) (List StepResult) :=
  dispatch perform messageKey (Dict.set payload "message" (.text text)) scope

/-- Pass an event to a scope and follow it in each routine. -/
def dispatchChains (key : String) (payload : Fields) (scope : String) :
    Activity (Engine X) (List (String × List StepResult)) := do
  let found ← Activity.ofOperation (matchAll key payload scope)
  runChains perform found.intents

end Workflow.Engine
