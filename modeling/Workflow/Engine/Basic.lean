import Workflow.Audit.Trail
import Workflow.Channel
import Workflow.Conversation.Table
import Workflow.Conversation.Turn
import Workflow.Graph.Cache
import Workflow.Handler.Executor
import Workflow.Identifier
import Workflow.Settings
import Workflow.Store.Basic

/-!
# The engine

An engine holds everything a running service needs: its settings, the store, the handlers, the
graphs and conversations at hand, and what has been sent and told so far. Work on an engine is an
operation on this state. Handlers that do not come with the library are given as a function, and
they may work on the engine themselves while they run.
-/

namespace Workflow

/-- A routine that was passed over because it was not active when its trigger fired. -/
structure Skip where
  routine : String
  name : String
  status : RoutineStatus
  trigger : String
  deriving DecidableEq, Repr

namespace Skip

/-- What is said about a routine that was passed over. -/
def message (skip : Skip) : String :=
  "Routine '" ++ skip.name ++ "' is " ++ skip.status.name ++ "; trigger '" ++ skip.trigger ++
    "' ignored."

end Skip

/-- An engine. Handlers that do not come with the library are of type `X`. -/
structure Engine (X : Type) where
  settings : Settings
  store : Store
  registry : Registry X := Registry.standard
  graphs : GraphCache
  table : ConversationTable
  /-- The latest audit entries, those that the store did not take included. -/
  trail : Trail := {}
  /-- The messages sent so far. -/
  sent : List Mail := []
  /-- What observers were told so far. -/
  notices : List Notice := []
  /-- What comes of telling observers something. It may be a fault of their own. -/
  observer : Notice → Except Fault Unit := fun _ => .ok ()
  /-- The routines passed over last. -/
  skips : List Skip := []
  /-- How many routines were passed over. -/
  skipped : Nat := 0
  /-- The routines whose audit entries the store does not take, each with the reason. -/
  unwritable : Dict String := []
  /-- How many things were made so far. -/
  made : Nat := 0

namespace Engine

variable {X : Type}

/-- Work on an engine. -/
abbrev Work (X α : Type) := Operation (Engine X) α

/-- A new engine on a store. -/
def ofSettings (settings : Settings) (store : Store) : Engine X :=
  { settings, store, graphs := { limit := settings.cacheLimit }
    table := { limit := settings.finishedKept } }

/-- How many of the routines that were passed over are remembered. -/
def recentSkips : Nat := 100

/-- The rules a routine has to keep. -/
def rules (settings : Settings) : Graph.Rules :=
  { strict := settings.strictDefaultEdges, maxSteps := some settings.maxGraphSteps }

/-- The rules a template has to keep. The number of its steps is not limited. -/
def templateRules (settings : Settings) : Graph.Rules :=
  { strict := settings.strictDefaultEdges, maxSteps := none }

/-- Count one more thing as made. -/
def count : Work X Nat := do
  let engine ← get
  set { engine with made := engine.made + 1 }
  return engine.made

/-- A new identifier. -/
def fresh : Work X String := Identifier.ofNumber <$> count

/-- The present moment, later than all before it. -/
def now : Work X Moment := do return ⟨(← count : Nat), some 0⟩

/-- Work on the store of the engine. -/
def stored {α : Type} (work : Store.Work α) : Work X α :=
  Operation.within Engine.store (fun store engine => { engine with store }) work

/-- Tell the observers. A fault of theirs ends nothing. -/
def notify (notice : Notice) : Work X Unit := do
  modify fun engine => { engine with notices := engine.notices ++ [notice] }
  let engine ← get
  let _ ← (Operation.ofExcept (engine.observer notice)).attempt

/-- Keep a message and give a receipt for it. -/
def send (mail : Mail) : Work X Receipt := do
  modify fun engine => { engine with sent := engine.sent ++ [mail] }
  return { message := Identifier.ofKept (← count), provider := ChannelKind.simulated.name }

/-- Check a definition by the rules for routines. -/
def check (d : Definition) : Work X Graph := do
  Operation.ofExcept (Graph.ofDefinition (rules (← get).settings) d)

/-- Keep the result of a step in the audit trail and in the store. -/
def audit (routine execution : String) (step : Step) (result : StepResult) : Work X Unit := do
  let entry := Entry.ofResult (← fresh) routine execution step result
  modify fun engine => { engine with trail := engine.trail.append entry }
  match Dict.get? (← get).unwritable routine with
  | some reason => Operation.fail (.failedWrite reason)
  | none => stored (Store.appendEntry entry)

/-- An engine may have no handlers of anybody's own. -/
def performNone : Empty → Context → Fields → Activity (Engine Empty) Returned := nofun

/-- What the engine offers the steps it carries out. -/
def surroundings (perform : X → Context → Fields → Activity (Engine X) Returned) :
    Surroundings (Engine X) X :=
  { registry := Engine.registry, send, perform, notify }

end Engine

end Workflow
