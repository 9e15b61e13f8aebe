import Workflow.Shape

/-!
# Steps, edges and definitions

A routine is described by its steps and the edges between them. The type of a step is kept as the
text it was written with, so a step of a kind this library does not know survives unchanged; such a
step is passed over when the routine runs.
-/

namespace Workflow

/-- What a step does when it is reached. -/
inductive StepKind where
  | trigger
  | action
  | wait
  | buttons
  | waitInput
  | tag
  | stage
  | rule
  | unknown
  deriving DecidableEq, Repr

namespace StepKind

/-- The name of a kind. -/
def name : StepKind → String
  | .trigger => "trigger"
  | .action => "action"
  | .wait => "wait"
  | .buttons => "buttons"
  | .waitInput => "wait_input"
  | .tag => "tag"
  | .stage => "stage"
  | .rule => "rule"
  | .unknown => "unknown"

/-- The kinds that have a name of their own. -/
def known : List StepKind :=
  [.trigger, .action, .wait, .buttons, .waitInput, .tag, .stage, .rule]

/-- The kind with a name; any other name is an unknown kind. -/
def ofName (s : String) : StepKind := (known.find? fun kind => kind.name = s).getD .unknown

/-- The kinds that hand control to the person on the other side. -/
def interactive : StepKind → Bool
  | .buttons | .waitInput => true
  | _ => false

@[simp] theorem ofName_name (kind : StepKind) : ofName kind.name = kind := by
  cases kind <;> decide

end StepKind

/-- One step of a routine. -/
structure Step where
  id : String
  type : String
  /-- The trigger a trigger step listens to, or the action an action step asks for. -/
  key : Option String := none
  label : String := ""
  config : Fields := []
  deriving DecidableEq, Repr

namespace Step

/-- The kind of a step. -/
def kind (step : Step) : StepKind := .ofName step.type

/-- The step starts the routine. -/
def isTrigger (step : Step) : Bool := step.kind = .trigger

/-- The step waits for an answer. -/
def interactive (step : Step) : Bool := step.kind.interactive

/-- The name people see: the label, else the key, else the id. -/
def displayName (step : Step) : String :=
  if step.label ≠ "" then step.label
  else
    match step.key with
    | some key => if key ≠ "" then key else step.id
    | none => step.id

/-- A part of the configuration, read as nothing when it is missing. -/
def setting (step : Step) (name : String) : Value := Fields.read step.config name

/-- Read a step. -/
def decode : Decoder Step :=
  Shape.record "Step" fun fields =>
    Step.mk <$> Shape.required "id" Shape.text fields
      <*> Shape.required "type" Shape.text fields
      <*> Shape.withDefault "key" (Shape.optional Shape.text) none fields
      <*> Shape.withDefault "label" Shape.text "" fields
      <*> Shape.withDefault "config" Shape.object [] fields

/-- A step as a value. -/
def encode (step : Step) : Value :=
  .object [("id", .text step.id), ("type", .text step.type), ("key", Value.ofText? step.key),
    ("label", .text step.label), ("config", .object step.config)]

end Step

/-- A connection from one step to another. -/
structure Edge where
  source : String
  target : String
  /-- The choice that selects this edge. -/
  handle : Option String := none
  deriving DecidableEq, Repr

namespace Edge

/-- The handle that stands for going on without a choice. -/
def continueHandle : String := "continue"

/-- The edge is followed without a choice. -/
def isDefault (edge : Edge) : Bool :=
  match edge.handle with
  | none => true
  | some handle => handle = "" || handle = continueHandle

/-- Read an edge. -/
def decode : Decoder Edge :=
  Shape.record "Edge" fun fields =>
    Edge.mk <$> Shape.required "source_step_id" Shape.text fields
      <*> Shape.required "target_step_id" Shape.text fields
      <*> Shape.withDefault "handle" (Shape.optional Shape.text) none fields

/-- An edge as a value. -/
def encode (edge : Edge) : Value :=
  .object [("source_step_id", .text edge.source), ("target_step_id", .text edge.target),
    ("handle", Value.ofText? edge.handle)]

end Edge

/-- The steps of a routine and the edges between them, both in the order they were declared. -/
structure Definition where
  steps : List Step := []
  edges : List Edge := []
  deriving DecidableEq, Repr, Inhabited

namespace Definition

/-- The ids of the steps, in order. -/
def ids (d : Definition) : List String := d.steps.map Step.id

/-- The steps that start the routine. -/
def triggers (d : Definition) : List Step := d.steps.filter Step.isTrigger

/-- Read a definition. -/
def decode : Decoder Definition :=
  Shape.record "GraphDefinition" fun fields =>
    Definition.mk <$> Shape.withDefault "steps" (Shape.list Step.decode) [] fields
      <*> Shape.withDefault "edges" (Shape.list Edge.decode) [] fields

/-- A definition as a value. -/
def encode (d : Definition) : Value :=
  .object [("steps", .list (d.steps.map Step.encode)), ("edges", .list (d.edges.map Edge.encode))]

end Definition

end Workflow
