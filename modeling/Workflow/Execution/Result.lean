import Workflow.Execution.Context
import Workflow.Graph.Step
import Workflow.Status

/-!
# Results

A handler answers with a sentence for people and perhaps with data for later steps. The result of a
step adds how it ended and whether the routine goes on.
-/

namespace Workflow

/-- What a handler gives back. -/
structure Answer where
  narrative : String
  output : Option Fields := none
  deriving DecidableEq, Repr, Inhabited

namespace Answer

/-- Read an answer. -/
def decode : Decoder Answer :=
  Shape.record "HandlerOutput" fun fields =>
    Answer.mk <$> Shape.required "narrative_log" Shape.text fields
      <*> Shape.withDefault "output_data" (Shape.optional Shape.object) none fields

/-- Optional fields as a value. -/
def encodeFields? : Option Fields → Value
  | some fields => .object fields
  | none => .null

/-- An answer as a value. -/
def encode (answer : Answer) : Value :=
  .object [("narrative_log", .text answer.narrative),
    ("output_data", encodeFields? answer.output)]

end Answer

/-- An output as a handler has built it. Nobody has looked at its parts yet. -/
structure Output where
  narrative : Value
  output : Value
  deriving DecidableEq, Repr

/-- The output with the parts of an answer. -/
def Output.ofAnswer (answer : Answer) : Output :=
  { narrative := .text answer.narrative, output := Answer.encodeFields? answer.output }

/-- How a step ended. -/
structure StepResult where
  success : Bool
  status : ResultStatus
  /-- One sentence about what happened. -/
  narrative : String
  output : Option Fields := none
  /-- The routine goes on to the next step. -/
  continues : Bool := false
  deriving DecidableEq, Repr

namespace StepResult

/-- The result of a step whose handler answered. -/
def completed (answer : Answer) : StepResult :=
  { success := true, status := .completed, narrative := answer.narrative, output := answer.output,
    continues := true }

/-- The result of a step that could not be carried out. -/
def failed (step : Step) (reason : String) : StepResult :=
  { success := false, status := .failed,
    narrative := "Failed to execute \"" ++ step.displayName ++ "\": " ++ reason }

/-- The result of reaching a step that waits for a person. -/
def waiting (step : Step) : StepResult :=
  { success := true, status := .suspended,
    narrative := "Waiting for input at \"" ++ step.displayName ++ "\"." }

/-- Read a result. -/
def decode : Decoder StepResult :=
  Shape.record "ExecutionResult" fun fields =>
    StepResult.mk <$> Shape.required "success" Shape.boolean fields
      <*> Shape.required "status" ResultStatus.decode fields
      <*> Shape.required "narrative_log" Shape.text fields
      <*> Shape.withDefault "output_data" (Shape.optional Shape.object) none fields
      <*> Shape.withDefault "should_create_next_intent" Shape.boolean false fields

/-- A result as a value. -/
def encode (result : StepResult) : Value :=
  .object [("success", .bool result.success), ("status", .text result.status.name),
    ("narrative_log", .text result.narrative),
    ("output_data", Answer.encodeFields? result.output),
    ("should_create_next_intent", .bool result.continues)]

end StepResult

/-- A step that is to be carried out for a routine. -/
structure Intent where
  routine : String
  /-- The run the step belongs to. -/
  execution : String
  step : Step
  context : Context
  deriving DecidableEq, Repr

namespace Intent

/-- Read an intent; `fresh` names a run that is not named. -/
def decode (fresh : String) : Decoder Intent :=
  Shape.record "ExecutionIntent" fun fields =>
    Intent.mk <$> Shape.required "routine_id" Shape.text fields
      <*> Shape.withDefault "execution_id" Shape.text fresh fields
      <*> Shape.required "step_to_execute" Step.decode fields
      <*> Shape.required "context" Context.decode fields

/-- An intent as a value. -/
def encode (intent : Intent) : Value :=
  .object [("routine_id", .text intent.routine), ("execution_id", .text intent.execution),
    ("step_to_execute", intent.step.encode), ("context", intent.context.encode)]

end Intent

end Workflow
