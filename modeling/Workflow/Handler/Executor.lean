import Workflow.Handler.Builtin
import Workflow.Notice
import Workflow.Placeholder
import Workflow.Activity

/-!
# Carrying out a step

A step that waits for nobody is carried out by a handler. What goes wrong on the way, from looking
up the handler to reading its answer, becomes a failed result with one sentence about the cause. The
result itself is made after that: the sentence needs words for the cause and for the key of the
handler, and an output that the handler has built itself is looked at only now. If this fails, there
is no result.
-/

namespace Workflow

/-- The result made from an output, whose parts have to be those of an answer. -/
def StepResult.ofOutput (output : Output) : Except Fault StepResult :=
  Fault.check "ExecutionResult" decode (.object [("success", .bool true),
    ("status", .text ResultStatus.completed.name), ("narrative_log", output.narrative),
    ("output_data", output.output), ("should_create_next_intent", .bool true)])

namespace Step

/-- The key the handler of a step is looked up by: the step's own key, else the action named in its
configuration, else the handler its kind implies. -/
def handlerKey (step : Step) : Value :=
  (Value.ofText? step.key).orElse ((step.setting "action_type").orElse
    (match step.kind with
      | .tag => .text Builtin.addTag.key
      | .stage => .text Builtin.setStage.key
      | _ => .null))

/-- The result of a step whose handler could not be found or gave up. A line of a log names the key
of the handler first, so the key has to have words too. -/
def resultOfFault (step : Step) (fault : Fault) : Except Fault StepResult := do
  let _ ← step.handlerKey.wording
  .ok (.failed step (← fault.wording))

/-- The result of a step, made from what came of its handler. -/
def resultOf (step : Step) : Except Fault Output → Except Fault StepResult
  | .ok output => StepResult.ofOutput output
  | .error fault => step.resultOfFault fault

end Step

namespace Answer

/-- The answer a value stands for: a text is a narrative, and an object has to be an answer. -/
def ofValue : Value → Except Fault Answer
  | .text narrative => .ok { narrative }
  | .object fields => Fault.check "HandlerOutput" decode (.object fields)
  | v => .error (.misuse (.notAnswer v.kindName))

end Answer

/-- What a handler of the user's own gives back. -/
inductive Returned where
  /-- A value that stands for an answer. -/
  | value (v : Value)
  /-- An output the handler has built itself. -/
  | built (output : Output)
  deriving DecidableEq, Repr

namespace Returned

/-- The output that is given back. One that is built already is taken as it is. -/
def output : Returned → Except Fault Output
  | .value v => (Answer.ofValue v).map Output.ofAnswer
  | .built output => .ok output

end Returned

instance : Coe Value Returned := ⟨.value⟩

instance : Coe (Except Fault Value) (Except Fault Returned) := ⟨Except.map .value⟩

instance {σ X : Type} :
    Coe (X → Context → Fields → Activity σ Value) (X → Context → Fields → Activity σ Returned) :=
  ⟨fun perform x context config => do return .value (← perform x context config)⟩

/-- What the world around a step offers it: the handlers, a way to send, a way to carry out handlers
of the user's own, and observers. A handler of the user's own may give way to other work. -/
structure Surroundings (σ X : Type) where
  registry : σ → Registry X
  send : Mail → Operation σ Receipt
  perform : X → Context → Fields → Activity σ Returned
  notify : Notice → Operation σ Unit

namespace Surroundings

variable {σ X : Type}

/-- Carry out a handler. -/
def run (world : Surroundings σ X) (handler : Handler X) (context : Context) (config : Fields) :
    Activity σ Output :=
  match handler with
  | .builtin b => do return .ofAnswer (← Activity.ofOperation (b.run world.send context config))
  | .custom x => do .ended (← world.perform x context config).output

/-- The handler for a step and the configuration it gets, with all placeholders filled. -/
def prepare (world : Surroundings σ X) (intent : Intent) : Operation σ (Handler X × Fields) := do
  let handler ← Operation.ofExcept ((world.registry (← get)).find intent.step.handlerKey)
  let config ← Operation.ofExcept
    (interpolateFields (.object intent.context.bindings) intent.step.config)
  pure (handler, config)

/-- The handler's output for a step. -/
def answer (world : Surroundings σ X) (intent : Intent) : Activity σ Output := do
  let (handler, config) ← world.prepare intent
  world.run handler intent.context config

/-- Carry out a step and tell the observers. Where no result can be made, nobody is told. -/
def execute (world : Surroundings σ X) (intent : Intent) : Activity σ StepResult := do
  let outcome ← (world.answer intent).attempt
  let result ← Activity.ended (intent.step.resultOf outcome)
  world.notify (.stepExecuted intent.routine intent.execution intent.step.id
    (intent.step.handlerKey.orElse (.text "")) result)
  pure result

end Surroundings

end Workflow
