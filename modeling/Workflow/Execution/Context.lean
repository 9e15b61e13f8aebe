import Workflow.Shape

/-!
# The context of an execution

A routine runs for a scope, with the payload that triggered it and a memory of what its earlier
steps gave out. Placeholders see all of it: payload and memory each under a name of its own and also
side by side, where the memory wins over the payload.
-/

namespace Workflow

/-- What a step may refer to while it runs. -/
structure Context where
  routine : String
  scope : String
  /-- What came with the trigger. -/
  payload : Fields := []
  /-- What earlier steps gave out, by their keys. -/
  memory : Fields := []
  deriving DecidableEq, Repr, Inhabited

namespace Context

/-- The names placeholders can use. The last four are set over anything the payload or the memory
holds, so they always mean the same. -/
def bindings (context : Context) : Fields :=
  let together := Dict.merge context.payload context.memory
  let withPayload := Dict.set together "payload" (.object context.payload)
  let withMemory := Dict.set withPayload "memory" (.object context.memory)
  let withRoutine := Dict.set withMemory "routine_id" (.text context.routine)
  Dict.set withRoutine "scope_id" (.text context.scope)

/-- Read a context. -/
def decode : Decoder Context :=
  Shape.record "ExecutionContext" fun fields =>
    Context.mk <$> Shape.required "routine_id" Shape.text fields
      <*> Shape.required "scope_id" Shape.text fields
      <*> Shape.withDefault "trigger_payload" Shape.object [] fields
      <*> Shape.withDefault "memory" Shape.object [] fields

/-- A context as a value. -/
def encode (context : Context) : Value :=
  .object [("routine_id", .text context.routine), ("scope_id", .text context.scope),
    ("trigger_payload", .object context.payload), ("memory", .object context.memory)]

end Context

end Workflow
