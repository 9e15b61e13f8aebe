import Workflow.Execution.Result
import Workflow.Json.Writer
import Workflow.Value.Display

/-!
# Notices

What happens to routines is told to observers as notices. A notice has a name and data; it can also
be written as one line of a log, with long texts cut off.
-/

namespace Workflow

/-- Something observers are told. -/
inductive Notice where
  /-- A handler was carried out for a step. -/
  | stepExecuted (routine execution step : String) (key : Value) (result : StepResult)
  /-- A trigger matched a routine that is not active. -/
  | dispatchSkipped (routine trigger : String) (status : RoutineStatus)
  /-- A routine went from one status to another. -/
  | statusChanged (routine : String) (source target : RoutineStatus)
  /-- A version of a routine was recorded. -/
  | versionCreated (routine : String) (version : Int) (createdBy : String)
  /-- Something was said in a conversation. -/
  | said (routine execution step : String) (role : Role) (content : String)
  deriving DecidableEq, Repr

namespace Notice

/-- The name of a kind of notice. -/
def name : Notice → String
  | .stepExecuted .. => "step_executed"
  | .dispatchSkipped .. => "dispatch_skipped"
  | .statusChanged .. => "routine_status_changed"
  | .versionCreated .. => "version_created"
  | .said .. => "conversation_event"

/-- The data of a notice. -/
def data : Notice → Fields
  | .stepExecuted routine execution step key result =>
    [("routine_id", .text routine), ("execution_id", .text execution), ("step_id", .text step),
      ("step_key", key), ("success", .bool result.success), ("status", .text result.status.name),
      ("narrative_log", .text result.narrative)]
  | .dispatchSkipped routine trigger status =>
    [("routine_id", .text routine), ("trigger_key", .text trigger), ("status", .text status.name)]
  | .statusChanged routine source target =>
    [("routine_id", .text routine), ("from_status", .text source.name),
      ("to_status", .text target.name)]
  | .versionCreated routine version createdBy =>
    [("routine_id", .text routine), ("version", .int version), ("created_by", .text createdBy)]
  | .said routine execution step role content =>
    [("routine_id", .text routine), ("execution_id", .text execution), ("step_id", .text step),
      ("role", .text role.name), ("content", .text content)]

/-- A notice as a value. -/
def encode (notice : Notice) : Value :=
  .object [("event", .text notice.name), ("data", .object notice.data)]

end Notice

/-- A line of a log. -/
structure LogLine where
  /-- The line asks for attention. -/
  warning : Bool
  text : String
  deriving DecidableEq, Repr

namespace LogLine

/-- A line as a value, with the level it is written at. -/
def encode (line : LogLine) : Value :=
  .object [("level", .text (if line.warning then "WARNING" else "INFO")), ("line", .text line.text)]

/-- How many characters of a text a line shows. -/
def clipLength : Nat := 200

/-- A value as a line shows it. Numbers and truth values stay; anything else is shown as text, cut
off where it gets long. -/
def clip : Value → Value
  | .null => .null
  | .bool b => .bool b
  | .int n => .int n
  | .float x => .float x
  | v => .text (String.ofList (v.display.toList.take clipLength))

/-- A part of the data, with what stands for it when it is missing. -/
def part (data : Fields) (name : String) (missing : Value) : Value :=
  (Dict.get? data name).getD missing

/-- A part of the data that is empty when it is missing. -/
def textPart (data : Fields) (name : String) : Value := part data name (.text "")

/-- The fields of a line after its name and time, when there is a line for the kind of notice. -/
def fields? (name : String) (data : Fields) : Option Fields :=
  let copy (names : List String) : Fields := names.map fun n => (n, textPart data n)
  match name with
  | "step_executed" =>
    some (copy ["routine_id", "execution_id", "step_id", "step_key", "status"] ++
      [("narrative_log", clip (textPart data "narrative_log"))])
  | "dispatch_skipped" => some (copy ["routine_id", "trigger_key", "status"])
  | "routine_status_changed" =>
    some [("routine_id", textPart data "routine_id"), ("from", textPart data "from_status"),
      ("to", textPart data "to_status")]
  | "version_created" =>
    some [("routine_id", textPart data "routine_id"), ("version", part data "version" (.int 0)),
      ("created_by", textPart data "created_by")]
  | "conversation_event" => some (data.map fun (n, v) => (n, clip v))
  | _ => none

/-- The line for a notice that was told at some time. Steps that failed ask for attention. -/
def ofData? (time name : String) (data : Fields) : Option LogLine :=
  (fields? name data).map fun fields =>
    let front : Fields := [("event", .text name), ("ts", .text time)]
    { warning := name = "step_executed" && !(Fields.read data "success").truthy
      text := Json.write Json.spaced (.object (Dict.merge front fields)) }

end LogLine

end Workflow
