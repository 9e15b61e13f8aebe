import Workflow.Graph.Step
import Workflow.Moment
import Workflow.Status

/-!
# Routines and their versions

A routine is made from a template for one scope. Its definition may change; every definition it ever
had is kept as a snapshot under a version number.
-/

namespace Workflow

/-- A routine of a scope. -/
structure Routine where
  id : String
  template : String
  scope : String
  name : String
  status : RoutineStatus := .active
  /-- The version whose snapshot holds the definition. -/
  version : Int := 1
  configuration : Fields := []
  definition : Definition
  createdBy : String := ""
  created : Moment
  deriving DecidableEq, Repr

namespace Routine

/-- Read a routine; `fresh` is the id of one without an id, and `now` the time it was made when it
names none. -/
def decode (fresh : String) (now : Moment) : Decoder Routine :=
  Shape.record "Routine" fun fields =>
    (fun id template scope name status version configuration definition createdBy created _ =>
        Routine.mk id template scope name status version configuration definition createdBy created)
      <$> Shape.withDefault "id" Shape.text fresh fields
      <*> Shape.required "template_id" Shape.text fields
      <*> Shape.required "scope_id" Shape.text fields
      <*> Shape.required "name" Shape.text fields
      <*> Shape.withDefault "status" RoutineStatus.decode .active fields
      <*> Shape.withDefault "current_version" (Shape.integerFrom 1) 1 fields
      <*> Shape.withDefault "configuration" Shape.object [] fields
      <*> Shape.required "definition" Definition.decode fields
      <*> Shape.withDefault "created_by" Shape.text "" fields
      <*> Shape.withDefault "created_at" Moment.decode now fields
      <*> Shape.withDefault "updated_at" Moment.decode now fields

/-- A routine as a value. -/
def encode (routine : Routine) : Value :=
  .object [("id", .text routine.id), ("template_id", .text routine.template),
    ("scope_id", .text routine.scope), ("name", .text routine.name),
    ("status", .text routine.status.name), ("current_version", .int routine.version),
    ("configuration", .object routine.configuration),
    ("definition", routine.definition.encode), ("created_by", .text routine.createdBy)]

/-- Routines in the order in which they were made. -/
def sorted (routines : List Routine) : List Routine :=
  routines.mergeSort fun a b => a.created.instant ≤ b.created.instant

/-- The routines can be ordered: all of their clocks have an offset, or none has. -/
def areComparable (routines : List Routine) : Bool :=
  routines.all (·.created.offset.isSome) || routines.all (·.created.offset.isNone)

end Routine

/-- One version of a routine. -/
structure Snapshot where
  routine : String
  version : Int
  definition : Definition
  createdBy : String := ""
  deriving DecidableEq, Repr

namespace Snapshot

/-- Read a snapshot. -/
def decode : Decoder Snapshot :=
  Shape.record "VersionSnapshot" fun fields =>
    (fun routine version definition createdBy _ =>
        Snapshot.mk routine version definition createdBy)
      <$> Shape.required "routine_id" Shape.text fields
      <*> Shape.required "version" (Shape.integerFrom 1) fields
      <*> Shape.required "definition" Definition.decode fields
      <*> Shape.withDefault "created_by" Shape.text "" fields
      <*> Shape.withDefault "created_at" Moment.decode default fields

/-- A snapshot as a value. -/
def encode (snapshot : Snapshot) : Value :=
  .object [("routine_id", .text snapshot.routine), ("version", .int snapshot.version),
    ("definition", snapshot.definition.encode), ("created_by", .text snapshot.createdBy)]

/-- Snapshots by version. -/
def sorted (snapshots : List Snapshot) : List Snapshot :=
  snapshots.mergeSort fun a b => a.version ≤ b.version

end Snapshot

end Workflow
