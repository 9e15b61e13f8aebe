import Workflow.Engine.Basic
import Workflow.Placeholder

/-!
# The life of a routine

A routine is made from a template, may get other definitions, and may be paused, taken up again and
archived. Every definition it gets is recorded as a new version, a return to an old one included, so
versions only grow. A definition is checked before anything is written.
-/

namespace Workflow.Engine

variable {X : Type}

/-- The routine with an id, which must exist, and in the given scope when one is given. -/
def routine (id : String) (scope : Option String) : Work X Routine := do
  match ← stored (Store.routine? id) with
  | some routine =>
    if scope.all (· = routine.scope) then pure routine else Operation.fail (.noRoutine id)
  | none => Operation.fail (.noRoutine id)

/-- The routines of a scope, with a status when one is asked for. -/
def routines (scope : String) (status : Option RoutineStatus) : Work X (List Routine) :=
  stored (Store.listRoutines scope status)

/-- The version after those that are recorded. -/
def nextVersion (history : List Snapshot) : Int :=
  (history.map Snapshot.version).foldl max 0 + 1

/-- Record a definition as the next version of a routine. The routine itself stays as it is. -/
def record (id : String) (definition : Definition) (createdBy : String) : Work X Snapshot := do
  let version := nextVersion (← stored (Store.listSnapshots id))
  let snapshot : Snapshot := { routine := id, version, definition, createdBy }
  stored (Store.insertSnapshot snapshot)
  notify (.versionCreated id version createdBy)
  pure snapshot

/-- Make a routine from a template. The name of the template stands in for an empty name. -/
def instantiate (template : Template) (scope : String) (configuration : Fields) (name : String)
    (createdBy : String) : Work X Routine := do
  let definition ← Operation.ofExcept (template.definition.hydrate configuration)
  let _ ← check definition
  let created ← now
  let routine : Routine :=
    { id := ← fresh, template := template.id, scope,
      name := if name = "" then template.name else name, configuration, definition, createdBy,
      created }
  stored (Store.insertRoutine routine)
  let _ ← record routine.id definition createdBy
  pure routine

/-- The routine with an id, which must not be archived. -/
def editable (id : String) : Work X Routine := do
  let found ← routine id none
  if found.status = .archived then Operation.fail (.archived id) else pure found

/-- Give a routine a definition as its next version. -/
def advance (id : String) (definition : Definition) (createdBy : String) : Work X Routine := do
  let snapshot ← record id definition createdBy
  match ← stored (Store.setDefinition id definition snapshot.version) with
  | some routine => pure routine
  | none => Operation.fail (.noRoutine id)

/-- Give a routine a definition of its own. -/
def updateDefinition (id : String) (definition : Definition) (createdBy : String) :
    Work X Routine := do
  let found ← editable id
  let _ ← check definition
  advance found.id definition createdBy

/-- The version of a routine, which must be recorded. -/
def version (id : String) (number : Int) : Work X Snapshot := do
  match ← stored (Store.snapshot? id number) with
  | some snapshot => pure snapshot
  | none => Operation.fail (.naming (.int number) (.noVersion id number))

/-- The recorded versions of a routine, oldest first. -/
def history (id : String) : Work X (List Snapshot) := do
  let _ ← routine id none
  stored (Store.listSnapshots id)

/-- Give a routine the definition of an earlier version, as its next version. -/
def rollback (id : String) (number : Int) (createdBy : String) : Work X Routine := do
  let found ← editable id
  let target ← version id number
  advance found.id target.definition createdBy

/-- Give a routine a status. Nothing happens when it has the status already. -/
def setStatus (id : String) (status : RoutineStatus) : Work X Routine := do
  let found ← routine id none
  if found.status = status then pure found
  else if !found.status.mayBecome status then
    Operation.fail (.forbiddenMove id found.status status)
  else
    match ← stored (Store.setStatus id status) with
    | some changed =>
      notify (.statusChanged id found.status status)
      pure changed
    | none => Operation.fail (.noRoutine id)

end Workflow.Engine
