import Workflow.Operation
import Workflow.Store.Memory
import Workflow.Store.Relational

/-!
# Stores

A store keeps templates, routines, snapshots and audit entries, in memory or on tables. What it
answers is the same either way as long as keys are fresh.
-/

namespace Workflow

/-- A store. -/
inductive Store where
  | memory (records : Memory)
  | tables (rows : Tables)
  deriving Repr

namespace Store

/-- Work on a store. -/
abbrev Work (α : Type) := Operation Store α

/-- An empty store in memory. -/
def inMemory : Store := .memory {}

/-- An empty store of tables. -/
def onTables : Store := .tables {}

/-- Ask a store. -/
def ask {α : Type} (ofMemory : Memory → α) (ofTables : Tables → Except Fault α) : Work α := do
  match ← get with
  | .memory records => pure (ofMemory records)
  | .tables rows => Operation.ofExcept (ofTables rows)

/-- Change a store. -/
def change (inMemory : Memory → Except Fault Memory) (onTables : Tables → Except Fault Tables) :
    Work Unit := do
  match ← get with
  | .memory records => set (Store.memory (← Operation.ofExcept (inMemory records)))
  | .tables rows => set (Store.tables (← Operation.ofExcept (onTables rows)))

/-- The template with an id. -/
def template? (id : String) : Work (Option Template) :=
  ask (·.template? id) (·.template? id)

/-- The template with a key. -/
def templateByKey? (key : String) : Work (Option Template) :=
  ask (·.templateByKey? key) (·.templateByKey? key)

/-- The catalogue of templates. -/
def listTemplates : Work (List Template) := ask (·.listTemplates) (·.listTemplates)

/-- Store a template. -/
def insertTemplate (template : Template) : Work Unit :=
  change (fun records => .ok (records.insertTemplate template)) (·.insertTemplate template)

/-- The routine with an id. -/
def routine? (id : String) : Work (Option Routine) := ask (·.routine? id) (·.routine? id)

/-- The routines of a scope in the order in which they were made. -/
def listRoutines (scope : String) (status : Option RoutineStatus) : Work (List Routine) := do
  Operation.ofExcept (← ask (·.listRoutines scope status)
    (fun rows => .ok (rows.listRoutines scope status)))

/-- Store a routine. -/
def insertRoutine (routine : Routine) : Work Unit :=
  change (fun records => .ok (records.putRoutine routine)) (·.insertRoutine routine)

/-- Write a routine over the one with its id. -/
def writeRoutine (routine : Routine) : Work Unit :=
  change (fun records => .ok (records.putRoutine routine)) (·.writeRoutine routine)

/-- Give a routine another definition under a version number. -/
def setDefinition (id : String) (definition : Definition) (version : Int) :
    Work (Option Routine) := do
  change
    (fun records => .ok (records.updateRoutine id fun r => { r with definition, version }))
    (·.setDefinition id definition version)
  routine? id

/-- Give a routine another status. -/
def setStatus (id : String) (status : RoutineStatus) : Work (Option Routine) := do
  change (fun records => .ok (records.updateRoutine id fun r => { r with status }))
    (fun tables => .ok (tables.updateRoutine id fun row => { row with status := status.name }))
  routine? id

/-- Record a version that is not recorded yet. -/
def insertSnapshot (snapshot : Snapshot) : Work Unit :=
  change
    (fun records =>
      match records.snapshot? snapshot.routine snapshot.version with
      | some _ =>
        .error (.naming (.int snapshot.version) (.snapshotTaken snapshot.routine snapshot.version))
      | none => .ok (records.insertSnapshot snapshot))
    (·.insertSnapshot snapshot)

/-- The snapshot of a version. -/
def snapshot? (routine : String) (version : Int) : Work (Option Snapshot) :=
  ask (·.snapshot? routine version) (·.snapshot? routine version)

/-- The snapshots of a routine, by version. -/
def listSnapshots (routine : String) : Work (List Snapshot) :=
  ask (·.listSnapshots routine) (·.listSnapshots routine)

/-- Keep an audit entry. -/
def appendEntry (entry : Entry) : Work Unit :=
  change (fun records => .ok (records.appendEntry entry)) (·.appendEntry entry)

/-- A page of the audit entries of a routine. -/
def entriesOf (routine : String) (page : Page) : Work (List Entry) :=
  ask (fun records => page.take (records.entriesOf routine)) (·.entriesOf routine page)

/-- The audit entries of a run. -/
def entriesOfExecution (execution : String) : Work (List Entry) :=
  ask (·.entriesOfExecution execution) (·.entriesOfExecution execution)

end Store

end Workflow
