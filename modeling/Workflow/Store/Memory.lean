import Workflow.Audit.Trail
import Workflow.Fault
import Workflow.Routine
import Workflow.Store.Keyed
import Workflow.Template

/-!
# Storing in memory

Templates and routines are found by id, and one with the id of an earlier one takes its place. The
snapshots of a routine are kept by version, and a version is recorded only once. Audit entries are
kept in the order in which they came.
-/

namespace Workflow

/-- Everything stored in memory. -/
structure Memory where
  templates : List Template := []
  routines : List Routine := []
  snapshots : List Snapshot := []
  entries : List Entry := []
  deriving Repr

namespace Memory

/-- Store a template. -/
def insertTemplate (memory : Memory) (template : Template) : Memory :=
  { memory with templates := Keyed.put Template.id template memory.templates }

/-- The template with an id. -/
def template? (memory : Memory) (id : String) : Option Template :=
  Keyed.find? Template.id id memory.templates

/-- The first template with a key. -/
def templateByKey? (memory : Memory) (key : String) : Option Template :=
  Keyed.find? Template.key key memory.templates

/-- The catalogue. -/
def listTemplates (memory : Memory) : List Template := Template.sorted memory.templates

/-- Store a routine. -/
def putRoutine (memory : Memory) (routine : Routine) : Memory :=
  { memory with routines := Keyed.put Routine.id routine memory.routines }

/-- The routine with an id. -/
def routine? (memory : Memory) (id : String) : Option Routine :=
  Keyed.find? Routine.id id memory.routines

/-- The routines of a scope, with a status when one is asked for. -/
def listRoutines (memory : Memory) (scope : String) (status : Option RoutineStatus) :
    Except Fault (List Routine) :=
  let routines := memory.routines.filter fun routine =>
    routine.scope = scope && status.all (· = routine.status)
  if Routine.areComparable routines then .ok (Routine.sorted routines)
  else .error (.misuse .mixedMoments)

/-- Change a routine. -/
def updateRoutine (memory : Memory) (id : String) (f : Routine → Routine) : Memory :=
  { memory with routines := Keyed.update Routine.id id f memory.routines }

/-- The snapshots of a routine, by version. -/
def listSnapshots (memory : Memory) (routine : String) : List Snapshot :=
  Snapshot.sorted (memory.snapshots.filter fun snapshot => snapshot.routine = routine)

/-- The snapshot of a version. -/
def snapshot? (memory : Memory) (routine : String) (version : Int) : Option Snapshot :=
  memory.snapshots.find? fun snapshot =>
    snapshot.routine = routine && snapshot.version = version

/-- Record a version. -/
def insertSnapshot (memory : Memory) (snapshot : Snapshot) : Memory :=
  { memory with snapshots := memory.snapshots ++ [snapshot] }

/-- Keep an audit entry. -/
def appendEntry (memory : Memory) (entry : Entry) : Memory :=
  { memory with entries := memory.entries ++ [entry] }

/-- The audit entries of a routine. -/
def entriesOf (memory : Memory) (routine : String) : List Entry :=
  memory.entries.filter fun entry => entry.routine = routine

/-- The audit entries of a run. -/
def entriesOfExecution (memory : Memory) (execution : String) : List Entry :=
  memory.entries.filter fun entry => entry.execution = execution

end Memory

end Workflow
