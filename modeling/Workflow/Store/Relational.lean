import Workflow.Audit.Trail
import Workflow.Fault
import Workflow.Routine
import Workflow.Template

/-!
# Storing in tables

Here records are rows of four tables. A row holds plain texts and numbers, and a document for every
part that has structure of its own; reading a row checks its documents again. A row whose key is
taken is refused. A routine keeps its scope, its template and its maker for good.

The tables are taken to give back what was written. For moments this is up to the database. For
documents it leaves out numbers that are not finite, which a definition is written without, and
integers that have no text.
-/

namespace Workflow

/-- A row of the templates. -/
structure TemplateRow where
  id : String
  key : String
  name : String
  description : String
  category : String
  tags : List String
  definition : Value
  deriving Repr

namespace TemplateRow

/-- The row of a template. -/
def ofTemplate (template : Template) : TemplateRow :=
  { id := template.id, key := template.key, name := template.name,
    description := template.description, category := template.category, tags := template.tags,
    definition := template.definition.encode }

/-- The template of a row. An empty category is read as the standard one. -/
def read (row : TemplateRow) : Except Fault Template := do
  let definition ← Fault.check "GraphDefinition" Definition.decode row.definition
  let category := if row.category = "" then Template.standardCategory else row.category
  .ok { id := row.id, key := row.key, name := row.name, description := row.description, category,
        tags := row.tags, definition }

end TemplateRow

/-- A row of the routines. -/
structure RoutineRow where
  id : String
  template : String
  scope : String
  name : String
  status : String
  version : Int
  configuration : Fields
  definition : Value
  createdBy : String
  created : Moment
  deriving Repr

namespace RoutineRow

/-- The row of a routine. -/
def ofRoutine (routine : Routine) : RoutineRow :=
  { id := routine.id, template := routine.template, scope := routine.scope, name := routine.name,
    status := routine.status.name, version := routine.version,
    configuration := routine.configuration, definition := routine.definition.encode,
    createdBy := routine.createdBy, created := routine.created }

/-- The routine of a row. Versions count from one. -/
def read (row : RoutineRow) : Except Fault Routine := do
  let status ← Fault.statusNamed row.status
  let definition ← Fault.check "GraphDefinition" Definition.decode row.definition
  if row.version < 1 then
    .error (.malformed "Routine" (.object [("current_version", .int row.version)])
      [⟨[.field "current_version"], .belowMinimum 1⟩])
  else
    .ok { id := row.id, template := row.template, scope := row.scope, name := row.name, status,
          version := row.version, configuration := row.configuration, definition,
          createdBy := row.createdBy, created := row.created }

end RoutineRow

/-- A row of the versions. -/
structure VersionRow where
  routine : String
  version : Int
  definition : Value
  createdBy : String
  deriving Repr

namespace VersionRow

/-- The row of a snapshot. -/
def ofSnapshot (snapshot : Snapshot) : VersionRow :=
  { routine := snapshot.routine, version := snapshot.version,
    definition := snapshot.definition.encode, createdBy := snapshot.createdBy }

/-- The snapshot of a row. -/
def read (row : VersionRow) : Except Fault Snapshot := do
  let definition ← Fault.check "GraphDefinition" Definition.decode row.definition
  .ok { routine := row.routine, version := row.version, definition, createdBy := row.createdBy }

end VersionRow

/-- A row of the audit entries. -/
structure EntryRow where
  id : String
  routine : String
  execution : String
  step : String
  label : String
  result : Value
  deriving Repr

namespace EntryRow

/-- The row of an entry. -/
def ofEntry (entry : Entry) : EntryRow :=
  { id := entry.id, routine := entry.routine, execution := entry.execution, step := entry.step,
    label := entry.label, result := entry.result.encode }

/-- The entry of a row. -/
def read (row : EntryRow) : Except Fault Entry := do
  let result ← Fault.check "ExecutionResult" StepResult.decode row.result
  .ok { id := row.id, routine := row.routine, execution := row.execution, step := row.step,
        label := row.label, result }

end EntryRow

/-- The tables. New rows are added at the end. -/
structure Tables where
  templates : List TemplateRow := []
  routines : List RoutineRow := []
  versions : List VersionRow := []
  entries : List EntryRow := []
  deriving Repr

namespace Tables

/-- A column of numbers holds numbers of 64 bits with a sign. -/
def checkColumn (n : Int) : Except Fault Unit :=
  if Number.IsWord n then .ok () else .error (.oversizeColumn n)

/-- Read the first row that passes a test. -/
def readFirst {ρ α : Type} (read : ρ → Except Fault α) (test : ρ → Bool) (rows : List ρ) :
    Except Fault (Option α) :=
  match rows.find? test with
  | some row => (read row).map some
  | none => .ok none

/-- Store a template. Neither its id nor its key may be taken. -/
def insertTemplate (tables : Tables) (template : Template) : Except Fault Tables :=
  if tables.templates.any fun row => row.id = template.id || row.key = template.key then
    .error .duplicateRow
  else .ok { tables with templates := tables.templates ++ [.ofTemplate template] }

/-- The template with an id. -/
def template? (tables : Tables) (id : String) : Except Fault (Option Template) :=
  readFirst TemplateRow.read (fun row => row.id = id) tables.templates

/-- The template with a key. -/
def templateByKey? (tables : Tables) (key : String) : Except Fault (Option Template) :=
  readFirst TemplateRow.read (fun row => row.key = key) tables.templates

/-- The catalogue. The rows are ordered by what is stored in them. -/
def listTemplates (tables : Tables) : Except Fault (List Template) :=
  (tables.templates.mergeSort fun a b =>
    a.category < b.category || (a.category = b.category && !(b.key < a.key))).mapM TemplateRow.read

/-- Store a routine whose id is not taken. -/
def insertRoutine (tables : Tables) (routine : Routine) : Except Fault Tables := do
  checkColumn routine.version
  if tables.routines.any fun row => row.id = routine.id then .error .duplicateRow
  else .ok { tables with routines := tables.routines ++ [.ofRoutine routine] }

/-- The routine with an id. -/
def routine? (tables : Tables) (id : String) : Except Fault (Option Routine) :=
  readFirst RoutineRow.read (fun row => row.id = id) tables.routines

/-- The routines of a scope, with a status when one is asked for. -/
def listRoutines (tables : Tables) (scope : String) (status : Option RoutineStatus) :
    Except Fault (List Routine) :=
  let rows := tables.routines.filter fun row =>
    row.scope = scope && status.all fun status => status.name = row.status
  (rows.mergeSort fun a b => a.created.wall ≤ b.created.wall).mapM RoutineRow.read

/-- Change the row of a routine. -/
def updateRoutine (tables : Tables) (id : String) (f : RoutineRow → RoutineRow) : Tables :=
  { tables with routines := tables.routines.map fun row => if row.id = id then f row else row }

/-- A row with what may change of a routine written into it. -/
def revised (routine : Routine) (row : RoutineRow) : RoutineRow :=
  { row with name := routine.name, status := routine.status.name, version := routine.version,
             configuration := routine.configuration, definition := routine.definition.encode }

/-- Write a routine into the row with its id. -/
def writeRoutine (tables : Tables) (routine : Routine) : Except Fault Tables := do
  checkColumn routine.version
  .ok (tables.updateRoutine routine.id (revised routine))

/-- Write a definition and its version number into the row of a routine, if there is one. -/
def setDefinition (tables : Tables) (id : String) (definition : Definition) (version : Int) :
    Except Fault Tables := do
  if tables.routines.any fun row => row.id = id then checkColumn version
  .ok (tables.updateRoutine id fun row => { row with definition := definition.encode, version })

/-- Record a version that is not recorded yet. -/
def insertSnapshot (tables : Tables) (snapshot : Snapshot) : Except Fault Tables := do
  checkColumn snapshot.version
  if tables.versions.any fun row =>
      row.routine = snapshot.routine && row.version = snapshot.version then .error .duplicateRow
  else .ok { tables with versions := tables.versions ++ [.ofSnapshot snapshot] }

/-- The snapshot of a version. -/
def snapshot? (tables : Tables) (routine : String) (version : Int) :
    Except Fault (Option Snapshot) := do
  checkColumn version
  readFirst VersionRow.read (fun row => row.routine = routine && row.version = version)
    tables.versions

/-- The snapshots of a routine, by version. -/
def listSnapshots (tables : Tables) (routine : String) : Except Fault (List Snapshot) :=
  ((tables.versions.filter fun row => row.routine = routine).mergeSort fun a b =>
    a.version ≤ b.version).mapM VersionRow.read

/-- Keep an audit entry whose id is not taken. -/
def appendEntry (tables : Tables) (entry : Entry) : Except Fault Tables :=
  if tables.entries.any fun row => row.id = entry.id then .error .duplicateRow
  else .ok { tables with entries := tables.entries ++ [.ofEntry entry] }

/-- The audit entries of a routine, by page. -/
def entriesOf (tables : Tables) (routine : String) (page : Page) : Except Fault (List Entry) := do
  checkColumn page.limit
  checkColumn page.offset
  (page.takeRows (tables.entries.filter fun row => row.routine = routine)).mapM EntryRow.read

/-- The audit entries of a run. -/
def entriesOfExecution (tables : Tables) (execution : String) : Except Fault (List Entry) :=
  (tables.entries.filter fun row => row.execution = execution).mapM EntryRow.read

end Tables

end Workflow
