import Workflow.Engine.Lifecycle
import Workflow.Proofs.Engine
import Workflow.Proofs.Lifecycle.Change
import Workflow.Proofs.Store.Holding

/-!
# Calls to the life of routines

What may be asked of the life of routines is a `Call`. A call on an engine whose records are in
order either is refused and leaves no trace, or changes the records in one of the ways of
`Memory.Change`. The lemmas called `..._outcome` say for each kind of call which of these happens,
with the answer and the engine afterwards; everything that holds over runs of calls is derived from
them.
-/

namespace Workflow

namespace Memory

/-- The snapshot that records a definition as the next version of a routine. -/
def nextSnapshot (records : Memory) (id : String) (definition : Definition) (createdBy : String) :
    Snapshot :=
  ⟨id, (records.history id).length + 1, definition, createdBy⟩

theorem continues_nextSnapshot (records : Memory) (id : String) (definition : Definition)
    (createdBy : String) : records.Continues (records.nextSnapshot id definition createdBy) := rfl

/-- A version that was not recorded before is found once it is. -/
theorem snapshot?_insertSnapshot_self {records : Memory} {snapshot : Snapshot}
    (hnew : records.snapshot? snapshot.routine snapshot.version = none) :
    (records.insertSnapshot snapshot).snapshot? snapshot.routine snapshot.version =
      some snapshot := by
  rw [snapshot?] at hnew ⊢
  rw [insertSnapshot, List.find?_append, hnew]
  simp

theorem Chronicled.readable {made : Nat} {records : Memory} (h : Chronicled made records) :
    records.Readable := fun _ hr => (h.version_bounds hr).1

end Memory

namespace Engine

variable {X α : Type} {engine : Engine X} {kind : StoreKind} {records : Memory}

/-- The engine keeps records that are in order, in a store of the given kind. -/
structure Keeps (engine : Engine X) (kind : StoreKind) (records : Memory) : Prop where
  store : engine.store = kind.hold records
  chronicled : records.Chronicled engine.made

/-- The engine keeps records in which routines can be read and no version is left out. There may be
versions of routines that are not stored. -/
structure Legible (engine : Engine X) (kind : StoreKind) (records : Memory) : Prop where
  store : engine.store = kind.hold records
  readable : records.Readable
  contiguous : ∀ id, Snapshot.Contiguous (records.history id)

theorem Keeps.legible (h : engine.Keeps kind records) : engine.Legible kind records :=
  ⟨h.store, h.chronicled.readable, h.chronicled.contiguous⟩

/-- The engine with other records, after so many things were made and observers were told. -/
def changed (engine : Engine X) (kind : StoreKind) (made : Nat) (after : Memory)
    (told : List Notice) : Engine X :=
  { engine with store := kind.hold after, made, notices := engine.notices ++ told }

/-- A definition is accepted, or checking it is refused. -/
theorem check_outcome (engine : Engine X) (d : Definition) :
    engine.Refuses (check d) ∨
      ∃ graph, Graph.violations (rules engine.settings) d = [] ∧
        (check d).perform engine = (.ok graph, engine) := by
  cases h : Graph.ofDefinition (rules engine.settings) d with
  | error fault => exact .inl ⟨fault, by rw [perform_check, h]⟩
  | ok graph => exact .inr ⟨graph, (Graph.of_ofDefinition h).1, by rw [perform_check, h]⟩

/-- What is done once the definition of a new routine is accepted. -/
def add (routine : Routine) : Work X Snapshot := do
  stored (Store.insertRoutine routine)
  record routine.id routine.definition routine.createdBy

/-- What is made of a template when its filled definition is accepted. -/
def madeFrom (engine : Engine X) (template : Template) (scope : String) (configuration : Fields)
    (name createdBy : String) (definition : Definition) : Routine :=
  { id := Identifier.ofNumber (engine.made + 1), template := template.id, scope,
    name := if name = "" then template.name else name, configuration, definition, createdBy,
    created := ⟨engine.made, some 0⟩ }

section Instantiate

variable {template : Template} {scope name createdBy : String} {configuration : Fields}
variable {definition : Definition}

theorem perform_hydrate {outcome : Except Fault Definition}
    (hydrated : template.definition.hydrate configuration = outcome) :
    (Operation.ofExcept (template.definition.hydrate configuration)).perform engine =
      (outcome, engine) := by
  rw [hydrated, Operation.perform_ofExcept]

/-- Making a routine comes down to adding one with a new identifier, once its definition is
accepted. -/
theorem perform_instantiate (hydrated : template.definition.hydrate configuration = .ok definition)
    {graph : Graph} (hcheck : (check definition).perform engine = (.ok graph, engine)) :
    let routine := engine.madeFrom template scope configuration name createdBy definition
    (instantiate template scope configuration name createdBy).perform engine =
      (do
        let _ ← add routine
        pure routine).perform { engine with made := engine.made + 2 } := by
  intro routine
  have hnow : (now : Work X Moment).perform engine =
      (.ok routine.created, { engine with made := engine.made + 1 }) := rfl
  have hfresh : (fresh : Work X String).perform { engine with made := engine.made + 1 } =
      (.ok routine.id, { engine with made := engine.made + 2 }) := rfl
  rw [instantiate, Operation.perform_bind_ok (perform_hydrate hydrated),
    Operation.perform_bind_ok hcheck, Operation.perform_bind_ok hnow,
    Operation.perform_bind_ok hfresh]
  exact congrArg (Operation.perform · _) (bind_assoc _ _ _).symm

end Instantiate

/-- Making a routine is refused, or it comes down to adding a routine with a new identifier. -/
theorem instantiate_begins (engine : Engine X) (template : Template) (scope : String)
    (configuration : Fields) (name createdBy : String) :
    engine.Refuses (instantiate template scope configuration name createdBy) ∨
      ∃ routine : Routine, routine.id = Identifier.ofNumber (engine.made + 1) ∧
        routine.version = 1 ∧ routine.status = .active ∧
        Graph.violations (rules engine.settings) routine.definition = [] ∧
        (instantiate template scope configuration name createdBy).perform engine =
          (do
            let _ ← add routine
            pure routine).perform { engine with made := engine.made + 2 } := by
  cases hydrated : template.definition.hydrate configuration with
  | error fault => exact .inl (.bind ⟨fault, perform_hydrate hydrated⟩ _)
  | ok definition =>
  rcases check_outcome engine definition with refused | ⟨graph, accepted, hcheck⟩
  · exact .inl (.of_bind (perform_hydrate hydrated) (refused.bind _))
  · exact .inr ⟨engine.madeFrom template scope configuration name createdBy definition, rfl, rfl,
      rfl, accepted, perform_instantiate hydrated hcheck⟩

section Record

variable {id : String}

theorem perform_listed (hstore : engine.store = kind.hold records)
    (hcontiguous : Snapshot.Contiguous (records.history id)) :
    (stored (Store.listSnapshots id)).perform engine = (.ok (records.history id), engine) := by
  rw [perform_stored_same hstore (Store.perform_listSnapshots id)]
  exact congrArg (fun history => (Except.ok history, engine)) hcontiguous.sorted_eq

theorem perform_record (hstore : engine.store = kind.hold records)
    (hcontiguous : Snapshot.Contiguous (records.history id))
    (hfits : kind.Fits ((records.history id).length + 1)) (definition : Definition)
    (createdBy : String) :
    let snapshot := records.nextSnapshot id definition createdBy
    (record id definition createdBy).perform engine =
      (.ok snapshot, engine.changed kind engine.made (records.insertSnapshot snapshot)
        [Memory.recordedNotice snapshot]) := by
  intro snapshot
  have hinsert : (stored (Store.insertSnapshot snapshot)).perform engine =
      (.ok (), { engine with store := kind.hold (records.insertSnapshot snapshot) }) :=
    perform_stored hstore
      (Store.perform_insertSnapshot (Memory.snapshot?_eq_none hcontiguous) hfits)
  rw [record, Operation.perform_bind_ok (perform_listed hstore hcontiguous),
    hcontiguous.nextVersion_eq]
  exact Operation.perform_bind_ok hinsert

theorem record_refused (hstore : engine.store = kind.hold records)
    (hcontiguous : Snapshot.Contiguous (records.history id))
    (hfits : ¬ kind.Fits ((records.history id).length + 1)) (definition : Definition)
    (createdBy : String) : engine.Refuses (record id definition createdBy) := by
  refine .of_bind (perform_listed hstore hcontiguous) (.bind ?_ _)
  rw [hcontiguous.nextVersion_eq]
  exact ⟨_, perform_stored_same hstore (Store.perform_insertSnapshot_of_not_fits hfits)⟩

/-- A routine that is new is stored, and its definition is recorded as the first version. -/
theorem perform_add {routine : Routine} (made : Nat) (hstore : engine.store = kind.hold records)
    (hempty : records.history routine.id = [])
    (hnew : ∀ r ∈ records.routines, r.id ≠ routine.id) (first : routine.version = 1) :
    let snapshot : Snapshot := ⟨routine.id, 1, routine.definition, routine.createdBy⟩
    (add routine).perform { engine with made } =
      (.ok snapshot, engine.changed kind made
        ({ records with routines := records.routines ++ [routine] }.insertSnapshot snapshot)
        [Memory.recordedNotice snapshot]) := by
  intro snapshot
  let added : Memory := { records with routines := records.routines ++ [routine] }
  have hinsert : (stored (Store.insertRoutine routine)).perform { engine with made } =
      (.ok (), { engine with store := kind.hold added, made }) :=
    perform_stored hstore (Store.perform_insertRoutine hnew (first ▸ kind.fits_one))
  have hsnapshot : added.nextSnapshot routine.id routine.definition routine.createdBy =
      snapshot := by
    rw [Memory.nextSnapshot, show added.history routine.id = [] from hempty]
    rfl
  rw [add, Operation.perform_bind_ok hinsert, ← hsnapshot]
  refine perform_record rfl (hempty ▸ .nil) ?_ routine.definition routine.createdBy
  rw [show added.history routine.id = [] from hempty]
  exact kind.fits_one

end Record

namespace Legible

variable {id : String} {routine : Routine}

theorem perform_routine? (h : engine.Legible kind records) (id : String) :
    (stored (Store.routine? id)).perform engine = (.ok (records.routine? id), engine) :=
  perform_stored_same h.store (Store.perform_routine? h.readable id)

theorem perform_routine (h : engine.Legible kind records)
    (found : records.routine? id = some routine) :
    (Engine.routine id none).perform engine = (.ok routine, engine) := by
  rw [Engine.routine, Operation.perform_bind_ok (h.perform_routine? id), found]
  rfl

theorem routine_refused (h : engine.Legible kind records) (missing : records.routine? id = none) :
    engine.Refuses (Engine.routine id none) := by
  refine .of_bind (h.perform_routine? id) ?_
  rw [missing]
  exact ⟨_, rfl⟩

theorem perform_editable (h : engine.Legible kind records)
    (found : records.routine? id = some routine) (unarchived : routine.status ≠ .archived) :
    (editable id).perform engine = (.ok routine, engine) := by
  rw [editable, Operation.perform_bind_ok (h.perform_routine found), if_neg unarchived]
  rfl

/-- A routine is there and may change, or asking for one that may change is refused. -/
theorem editable_outcome (h : engine.Legible kind records) (id : String) :
    engine.Refuses (editable id) ∨
      ∃ routine, records.routine? id = some routine ∧ routine.status ≠ .archived ∧
        (editable id).perform engine = (.ok routine, engine) := by
  cases found : records.routine? id with
  | none => exact .inl ((h.routine_refused found).bind _)
  | some routine =>
      by_cases archived : routine.status = .archived
      · refine .inl (.of_bind (h.perform_routine found) ?_)
        rw [if_pos archived]
        exact ⟨_, rfl⟩
      · exact .inr ⟨routine, rfl, archived, h.perform_editable found archived⟩

theorem perform_version (h : engine.Legible kind records) {number : Int} (hfits : kind.Fits number)
    {s : Snapshot} (found : records.snapshot? id number = some s) :
    (version id number).perform engine = (.ok s, engine) := by
  rw [version, Operation.perform_bind_ok
    (perform_stored_same h.store (Store.perform_snapshot? hfits id)), found]
  rfl

/-- A version is recorded, or asking for it is refused. -/
theorem version_outcome (h : engine.Legible kind records) (id : String) (number : Int) :
    engine.Refuses (version id number) ∨
      ∃ s ∈ records.history id, s.version = number ∧
        (version id number).perform engine = (.ok s, engine) := by
  by_cases hfits : kind.Fits number
  · cases found : records.snapshot? id number with
    | none =>
        refine .inl (.of_bind (perform_stored_same h.store (Store.perform_snapshot? hfits id)) ?_)
        rw [found]
        exact ⟨_, rfl⟩
    | some s =>
        have hkey := List.find?_some found
        simp only [Bool.and_eq_true, decide_eq_true_eq] at hkey
        have hmem : s ∈ records.history id :=
          List.mem_filter.mpr ⟨List.mem_of_find?_eq_some found, by simpa using hkey.1⟩
        exact .inr ⟨s, hmem, hkey.2, h.perform_version hfits found⟩
  · have hask : engine.Refuses (stored (Store.snapshot? id number)) := by
      refine ⟨.oversizeColumn number, perform_stored_same h.store ?_⟩
      exact Store.perform_snapshot?_of_not_fits hfits id
    exact .inl (hask.bind _)

/-- A version of a routine is recorded, unless there is no room for its number. -/
theorem record_outcome (h : engine.Legible kind records) (id : String) (definition : Definition)
    (createdBy : String) :
    let snapshot := records.nextSnapshot id definition createdBy
    engine.Refuses (record id definition createdBy) ∨
      (record id definition createdBy).perform engine =
        (.ok snapshot, engine.changed kind engine.made (records.insertSnapshot snapshot)
          [Memory.recordedNotice snapshot]) := by
  intro snapshot
  have hcontiguous := h.contiguous id
  by_cases hfits : kind.Fits ((records.history id).length + 1)
  · exact .inr (perform_record h.store hcontiguous hfits definition createdBy)
  · exact .inl (record_refused h.store hcontiguous hfits definition createdBy)

theorem perform_advance (h : engine.Legible kind records)
    (found : records.routine? id = some routine)
    (hfits : kind.Fits ((records.history id).length + 1)) (definition : Definition)
    (createdBy : String) :
    let snapshot := records.nextSnapshot id definition createdBy
    (advance id definition createdBy).perform engine =
      (.ok { routine with definition, version := snapshot.version },
        engine.changed kind engine.made (records.advanceTo snapshot)
          [Memory.recordedNotice snapshot]) := by
  intro snapshot
  have hrecord := perform_record h.store (h.contiguous id) hfits definition createdBy
  have hreadable : (records.insertSnapshot snapshot).Readable := h.readable
  have hpos : 1 ≤ snapshot.version := by
    change 1 ≤ ((records.history id).length : Int) + 1
    omega
  have hafter : (records.advanceTo snapshot).routine? id =
      some { routine with definition, version := snapshot.version } :=
    Memory.routine?_advanceTo found
  have hset : (stored (Store.setDefinition id definition snapshot.version)).perform
      (engine.changed kind engine.made (records.insertSnapshot snapshot)
        [Memory.recordedNotice snapshot]) =
      (.ok (some { routine with definition, version := snapshot.version }),
        engine.changed kind engine.made (records.advanceTo snapshot)
          [Memory.recordedNotice snapshot]) := by
    rw [← hafter]
    exact perform_stored rfl (Store.perform_setDefinition hreadable id definition hpos hfits)
  rw [advance, Operation.perform_bind_ok hrecord, Operation.perform_bind_ok hset]
  rfl

/-- A routine gets a definition as its next version, unless there is no room for its number. -/
theorem advance_outcome (h : engine.Legible kind records)
    (found : records.routine? id = some routine) (definition : Definition) (createdBy : String) :
    let snapshot := records.nextSnapshot id definition createdBy
    engine.Refuses (advance id definition createdBy) ∨
      (advance id definition createdBy).perform engine =
        (.ok { routine with definition, version := snapshot.version },
          engine.changed kind engine.made (records.advanceTo snapshot)
            [Memory.recordedNotice snapshot]) := by
  by_cases hfits : kind.Fits ((records.history id).length + 1)
  · exact .inr (h.perform_advance found hfits definition createdBy)
  · exact .inl
      ((record_refused h.store (h.contiguous id) hfits definition createdBy).bind _)

/-- A routine that may get the status does. -/
theorem perform_setStatus (h : engine.Legible kind records)
    (found : records.routine? id = some routine) {status : RoutineStatus}
    (allowed : routine.status.mayBecome status) :
    (setStatus id status).perform engine =
      (.ok { routine with status },
        engine.changed kind engine.made (records.updateRoutine id fun r => { r with status })
          [.statusChanged id routine.status status]) := by
  have hset := perform_stored h.store (Store.perform_setStatus h.readable id status)
  have hafter : (records.updateRoutine id fun r => { r with status }).routine? id =
      some { routine with status } := by
    rw [Memory.routine?_updateRoutine_self (by exact fun _ => rfl), found]
    rfl
  have hne : routine.status ≠ status := by
    rintro rfl
    cases hstatus : routine.status <;> simp [hstatus, RoutineStatus.mayBecome] at allowed
  rw [setStatus, Operation.perform_bind_ok (h.perform_routine found), if_neg hne,
    if_neg (by simp [allowed]), Operation.perform_bind_ok hset, hafter]
  rfl

/-- A routine that may not get the status stays as it is. -/
theorem perform_setStatus_snd (h : engine.Legible kind records)
    (found : records.routine? id = some routine) {status : RoutineStatus}
    (forbidden : ¬ routine.status.mayBecome status) :
    ((setStatus id status).perform engine).2 = engine := by
  rw [setStatus, Operation.perform_bind_ok (h.perform_routine found)]
  split
  · rfl
  · rw [if_pos (by simp [forbidden])]
    rfl

/-- A routine that has the status already keeps it, and one that may get it does. -/
theorem setStatus_outcome (h : engine.Legible kind records) (id : String) (status : RoutineStatus) :
    engine.Refuses (setStatus id status) ∨
      ∃ routine, records.routine? id = some routine ∧
        ((routine.status = status ∧ (setStatus id status).perform engine = (.ok routine, engine)) ∨
          (routine.status.mayBecome status ∧
            (setStatus id status).perform engine =
              (.ok { routine with status },
                engine.changed kind engine.made
                  (records.updateRoutine id fun r => { r with status })
                  [.statusChanged id routine.status status]))) := by
  cases found : records.routine? id with
  | none => exact .inl ((h.routine_refused found).bind _)
  | some routine =>
      have hperform := h.perform_routine found
      by_cases same : routine.status = status
      · refine .inr ⟨routine, rfl, .inl ⟨same, ?_⟩⟩
        rw [setStatus, Operation.perform_bind_ok hperform, if_pos same]
        rfl
      by_cases allowed : routine.status.mayBecome status
      · exact .inr ⟨routine, rfl, .inr ⟨allowed, h.perform_setStatus found allowed⟩⟩
      · refine .inl (.of_bind hperform ?_)
        rw [if_neg same, if_pos (by simp [allowed])]
        exact ⟨_, rfl⟩

theorem perform_rollback (h : engine.Legible kind records)
    (found : records.routine? id = some routine) (unarchived : routine.status ≠ .archived)
    {s : Snapshot} (recorded : records.snapshot? id s.version = some s)
    (hold : kind.Fits s.version) (hfits : kind.Fits ((records.history id).length + 1))
    (createdBy : String) :
    let snapshot := records.nextSnapshot id s.definition createdBy
    (rollback id s.version createdBy).perform engine =
      (.ok { routine with definition := s.definition, version := snapshot.version },
        engine.changed kind engine.made (records.advanceTo snapshot)
          [Memory.recordedNotice snapshot]) := by
  obtain rfl := (Memory.mem_of_routine? found).2
  rw [rollback, Operation.perform_bind_ok (h.perform_editable found unarchived),
    Operation.perform_bind_ok (h.perform_version hold recorded)]
  exact h.perform_advance found hfits s.definition createdBy

/-- A definition that is accepted becomes the next version of a routine that may change. -/
theorem updateDefinition_outcome (h : engine.Legible kind records) (id : String)
    (definition : Definition) (createdBy : String) :
    let snapshot := records.nextSnapshot id definition createdBy
    engine.Refuses (updateDefinition id definition createdBy) ∨
      ∃ routine, records.routine? id = some routine ∧ routine.status ≠ .archived ∧
        Graph.violations (rules engine.settings) definition = [] ∧
        (updateDefinition id definition createdBy).perform engine =
          (.ok { routine with definition, version := snapshot.version },
            engine.changed kind engine.made (records.advanceTo snapshot)
              [Memory.recordedNotice snapshot]) := by
  intro snapshot
  rcases h.editable_outcome id with refused | ⟨routine, found, editable, heditable⟩
  · exact .inl (refused.bind _)
  rcases check_outcome engine definition with refused | ⟨graph, accepted, hcheck⟩
  · exact .inl (.of_bind heditable (refused.bind _))
  obtain rfl := (Memory.mem_of_routine? found).2
  rcases h.advance_outcome found definition createdBy with refused | hadvance
  · exact .inl (.of_bind heditable (.of_bind hcheck refused))
  · refine .inr ⟨routine, found, editable, accepted, ?_⟩
    rw [updateDefinition, Operation.perform_bind_ok heditable, Operation.perform_bind_ok hcheck,
      hadvance]

/-- The definition of a recorded version becomes the next version of a routine that may change. -/
theorem rollback_outcome (h : engine.Legible kind records) (id : String) (number : Int)
    (createdBy : String) :
    engine.Refuses (rollback id number createdBy) ∨
      ∃ routine, records.routine? id = some routine ∧ routine.status ≠ .archived ∧
        ∃ s ∈ records.history id, s.version = number ∧
          let snapshot := records.nextSnapshot id s.definition createdBy
          (rollback id number createdBy).perform engine =
            (.ok { routine with definition := s.definition, version := snapshot.version },
              engine.changed kind engine.made (records.advanceTo snapshot)
                [Memory.recordedNotice snapshot]) := by
  rcases h.editable_outcome id with refused | ⟨routine, found, editable, heditable⟩
  · exact .inl (refused.bind _)
  rcases h.version_outcome id number with refused | ⟨s, hs, hnumber, hversion⟩
  · exact .inl (.of_bind heditable (refused.bind _))
  obtain rfl := (Memory.mem_of_routine? found).2
  rcases h.advance_outcome found s.definition createdBy with refused | hadvance
  · exact .inl (.of_bind heditable (.of_bind hversion refused))
  · refine .inr ⟨routine, found, editable, s, hs, hnumber, ?_⟩
    rw [rollback, Operation.perform_bind_ok heditable, Operation.perform_bind_ok hversion,
      hadvance]

end Legible

/-- A routine whose definition is accepted is made with its first version. -/
theorem Keeps.perform_instantiate (h : engine.Keeps kind records) {template : Template}
    {configuration : Fields} {definition : Definition}
    (hydrated : template.definition.hydrate configuration = .ok definition)
    {graph : Graph} (hcheck : (check definition).perform engine = (.ok graph, engine))
    (scope name createdBy : String) :
    let routine := engine.madeFrom template scope configuration name createdBy definition
    let snapshot : Snapshot := ⟨routine.id, 1, routine.definition, routine.createdBy⟩
    (instantiate template scope configuration name createdBy).perform engine =
      (.ok routine, engine.changed kind (engine.made + 2)
        ({ records with routines := records.routines ++ [routine] }.insertSnapshot snapshot)
        [Memory.recordedNotice snapshot]) := by
  intro routine snapshot
  have hnew : ∀ r ∈ records.routines, r.id ≠ routine.id :=
    h.chronicled.ne_of_fresh (Nat.le_succ engine.made) rfl
  have hadd := perform_add (engine.made + 2) h.store (h.chronicled.history_eq_nil hnew) hnew rfl
  exact (Engine.perform_instantiate hydrated hcheck).trans (Operation.perform_bind_ok hadd)

/-- A routine is made with its first version, or its definition is refused. -/
theorem Keeps.instantiate_outcome (h : engine.Keeps kind records) (template : Template)
    (scope : String) (configuration : Fields) (name createdBy : String) :
    engine.Refuses (instantiate template scope configuration name createdBy) ∨
      ∃ routine : Routine, routine.id = Identifier.ofNumber (engine.made + 1) ∧
        routine.version = 1 ∧ routine.status = .active ∧
        Graph.violations (rules engine.settings) routine.definition = [] ∧
        let snapshot : Snapshot := ⟨routine.id, 1, routine.definition, routine.createdBy⟩
        (instantiate template scope configuration name createdBy).perform engine =
          (.ok routine, engine.changed kind (engine.made + 2)
            ({ records with routines := records.routines ++ [routine] }.insertSnapshot snapshot)
            [Memory.recordedNotice snapshot]) := by
  cases hydrated : template.definition.hydrate configuration with
  | error fault => exact .inl (.bind ⟨fault, perform_hydrate hydrated⟩ _)
  | ok definition =>
  rcases check_outcome engine definition with refused | ⟨graph, accepted, hcheck⟩
  · exact .inl (.of_bind (perform_hydrate hydrated) (refused.bind _))
  · exact .inr ⟨engine.madeFrom template scope configuration name createdBy definition, rfl, rfl,
      rfl, accepted, h.perform_instantiate hydrated hcheck scope name createdBy⟩

end Engine

/-- What may be asked of the life of routines. -/
inductive Call where
  /-- Make a routine. -/
  | instantiate (template : Template) (scope : String) (configuration : Fields)
      (name createdBy : String)
  /-- Record a version of a routine that is stored. -/
  | snapshot (id : String) (definition : Definition) (createdBy : String)
  /-- Give a routine another definition. -/
  | updateDefinition (id : String) (definition : Definition) (createdBy : String)
  /-- Give a routine the definition of a recorded version. -/
  | rollback (id : String) (number : Int) (createdBy : String)
  /-- Pause, activate or archive a routine. -/
  | setStatus (id : String) (status : RoutineStatus)
  deriving DecidableEq, Repr

namespace Call

variable {X : Type} {engine : Engine X} {kind : StoreKind} {records : Memory}

/-- Carry a call out, whatever it gives back. -/
def operation : Call → Engine.Work X Unit
  | .instantiate template scope configuration name createdBy => do
    let _ ← Engine.instantiate template scope configuration name createdBy
  | .snapshot id definition createdBy => do
    let found ← Engine.routine id none
    let _ ← Engine.record found.id definition createdBy
  | .updateDefinition id definition createdBy => do
    let _ ← Engine.updateDefinition id definition createdBy
  | .rollback id number createdBy => do
    let _ ← Engine.rollback id number createdBy
  | .setStatus id status => do
    let _ ← Engine.setStatus id status

/-- The engine after a call, however the call ended. -/
def after (call : Call) (engine : Engine X) : Engine X := (call.operation.perform engine).2

theorem perform_ignored {α : Type} {operation : Engine.Work X α} {outcome : Except Fault α}
    {engine' : Engine X} (h : operation.perform engine = (outcome, engine')) :
    (Operation.perform (do let _ ← operation : Engine.Work X Unit) engine).2 = engine' := by
  rw [Operation.perform_bind, h]
  cases outcome <;> rfl

/-- The engine afterwards has changed its records in one of the ways there are. -/
def Changes (engine : Engine X) (kind : StoreKind) (records : Memory) (engine' : Engine X) : Prop :=
  ∃ made records' told,
    Memory.Change (Engine.rules engine.settings) engine.made records made records' told ∧
      engine' = engine.changed kind made records' told

/-- What a call writes: nothing, or what it says. -/
inductive Writes (rules : Graph.Rules) (records : Memory) : Call → Memory → Prop
  | nothing (call : Call) : Writes rules records call records
  | added {template : Template} {scope : String} {configuration : Fields} {name createdBy : String}
      (routine : Routine) (accepted : Graph.violations rules routine.definition = []) :
      Writes rules records (.instantiate template scope configuration name createdBy)
        ({ records with routines := records.routines ++ [routine] }.insertSnapshot
          ⟨routine.id, 1, routine.definition, routine.createdBy⟩)
  | recorded (id : String) (definition : Definition) (createdBy : String) :
      Writes rules records (.snapshot id definition createdBy)
        (records.insertSnapshot (records.nextSnapshot id definition createdBy))
  | updated (id : String) {definition : Definition} (createdBy : String)
      (accepted : Graph.violations rules definition = []) :
      Writes rules records (.updateDefinition id definition createdBy)
        (records.advanceTo (records.nextSnapshot id definition createdBy))
  | returned {id : String} (createdBy : String) {old : Snapshot}
      (hold : old ∈ records.history id) :
      Writes rules records (.rollback id old.version createdBy)
        (records.advanceTo (records.nextSnapshot id old.definition createdBy))
  | moved (id : String) (status : RoutineStatus) :
      Writes rules records (.setStatus id status)
        (records.updateRoutine id fun r => { r with status })

/-- Whatever is asked, the records change in one of the ways there are, and as the call says. -/
theorem writes (h : engine.Keeps kind records) (call : Call) :
    ∃ made records' told,
      Memory.Change (Engine.rules engine.settings) engine.made records made records' told ∧
        call.after engine = engine.changed kind made records' told ∧
        call.Writes (Engine.rules engine.settings) records records' := by
  have kept (same : call.after engine = engine) : ∃ made records' told,
      Memory.Change (Engine.rules engine.settings) engine.made records made records' told ∧
        call.after engine = engine.changed kind made records' told ∧
        call.Writes (Engine.rules engine.settings) records records' := by
    refine ⟨engine.made, records, [], .kept, ?_, .nothing call⟩
    rw [same, Engine.changed, ← h.store, List.append_nil]
  cases call with
  | instantiate template scope configuration name createdBy =>
      rcases h.instantiate_outcome template scope configuration name createdBy with
        ⟨_, refused⟩ | ⟨routine, named, version, active, accepted, made⟩
      · exact kept (perform_ignored refused)
      · exact ⟨_, _, _, .created routine (by omega) named active accepted _ rfl version,
          perform_ignored made, .added routine accepted⟩
  | snapshot id definition createdBy =>
      cases found : records.routine? id with
      | none =>
          obtain ⟨_, refused⟩ := (h.legible.routine_refused found).bind fun found => do
            let _ ← Engine.record found.id definition createdBy
          exact kept (congrArg Prod.snd refused)
      | some routine =>
          obtain rfl := (Memory.mem_of_routine? found).2
          have hafter : (snapshot routine.id definition createdBy).after engine = _ :=
            congrArg Prod.snd (Operation.perform_bind_ok (h.legible.perform_routine found))
          rcases h.legible.record_outcome routine.id definition createdBy with
            ⟨_, refused⟩ | recorded
          · exact kept (hafter.trans (perform_ignored refused))
          · have next := records.continues_nextSnapshot routine.id definition createdBy
            exact ⟨_, _, _, .noted _ found next, hafter.trans (perform_ignored recorded),
              .recorded routine.id definition createdBy⟩
  | updateDefinition id definition createdBy =>
      rcases h.legible.updateDefinition_outcome id definition createdBy with
        ⟨_, refused⟩ | ⟨routine, found, editable, accepted, updated⟩
      · exact kept (perform_ignored refused)
      · have next := records.continues_nextSnapshot id definition createdBy
        exact ⟨_, _, _, .advanced _ found editable next (.inl accepted), perform_ignored updated,
          .updated id createdBy accepted⟩
  | rollback id number createdBy =>
      rcases h.legible.rollback_outcome id number createdBy with
        ⟨_, refused⟩ | ⟨routine, found, editable, s, hs, rfl, updated⟩
      · exact kept (perform_ignored refused)
      · have next := records.continues_nextSnapshot id s.definition createdBy
        exact ⟨_, _, _, .advanced _ found editable next (.inr ⟨s, hs, rfl⟩),
          perform_ignored updated, .returned createdBy hs⟩
  | setStatus id status =>
      rcases h.legible.setStatus_outcome id status with
        ⟨_, refused⟩ | ⟨routine, found, ⟨_, same⟩ | ⟨allowed, moved⟩⟩
      · exact kept (perform_ignored refused)
      · exact kept (perform_ignored same)
      · exact ⟨_, _, _, .moved id status found allowed, perform_ignored moved, .moved id status⟩

theorem changes (h : engine.Keeps kind records) (call : Call) :
    Changes engine kind records (call.after engine) := by
  obtain ⟨made, records', told, change, hafter, -⟩ := writes h call
  exact ⟨made, records', told, change, hafter⟩

end Call

end Workflow
