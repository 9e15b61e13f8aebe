import Workflow.Proofs.Lifecycle.History

/-!
# What observers are told of the life of a routine

Observers are told of each version that is recorded and of each change of a status. This is done at
other moments than the writes: after a version is recorded but before the routine gets it, and after
a status is written. `Memory.Told` says how the notices and the records belong together after every
single write, so what observers were told can be played back to what is stored, however the calls
ended and whatever the observers made of it.
-/

namespace Workflow

namespace RoutineStatus

/-- The moves follow one another from one status to another: each begins where the one before ended,
ends elsewhere, and does not begin in archived. -/
inductive Moves : RoutineStatus → List (RoutineStatus × RoutineStatus) → RoutineStatus → Prop
  | none (status : RoutineStatus) : Moves status [] status
  | next {source target last : RoutineStatus} {later : List (RoutineStatus × RoutineStatus)}
      (elsewhere : source ≠ target) (unarchived : source ≠ .archived)
      (rest : Moves target later last) : Moves source ((source, target) :: later) last

theorem ne_of_mayBecome {source target : RoutineStatus} (h : source.mayBecome target) :
    source ≠ target ∧ source ≠ .archived := by
  revert h
  cases source <;> cases target <;> decide

theorem Moves.append {first source target : RoutineStatus}
    {moves : List (RoutineStatus × RoutineStatus)} (h : Moves first moves source)
    (allowed : source.mayBecome target) : Moves first (moves ++ [(source, target)]) target := by
  induction h with
  | none source =>
      obtain ⟨elsewhere, unarchived⟩ := ne_of_mayBecome allowed
      exact .next elsewhere unarchived (.none target)
  | next elsewhere unarchived _ ih => exact .next elsewhere unarchived (ih allowed)

end RoutineStatus

namespace Notice

/-- The version of a routine that is told of, and who recorded it. -/
def version? (id : String) : Notice → Option (Int × String)
  | .versionCreated routine version createdBy =>
    if routine = id then some (version, createdBy) else none
  | _ => none

/-- The change of the status of a routine that is told of. -/
def move? (id : String) : Notice → Option (RoutineStatus × RoutineStatus)
  | .statusChanged routine source target => if routine = id then some (source, target) else none
  | _ => none

end Notice

/-- What observers are told of a snapshot of a routine. -/
def Snapshot.mark (snapshot : Snapshot) : Int × String := (snapshot.version, snapshot.createdBy)

namespace Memory

variable {records : Memory} {notices : List Notice} {id : String}

theorem routine?_updateRoutine_eq_none_iff {f : Routine → Routine} (hid : ∀ r, (f r).id = r.id)
    {other : String} :
    (records.updateRoutine other f).routine? id = none ↔ records.routine? id = none := by
  by_cases heq : other = id
  · subst heq
    rw [routine?_updateRoutine_self hid, Option.map_eq_none_iff]
  · rw [routine?_updateRoutine_of_ne hid records heq]

/-- Observers were told of every version that is recorded, and of every change of the status of a
routine since it was made. -/
structure Told (records : Memory) (notices : List Notice) : Prop where
  versions : ∀ id, notices.filterMap (Notice.version? id) = (records.history id).map Snapshot.mark
  moves : ∀ id r, records.routine? id = some r →
    RoutineStatus.Moves .active (notices.filterMap (Notice.move? id)) r.status
  unmoved : ∀ id, records.routine? id = none → notices.filterMap (Notice.move? id) = []

namespace Told

theorem empty : Told {} [] :=
  ⟨fun _ => rfl, fun _ _ found => absurd found nofun, fun _ _ => rfl⟩

theorem insertSnapshot (h : records.Told notices) (snapshot : Snapshot) :
    (records.insertSnapshot snapshot).Told (notices ++ [recordedNotice snapshot]) := by
  have hmoves (id : String) : (notices ++ [recordedNotice snapshot]).filterMap (Notice.move? id) =
      notices.filterMap (Notice.move? id) := by
    rw [List.filterMap_append]
    exact List.append_nil _
  refine ⟨fun id => ?_, fun id r found => ?_, fun id missing => ?_⟩
  · rw [List.filterMap_append, h.versions]
    by_cases heq : snapshot.routine = id
    · subst heq
      rw [history_insertSnapshot_self, List.map_append]
      simp [recordedNotice, Notice.version?, Snapshot.mark]
    · rw [history_insertSnapshot_of_ne records heq]
      simp [recordedNotice, Notice.version?, heq]
  · exact hmoves id ▸ h.moves id r found
  · exact hmoves id ▸ h.unmoved id missing

theorem addRoutine (h : records.Told notices) {routine : Routine}
    (hnew : records.routine? routine.id = none) (active : routine.status = .active) :
    Told { records with routines := records.routines ++ [routine] } notices where
  versions := h.versions
  moves := by
    intro id r found
    rw [routine?_addRoutine hnew] at found
    split at found
    · rename_i heq
      cases found
      rw [← heq, h.unmoved routine.id hnew, active]
      exact .none .active
    · exact h.moves id r found
  unmoved := by
    intro id missing
    rw [routine?_addRoutine hnew] at missing
    split at missing
    · cases missing
    · exact h.unmoved id missing

/-- Nothing is told of what leaves the status as it is. -/
theorem updateRoutine (h : records.Told notices) {f : Routine → Routine}
    (hid : ∀ r, (f r).id = r.id) (hstatus : ∀ r, (f r).status = r.status) (other : String) :
    (records.updateRoutine other f).Told notices where
  versions := h.versions
  moves := by
    intro id r found
    by_cases heq : other = id
    · subst heq
      rw [routine?_updateRoutine_self hid] at found
      obtain ⟨before, hbefore, rfl⟩ := Option.map_eq_some_iff.mp found
      exact hstatus before ▸ h.moves other before hbefore
    · rw [routine?_updateRoutine_of_ne hid records heq] at found
      exact h.moves id r found
  unmoved id missing := h.unmoved id ((routine?_updateRoutine_eq_none_iff hid).mp missing)

theorem setStatus (h : records.Told notices) {routine : Routine} {status : RoutineStatus}
    (found : records.routine? id = some routine) (allowed : routine.status.mayBecome status) :
    (records.updateRoutine id fun r => { r with status }).Told
      (notices ++ [.statusChanged id routine.status status]) := by
  let told := notices ++ [Notice.statusChanged id routine.status status]
  have hself : told.filterMap (Notice.move? id) =
      notices.filterMap (Notice.move? id) ++ [(routine.status, status)] := by
    simp [told, Notice.move?]
  have hother {other : String} (hne : id ≠ other) :
      told.filterMap (Notice.move? other) = notices.filterMap (Notice.move? other) := by
    simp [told, Notice.move?, hne]
  refine ⟨fun other => ?_, fun other r hr => ?_, fun other missing => ?_⟩
  · rw [List.filterMap_append, h.versions]
    exact List.append_nil _
  · by_cases heq : id = other
    · subst heq
      rw [routine?_updateRoutine_self (by exact fun _ => rfl), found] at hr
      cases hr
      exact hself ▸ (h.moves id routine found).append allowed
    · rw [routine?_updateRoutine_of_ne (by exact fun _ => rfl) records heq] at hr
      exact hother heq ▸ h.moves other r hr
  · rw [routine?_updateRoutine_eq_none_iff (by exact fun _ => rfl)] at missing
    have hne : id ≠ other := by
      rintro rfl
      cases found.symm.trans missing
    exact hother hne ▸ h.unmoved other missing

end Told

end Memory

/-- What may be asked of the life of routines, where a version may also be recorded of a routine
that is not stored. -/
inductive Deed where
  /-- Anything that is asked of routines that are stored. -/
  | call (asked : Call)
  /-- Record a version of whatever routine. -/
  | record (id : String) (definition : Definition) (createdBy : String)
  deriving DecidableEq, Repr

/-- The engine after a deed, however the deed ended. -/
def Deed.after {X : Type} (engine : Engine X) : Deed → Engine X
  | .call asked => asked.after engine
  | .record id definition createdBy => ((Engine.record id definition createdBy).perform engine).2

namespace Engine

variable {X α : Type} {engine : Engine X} {kind : StoreKind} {records : Memory} {id : String}

/-- The engine after deeds in a row. -/
def afterDeeds (engine : Engine X) (deeds : List Deed) : Engine X :=
  deeds.foldl Deed.after engine

/-- The engine keeps records that observers were told of, and no routine has an identifier that is
still to be given. -/
structure Logs (engine : Engine X) (kind : StoreKind) (records : Memory) : Prop extends
    engine.Legible kind records where
  fresh : ∀ n, engine.made ≤ n → records.routine? (Identifier.ofNumber n) = none
  told : records.Told engine.notices

/-- What observers were told plays back to what the engine stores. -/
def Logged (kind : StoreKind) (engine : Engine X) : Prop := ∃ records, engine.Logs kind records

theorem Logged.of_refuses (h : engine.Logged kind) {operation : Work X α}
    (refused : engine.Refuses operation) : (operation.perform engine).2.Logged kind := by
  obtain ⟨fault, hfault⟩ := refused
  rwa [hfault]

namespace Logs

theorem logged (h : engine.Logs kind records) : engine.Logged kind := ⟨records, h⟩

/-- Recording a version does not need the routine to be stored. -/
theorem record (h : engine.Logs kind records) (id : String) (definition : Definition)
    (createdBy : String) : ((record id definition createdBy).perform engine).2.Logged kind := by
  rcases h.record_outcome id definition createdBy with refused | recorded
  · exact h.logged.of_refuses refused
  · rw [recorded]
    have next := records.continues_nextSnapshot id definition createdBy
    exact ⟨_, ⟨rfl, h.readable, Memory.contiguous_insertSnapshot h.contiguous next⟩, h.fresh,
      h.told.insertSnapshot _⟩

theorem advanced (h : engine.Logs kind records) (id : String) (definition : Definition)
    (createdBy : String) :
    let snapshot := records.nextSnapshot id definition createdBy
    (engine.changed kind engine.made (records.advanceTo snapshot)
      [Memory.recordedNotice snapshot]).Logged kind := by
  intro snapshot
  have next : records.Continues snapshot := records.continues_nextSnapshot id definition createdBy
  have hreadable : (records.insertSnapshot snapshot).Readable := h.readable
  refine ⟨_, ⟨rfl, hreadable.updateRoutine fun _ _ => ?_,
    Memory.contiguous_insertSnapshot h.contiguous next⟩, fun n hn => ?_, ?_⟩
  · change 1 ≤ ((records.history id).length : Int) + 1
    omega
  · exact (Memory.routine?_updateRoutine_eq_none_iff (by exact fun _ => rfl)).mpr (h.fresh n hn)
  · exact (h.told.insertSnapshot snapshot).updateRoutine (by exact fun _ => rfl)
      (by exact fun _ => rfl) id

theorem updateDefinition (h : engine.Logs kind records) (id : String) (definition : Definition)
    (createdBy : String) :
    ((updateDefinition id definition createdBy).perform engine).2.Logged kind := by
  rcases h.updateDefinition_outcome id definition createdBy with refused | ⟨_, -, -, -, updated⟩
  · exact h.logged.of_refuses refused
  · rw [updated]
    exact h.advanced id definition createdBy

theorem rollback (h : engine.Logs kind records) (id : String) (number : Int) (createdBy : String) :
    ((rollback id number createdBy).perform engine).2.Logged kind := by
  rcases h.rollback_outcome id number createdBy with refused | ⟨_, -, -, s, -, -, updated⟩
  · exact h.logged.of_refuses refused
  · rw [updated]
    exact h.advanced id s.definition createdBy

theorem setStatus (h : engine.Logs kind records) (id : String) (status : RoutineStatus) :
    ((setStatus id status).perform engine).2.Logged kind := by
  rcases h.setStatus_outcome id status with
    refused | ⟨routine, found, ⟨-, same⟩ | ⟨allowed, moved⟩⟩
  · exact h.logged.of_refuses refused
  · rw [same]
    exact h.logged
  · rw [moved]
    refine ⟨_, ⟨rfl, h.readable.updateRoutine fun _ hr => hr, h.contiguous⟩, fun n hn => ?_,
      h.told.setStatus found allowed⟩
    exact (Memory.routine?_updateRoutine_eq_none_iff (by exact fun _ => rfl)).mpr (h.fresh n hn)

/-- The identifier of a new routine was not given before, so nothing was told of its status. -/
theorem instantiate (h : engine.Logs kind records) (template : Template) (scope : String)
    (configuration : Fields) (name createdBy : String) :
    ((instantiate template scope configuration name createdBy).perform engine).2.Logged kind := by
  rcases instantiate_begins engine template scope configuration name createdBy with
    refused | ⟨routine, named, version, active, -, hbegins⟩
  · exact h.logged.of_refuses refused
  have hnew : records.routine? routine.id = none := named ▸ h.fresh _ (Nat.le_succ _)
  let added : Memory := { records with routines := records.routines ++ [routine] }
  have hinsert : (stored (Store.insertRoutine routine)).perform
      { engine with made := engine.made + 2 } =
        (.ok (), { engine with store := kind.hold added, made := engine.made + 2 }) :=
    perform_stored h.store
      (Store.perform_insertRoutine (Memory.ne_of_routine?_eq_none hnew) (version ▸ kind.fits_one))
  have hlogs :
      Logs { engine with store := kind.hold added, made := engine.made + 2 } kind added := by
    refine ⟨⟨rfl, ?_, h.contiguous⟩, fun n hn => ?_, h.told.addRoutine hnew active⟩
    · intro r hr
      rcases List.mem_append.mp hr with hr | hr
      · exact h.readable r hr
      · obtain rfl := List.mem_singleton.mp hr
        exact version ▸ Int.le_refl 1
    · have hle : engine.made + 2 ≤ n := hn
      rw [Memory.routine?_addRoutine hnew, if_neg]
      · exact h.fresh n (by omega)
      · intro heq
        have := Identifier.ofNumber_injective (named.symm.trans heq)
        omega
  rw [hbegins, Operation.perform_bind_snd fun _ _ => rfl, add, Operation.perform_bind_ok hinsert]
  exact hlogs.record routine.id routine.definition routine.createdBy

theorem after (h : engine.Logs kind records) (call : Call) : (call.after engine).Logged kind := by
  rw [Call.after]
  cases call with
  | instantiate template scope configuration name createdBy =>
      rw [Call.operation, Operation.perform_bind_snd fun _ _ => rfl]
      exact h.instantiate template scope configuration name createdBy
  | snapshot id definition createdBy =>
      cases found : records.routine? id with
      | none => exact h.logged.of_refuses ((h.routine_refused found).bind _)
      | some routine =>
          rw [Call.operation, Operation.perform_bind_ok (h.perform_routine found),
            Operation.perform_bind_snd fun _ _ => rfl]
          exact h.record routine.id definition createdBy
  | updateDefinition id definition createdBy =>
      rw [Call.operation, Operation.perform_bind_snd fun _ _ => rfl]
      exact h.updateDefinition id definition createdBy
  | rollback id number createdBy =>
      rw [Call.operation, Operation.perform_bind_snd fun _ _ => rfl]
      exact h.rollback id number createdBy
  | setStatus id status =>
      rw [Call.operation, Operation.perform_bind_snd fun _ _ => rfl]
      exact h.setStatus id status

end Logs

theorem Logged.afterDeeds (h : engine.Logged kind) (deeds : List Deed) :
    (engine.afterDeeds deeds).Logged kind := by
  induction deeds generalizing engine with
  | nil => exact h
  | cons deed rest ih =>
      obtain ⟨records, h⟩ := h
      cases deed with
      | call asked => exact ih (h.after asked)
      | record id definition createdBy => exact ih (h.record id definition createdBy)

/-- However deeds follow each other and end, and whatever observers make of what they are told, it
plays back to what is stored. Of each routine they were told of the versions that are listed, in
order and from one on, with who recorded them; and of moves from active that follow one another to
the status of the routine, none of which begins in archived or leaves the status as it is. -/
theorem notices_play_back (kind : StoreKind) (engine : Engine X) (deeds : List Deed) :
    let after := { engine with store := kind.hold {}, notices := [] }.afterDeeds deeds
    (∀ id, ∃ history, after.store.Lists id history ∧ Snapshot.Contiguous history ∧
      after.notices.filterMap (Notice.version? id) = history.map Snapshot.mark) ∧
    (∀ r, after.store.Finds r →
      RoutineStatus.Moves .active (after.notices.filterMap (Notice.move? r.id)) r.status) ∧
    ∀ id, after.notices.filterMap (Notice.move? id) ≠ [] →
      ∃ r, r.id = id ∧ after.store.Finds r := by
  intro after
  have hstart : ({ engine with store := kind.hold {}, notices := [] } : Engine X).Logs kind {} :=
    ⟨⟨rfl, nofun, fun _ => rfl⟩, fun _ _ => rfl, .empty⟩
  obtain ⟨records, h⟩ := hstart.logged.afterDeeds deeds
  refine ⟨fun id => ⟨records.history id, h.lists_iff.mpr rfl, h.contiguous id,
    h.told.versions id⟩, fun r found => h.told.moves r.id r (h.finds_iff.mp found), ?_⟩
  intro id moved
  cases found : records.routine? id with
  | none => exact absurd (h.told.unmoved id found) moved
  | some r =>
      obtain ⟨-, rfl⟩ := Memory.mem_of_routine? found
      exact ⟨r, rfl, h.finds_iff.mpr found⟩

end Engine

end Workflow
