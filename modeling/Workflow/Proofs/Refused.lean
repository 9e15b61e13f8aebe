import Workflow.Engine.Catalog
import Workflow.Proofs.Lifecycle.Accepted

/-!
# Refused demands

Everything that is asked of routines, templates and conversations is looked at before anything is
written: whether the routine is there and may change, whether the definition is accepted, whether
the conversation waits. What comes after the first write can fail only for what is stored or for a
configuration, which is no refusal. A demand that is refused therefore leaves the engine exactly as
it was, whatever state the engine is in.
-/

namespace Workflow

open Operation (Respects Retains Traceless)

namespace Store

variable {α : Type} {kind : Fault → Bool}

section Rows

theorem avoids_readRoutine (row : RoutineRow) : Avoids Fault.isRefusal row.read := by
  have hstatus : Avoids Fault.isRefusal (Fault.statusNamed row.status) := by
    unfold Fault.statusNamed
    split
    · exact .ok _
    · exact .error rfl
  exact .bind hstatus fun _ => .bind (timely_check _ _ _) fun _ => .ite (.error rfl) (.ok _)

theorem avoids_readVersion (row : VersionRow) : Avoids Fault.isRefusal row.read :=
  .bind (timely_check _ _ _) fun _ => .ok _

theorem avoids_readFirst {ρ : Type} {read : ρ → Except Fault α}
    (h : ∀ row, Avoids kind (read row)) (test : ρ → Bool) (rows : List ρ) :
    Avoids kind (Tables.readFirst read test rows) := by
  unfold Tables.readFirst
  split
  · exact .map _ (h _)
  · exact .ok _

theorem avoids_mapM {ρ : Type} {read : ρ → Except Fault α} (h : ∀ row, Avoids kind (read row))
    (rows : List ρ) : Avoids kind (rows.mapM read) := by
  induction rows with
  | nil => exact .ok _
  | cons row rest ih =>
      rw [List.mapM_cons]
      exact .bind (h row) fun _ => .bind ih fun _ => .ok _

theorem avoids_checkColumn (n : Int) : Avoids Fault.isRefusal (Tables.checkColumn n) :=
  .ite (.ok _) (.error rfl)

end Rows

theorem avoids_ask {ofMemory : Memory → α} {ofTables : Tables → Except Fault α}
    (h : ∀ rows, Avoids kind (ofTables rows)) : Operation.Avoids kind (ask ofMemory ofTables) := by
  intro store
  cases store with
  | memory records => exact .ok _
  | tables rows => exact h rows

section Change

variable {inMemory : Memory → Except Fault Memory} {onTables : Tables → Except Fault Tables}

theorem avoids_change (hmemory : ∀ records, Avoids kind (inMemory records))
    (htables : ∀ rows, Avoids kind (onTables rows)) :
    Operation.Avoids kind (change inMemory onTables) := by
  intro store
  cases store with
  | memory records => exact Operation.Avoids.bind (.ofExcept (hmemory records)) (fun _ _ => .ok _) _
  | tables rows => exact Operation.Avoids.bind (.ofExcept (htables rows)) (fun _ _ => .ok _) _

/-- A change that fails is not made. -/
theorem traceless_change (store : Store) : Traceless kind (change inMemory onTables) store := by
  refine .bind rfl fun found hfound => ?_
  obtain rfl : store = found := Except.ok.inj (congrArg Prod.fst hfound)
  cases store with
  | memory records => exact .bind rfl fun _ _ => .of_avoids (.ok _)
  | tables rows => exact .bind rfl fun _ _ => .of_avoids (.ok _)

/-- What every version that may be written has, the store has afterwards. -/
theorem retains_change {P : Store → Prop}
    (hmemory : ∀ records after, inMemory records = .ok after → P (.memory records) →
      P (.memory after))
    (htables : ∀ rows after, onTables rows = .ok after → P (.tables rows) → P (.tables after)) :
    Respects (Retains P) (change inMemory onTables) := by
  intro store h
  cases store with
  | memory records =>
      cases hafter : inMemory records with
      | error fault => simpa [change, Operation.perform_bind, hafter] using h
      | ok after =>
          simpa [change, Operation.perform_bind, hafter] using hmemory records after hafter h
  | tables rows =>
      cases hafter : onTables rows with
      | error fault => simpa [change, Operation.perform_bind, hafter] using h
      | ok after =>
          simpa [change, Operation.perform_bind, hafter] using htables rows after hafter h

end Change

section Routine

/-- A routine with the id is stored. -/
def Holds (id : String) : Store → Prop
  | .memory records => ∃ routine ∈ records.routines, routine.id = id
  | .tables rows => ∃ row ∈ rows.routines, row.id = id

theorem id_of_read {row : RoutineRow} {routine : Routine} (h : row.read = .ok routine) :
    routine.id = row.id := by
  obtain ⟨status, -, h⟩ := exists_of_bind_eq_ok h
  obtain ⟨definition, -, h⟩ := exists_of_bind_eq_ok h
  split at h
  · cases h
  · cases h
    rfl

/-- A routine that is found is stored under its id. -/
theorem holds_of_routine? {store : Store} {id : String} {routine : Routine}
    (h : ((routine? id).perform store).1 = .ok (some routine)) :
    routine.id = id ∧ store.Holds routine.id := by
  cases store with
  | memory records =>
      obtain ⟨hmem, hid⟩ := Memory.mem_of_routine? (Except.ok.inj h)
      exact ⟨hid, routine, hmem, rfl⟩
  | tables rows =>
      change Tables.readFirst _ _ _ = _ at h
      unfold Tables.readFirst at h
      split at h
      · rename_i row hrow
        cases hread : row.read with
        | error fault => rw [hread] at h; cases h
        | ok found =>
            rw [hread] at h
            obtain rfl : found = routine := Option.some.inj (Except.ok.inj h)
            have hid : row.id = id := by simpa using List.find?_some hrow
            exact ⟨(id_of_read hread).trans hid, row, List.mem_of_find?_eq_some hrow,
              (id_of_read hread).symm⟩
      · cases h

/-- A routine that is stored is never answered to be missing. -/
theorem routine?_ne_none {store : Store} {id : String} (h : store.Holds id) :
    ((routine? id).perform store).1 ≠ .ok none := by
  cases store with
  | memory records =>
      obtain ⟨routine, hmem, hid⟩ := h
      intro hnone
      have := List.find?_eq_none.mp (Except.ok.inj hnone) routine hmem
      simp [hid] at this
  | tables rows =>
      obtain ⟨row, hmem, hid⟩ := h
      change Tables.readFirst _ _ _ ≠ _
      unfold Tables.readFirst
      split
      · cases RoutineRow.read _ <;> simp [Except.map]
      · rename_i hnone
        have := List.find?_eq_none.mp hnone row hmem
        simp [hid] at this

theorem retains_insertSnapshot (id : String) (snapshot : Snapshot) :
    Respects (Retains (Holds id)) (insertSnapshot snapshot) := by
  refine retains_change (fun records after hafter h => ?_) fun rows after hafter h => ?_
  · split at hafter
    · cases hafter
    · cases hafter
      exact h
  · obtain ⟨_, -, hafter⟩ := exists_of_bind_eq_ok hafter
    split at hafter
    · cases hafter
    · cases hafter
      exact h

theorem Holds.updateRoutine {id other : String} {rows : Tables} {f : RoutineRow → RoutineRow}
    (hf : ∀ row, (f row).id = row.id) (h : Holds id (.tables rows)) :
    Holds id (.tables (rows.updateRoutine other f)) := by
  obtain ⟨row, hmem, rfl⟩ := h
  refine ⟨_, List.mem_map_of_mem hmem, ?_⟩
  split
  · exact hf row
  · rfl

theorem Holds.updateRecord {id other : String} {records : Memory} {f : Routine → Routine}
    (hf : ∀ routine, (f routine).id = routine.id) (h : Holds id (.memory records)) :
    Holds id (.memory (records.updateRoutine other f)) := by
  obtain ⟨routine, hmem, rfl⟩ := h
  refine ⟨_, List.mem_map_of_mem hmem, ?_⟩
  split
  · exact hf routine
  · rfl

theorem avoids_routine? (id : String) : Operation.Avoids Fault.isRefusal (routine? id) :=
  avoids_ask fun rows => avoids_readFirst avoids_readRoutine _ rows.routines

/-- A stored routine that is written to and then read does not turn out to be missing. -/
theorem ne_none_of_change {inMemory : Memory → Except Fault Memory}
    {onTables : Tables → Except Fault Tables} {store : Store} {id : String}
    (hretains : Respects (Retains (Holds id)) (change inMemory onTables)) (h : store.Holds id) :
    ((do change inMemory onTables; routine? id : Work (Option Routine)).perform store).1 ≠
      .ok none := by
  have hafter := hretains store h
  rcases hchange : (change inMemory onTables).perform store with ⟨fault | _, store'⟩
  · rw [Operation.perform_bind_error hchange]
    simp
  · rw [Operation.perform_bind_ok hchange]
    rw [hchange] at hafter
    exact routine?_ne_none hafter

theorem setDefinition_ne_none {store : Store} {id : String} (h : store.Holds id)
    (definition : Definition) (version : Int) :
    ((setDefinition id definition version).perform store).1 ≠ .ok none := by
  refine ne_none_of_change (retains_change (fun records after hafter h => ?_)
    fun rows after hafter h => ?_) h
  · cases hafter
    exact h.updateRecord fun _ => rfl
  · have hwritten : rows.updateRoutine id (fun row =>
        { row with definition := definition.encode, version }) = after := by
      unfold Tables.setDefinition at hafter
      split at hafter
      · obtain ⟨_, -, hafter⟩ := exists_of_bind_eq_ok hafter
        exact Except.ok.inj hafter
      · exact Except.ok.inj hafter
    exact hwritten ▸ h.updateRoutine fun _ => rfl

theorem setStatus_ne_none {store : Store} {id : String} (h : store.Holds id)
    (status : RoutineStatus) : ((setStatus id status).perform store).1 ≠ .ok none := by
  refine ne_none_of_change (retains_change (fun records after hafter h => ?_)
    fun rows after hafter h => ?_) h
  · cases hafter
    exact h.updateRecord fun _ => rfl
  · cases hafter
    exact h.updateRoutine fun _ => rfl

end Routine

section Writes

theorem avoids_setDefinition (id : String) (definition : Definition) (version : Int) :
    Operation.Avoids Fault.isRefusal (setDefinition id definition version) :=
  .bind (avoids_change (fun _ => .ok _) fun _ =>
    .ite (.bind (avoids_checkColumn _) fun _ => .ok _) (.ok _)) fun _ => avoids_routine? id

theorem avoids_setStatus (id : String) (status : RoutineStatus) :
    Operation.Avoids Fault.isRefusal (setStatus id status) :=
  .bind (avoids_change (fun _ => .ok _) fun _ => .ok _) fun _ => avoids_routine? id

theorem avoids_insertRoutine (routine : Routine) :
    Operation.Avoids Fault.isRefusal (insertRoutine routine) :=
  avoids_change (fun _ => .ok _) fun _ =>
    .bind (avoids_checkColumn _) fun _ => .ite (.error rfl) (.ok _)

theorem avoids_listSnapshots (id : String) :
    Operation.Avoids Fault.isRefusal (listSnapshots id) :=
  avoids_ask fun _ => avoids_mapM avoids_readVersion _

theorem avoids_insertSnapshot (snapshot : Snapshot) :
    Operation.Avoids Fault.isRefusal (insertSnapshot snapshot) := by
  refine avoids_change (fun records => ?_) fun rows => ?_
  · split
    · rw [Fault.naming]
      split <;> exact .error rfl
    · exact .ok _
  · exact .bind (avoids_checkColumn _) fun _ => .ite (.error rfl) (.ok _)

end Writes

end Store

/-- A conversation stays as it was when it refuses a reply, and nothing is told of it. -/
theorem Conversation.handle_of_refused {c : Conversation} {recorder : Recorder} {input : Value}
    {fault : Fault} (h : (c.handle recorder (.resume input)).response = .error fault)
    (hrefused : fault.isRefusal = true) :
    c.handle recorder (.resume input) = ⟨.error fault, c, []⟩ := by
  have htraceless := Turn.traceless_resume (Turn.inTurn_walkFrom recorder) recorder input
    (c.opened fun _ => .ok ())
  rcases hresume : (Turn.resume recorder (Turn.walkFrom recorder) input).perform
    (c.opened fun _ => .ok ()) with ⟨outcome, t⟩
  have hturn : (turn recorder (Turn.walkFrom recorder) (.resume input)).perform
      (c.opened fun _ => .ok ()) = (outcome.map Response.state, t) := by
    rw [turn, Operation.perform_map, hresume]
  have hhandle := handle_of_perform c recorder (fun _ => .ok ()) hturn
  rw [hhandle] at h ⊢
  cases outcome with
  | ok state => cases h
  | error found =>
      obtain rfl : found = fault := Except.error.inj h
      have hsame := htraceless found (by rw [hresume]) hrefused
      rw [hresume] at hsame
      obtain rfl : t = c.opened fun _ => .ok () := hsame
      rfl

namespace Engine

variable {X α : Type} {kind : Fault → Bool}

section Stored

theorem avoids_stored {work : Store.Work α} (h : Operation.Avoids kind work) :
    Operation.Avoids kind (stored work : Work X α) := fun engine => h engine.store

theorem traceless_stored {work : Store.Work α} {engine : Engine X}
    (h : Traceless kind work engine.store) : Traceless kind (stored work) engine := by
  intro fault hfault hkind
  have hsame := h fault hfault hkind
  change { engine with store := (work.perform engine.store).2 } = engine
  rw [hsame]

/-- What only asks the store leaves the engine as it is. -/
theorem perform_stored_snd {work : Store.Work α} (engine : Engine X)
    (h : (work.perform engine.store).2 = engine.store) :
    ((stored work).perform engine).2 = engine := by
  change { engine with store := (work.perform engine.store).2 } = engine
  rw [h]

theorem retains_stored_holds {work : Store.Work α} {id : String}
    (h : Respects (Retains (Store.Holds id)) work) :
    Respects (Retains fun engine : Engine X => engine.store.Holds id) (stored work) :=
  fun engine hengine => h engine.store hengine

end Stored

section Lifecycle

variable {engine : Engine X}

theorem perform_routine_snd (id : String) (scope : Option String) (engine : Engine X) :
    ((routine id scope).perform engine).2 = engine := by
  refine (Operation.perform_bind_snd (fun found engine => ?_) engine).trans
    (perform_stored_snd engine (Store.perform_ask_snd _ _ _))
  cases found with
  | none => rfl
  | some routine => dsimp only; split <;> rfl

theorem perform_editable_snd (id : String) (engine : Engine X) :
    ((editable id).perform engine).2 = engine := by
  refine (Operation.perform_bind_snd (fun found engine => ?_) engine).trans
    (perform_routine_snd id none engine)
  split <;> rfl

theorem perform_version_snd (id : String) (number : Int) (engine : Engine X) :
    ((version id number).perform engine).2 = engine := by
  refine (Operation.perform_bind_snd (fun found engine => ?_) engine).trans
    (perform_stored_snd engine (Store.perform_ask_snd _ _ _))
  cases found <;> rfl

/-- A routine that was found is stored. -/
theorem holds_of_routine {id : String} {scope : Option String} {found : Routine}
    (h : (routine id scope).perform engine = (.ok found, engine)) :
    found.id = id ∧ engine.store.Holds found.id := by
  obtain ⟨answer, engine', hasked, hchecked⟩ := Operation.exists_of_perform_bind h
  cases answer with
  | none => cases hchecked
  | some routine =>
      dsimp only at hchecked
      split at hchecked
      · obtain rfl : routine = found := Except.ok.inj (congrArg Prod.fst hchecked)
        exact Store.holds_of_routine? (congrArg Prod.fst hasked)
      · cases hchecked

theorem holds_of_editable {id : String} {found : Routine}
    (h : (editable id).perform engine = (.ok found, engine)) : engine.store.Holds found.id := by
  obtain ⟨routine, engine', hfound, hchecked⟩ := Operation.exists_of_perform_bind h
  split at hchecked
  · cases hchecked
  · obtain ⟨hsame, rfl⟩ := Prod.mk.inj hchecked
    exact Except.ok.inj hsame ▸ (holds_of_routine hfound).2

/-- A version that cannot be recorded is not recorded. -/
theorem traceless_record (id : String) (definition : Definition) (createdBy : String)
    (engine : Engine X) : Traceless kind (record id definition createdBy) engine :=
  .bind (perform_stored_snd engine (Store.perform_ask_snd _ _ _)) fun _ _ =>
    .andThen (traceless_stored (Store.traceless_change _)) fun _ _ _ => .ok _

theorem avoids_record (id : String) (definition : Definition) (createdBy : String) :
    Operation.Avoids Fault.isRefusal (record id definition createdBy : Work X Snapshot) :=
  .bind (avoids_stored (Store.avoids_listSnapshots id)) fun _ =>
    .bind (avoids_stored (Store.avoids_insertSnapshot _)) fun _ => fun _ => .ok _

theorem retains_record_holds (other id : String) (definition : Definition) (createdBy : String) :
    Respects (Retains fun engine : Engine X => engine.store.Holds other)
      (record id definition createdBy) :=
  .bind (fun engine h => (perform_stored_snd engine (Store.perform_ask_snd _ _ _)).symm ▸ h)
    fun _ => .bind (retains_stored_holds (Store.retains_insertSnapshot other _)) fun _ _ h => h

/-- A routine that is stored gets its next version, or there is no trace of a refusal. -/
theorem traceless_advance {id : String} (h : engine.store.Holds id) (definition : Definition)
    (createdBy : String) : Traceless Fault.isRefusal (advance id definition createdBy) engine := by
  refine .andThen (traceless_record id definition createdBy engine) fun snapshot s hrecord => ?_
  have hafter : s.store.Holds id := by
    have := retains_record_holds id id definition createdBy engine h
    rwa [hrecord] at this
  refine Operation.Avoids.perform_bind
    (avoids_stored (Store.avoids_setDefinition id definition snapshot.version) s)
    fun answer s' hset => ?_
  cases answer with
  | none =>
      exact absurd (congrArg Prod.fst hset)
        (Store.setDefinition_ne_none hafter definition snapshot.version)
  | some routine => exact .ok _

theorem traceless_updateDefinition (id : String) (definition : Definition) (createdBy : String)
    (engine : Engine X) :
    Traceless Fault.isRefusal (updateDefinition id definition createdBy) engine :=
  .bind (perform_editable_snd id engine) fun _ hfound => .bind rfl fun _ _ =>
    traceless_advance (holds_of_editable hfound) definition createdBy

theorem traceless_rollback (id : String) (number : Int) (createdBy : String)
    (engine : Engine X) : Traceless Fault.isRefusal (rollback id number createdBy) engine :=
  .bind (perform_editable_snd id engine) fun _ hfound =>
    .bind (perform_version_snd id number engine) fun _ _ =>
      traceless_advance (holds_of_editable hfound) _ createdBy

theorem traceless_instantiate (template : Template) (scope : String) (configuration : Fields)
    (name createdBy : String) (engine : Engine X) :
    Traceless Fault.isRefusal (instantiate template scope configuration name createdBy) engine := by
  refine .bind rfl fun definition _ => .bind rfl fun _ _ => .of_avoids ?_
  have havoids : Operation.Avoids Fault.isRefusal (do
      let created ← now
      let routine : Routine :=
        { id := ← fresh, template := template.id, scope,
          name := if name = "" then template.name else name, configuration, definition, createdBy,
          created }
      stored (Store.insertRoutine routine)
      let _ ← record routine.id definition createdBy
      pure routine : Work X Routine) :=
    .bind (fun _ => .ok _) fun _ => .bind (fun _ => .ok _) fun _ =>
      .bind (avoids_stored (Store.avoids_insertRoutine _)) fun _ =>
        .bind (avoids_record _ _ _) fun _ => .pure _
  exact havoids engine

theorem traceless_setStatus (id : String) (status : RoutineStatus) (engine : Engine X) :
    Traceless Fault.isRefusal (setStatus id status) engine := by
  refine .bind (perform_routine_snd id none engine) fun found hfound => ?_
  refine .ite (fun _ => .of_same rfl) fun _ => .ite (fun _ => .of_same rfl) fun _ => .of_avoids ?_
  refine Operation.Avoids.perform_bind (avoids_stored (Store.avoids_setStatus id status) engine)
    fun answer s hset => ?_
  cases answer with
  | none =>
      obtain ⟨rfl, hholds⟩ := holds_of_routine hfound
      exact absurd (congrArg Prod.fst hset) (Store.setStatus_ne_none hholds status)
  | some routine => exact fun _ h => nomatch h

theorem traceless_publish (template : Template) (engine : Engine X) :
    Traceless Fault.isRefusal (publish template) engine := by
  refine .bind rfl fun _ _ => .bind rfl fun _ _ =>
    .bind (perform_stored_snd engine (Store.perform_ask_snd _ _ _)) fun taken _ => ?_
  cases taken with
  | some _ => exact .of_same rfl
  | none => exact .andThen (traceless_stored (Store.traceless_change _)) fun _ _ _ => .ok _

end Lifecycle

section Conversations

theorem traceless_start (id : String) (bindings : Fields) (engine : Engine X) :
    Traceless Fault.isRefusal (start id bindings) engine := by
  refine .bind (perform_routine_snd id none engine) fun found _ => ?_
  refine .ite (fun _ => .of_same rfl) fun _ => .bind rfl fun graph _ => .of_avoids ?_
  have hresponse (c : Conversation) (recorder : Recorder) (hidle : c.state = .idle) :
      Avoids Fault.isRefusal (c.handle recorder .start).response := by
    rw [Conversation.handle_response, Conversation.turn, Operation.perform_map]
    exact (Turn.timely_start (Turn.inTurn_walkFrom recorder) hidle).map _
  have havoids : Operation.Avoids Fault.isRefusal (do
      let idle : Conversation :=
        { graph, id := ← fresh, routine := found.id
          bindings := .ofFields (Dict.merge found.configuration bindings) }
      let outcome ← carryOut idle .start
      let _ ← Operation.ofExcept outcome.response
      changeTable fun table => table.track outcome.conversation
      pure outcome.conversation : Work X Conversation) :=
    .bind (fun _ => .ok _) fun name => avoids_carryOut fun recorder =>
      .bind (.ofExcept (hresponse _ recorder rfl)) fun _ => .bind (.modify _) fun _ => .pure _
  exact havoids engine

theorem perform_gate_snd (id : String) (engine : Engine X) :
    ((gate id).perform engine).2 = engine := by
  rw [gate, Operation.perform_bind_ok (Operation.perform_get engine)]
  split
  · refine (Operation.perform_bind_snd (fun found engine => ?_) engine).trans
      (perform_stored_snd engine (Store.perform_ask_snd _ _ _))
    cases found with
    | none => rfl
    | some routine => dsimp only; split <;> rfl
  · rfl

theorem perform_conversation_snd (id : String) (engine : Engine X) :
    ((conversation id).perform engine).2 = engine := by
  rw [conversation, Operation.perform_bind_ok (Operation.perform_get engine)]
  split <;> rfl

theorem find?_of_conversation {id : String} {engine : Engine X} {c : Conversation}
    (h : (conversation id).perform engine = (.ok c, engine)) : engine.table.find? id = some c := by
  rw [conversation, Operation.perform_bind_ok (Operation.perform_get engine)] at h
  split at h
  · rename_i found hfound
    rw [hfound, Except.ok.inj (congrArg Prod.fst h)]
  · cases h

/-- Putting a conversation that is at hand back as it is changes nothing. -/
theorem put_of_find? {table : ConversationTable} {id : String} {c : Conversation}
    (h : table.find? id = some c) : table.put c = table := by
  have hid : c.id = id := by simpa using List.find?_some h
  have hsame : Keyed.put Conversation.id c table.conversations = table.conversations :=
    Keyed.put_of_find? (hid ▸ h)
  rw [ConversationTable.put, hsame]

/-- What was asked of a conversation turns out as the conversation says. -/
theorem eq_of_perform_carryOut {c : Conversation} {request : Request} {outcome : Outcome}
    {engine s : Engine X} (h : (carryOut c request).perform engine = (.ok outcome, s)) :
    outcome = c.handle (recorderFor engine c.routine) request := by
  rw [carryOut, Operation.perform_bind_ok (Operation.perform_get engine)] at h
  exact Operation.eq_of_perform_bind_pure h

theorem traceless_resume (id : String) (input : Value) (engine : Engine X) :
    Traceless Fault.isRefusal (resume id input) engine := by
  refine .bind (perform_conversation_snd id engine) fun c hc =>
    .bind (perform_gate_snd c.routine engine) fun _ _ => ?_
  have hfind : engine.table.find? id = some c := find?_of_conversation hc
  by_cases hrefused : ∃ fault, fault.isRefusal = true ∧
      (c.handle (recorderFor engine c.routine) (.resume input)).response = .error fault
  · obtain ⟨fault, hrefusal, hresponse⟩ := hrefused
    have houtcome := Conversation.handle_of_refused hresponse hrefusal
    have hcarried : (carryOut c (.resume input)).perform engine =
        (.ok ⟨.error fault, c, []⟩, engine) := by
      rw [carryOut, Operation.perform_bind_ok (Operation.perform_get engine), houtcome]
      rfl
    refine .bind (congrArg Prod.snd hcarried) fun outcome houtcome => .of_same ?_
    obtain rfl := Except.ok.inj (congrArg Prod.fst (houtcome.symm.trans hcarried))
    change { engine with table := engine.table.put c } = engine
    rw [put_of_find? hfind]
  · refine .of_avoids (Operation.Avoids.perform_bind ?_ fun outcome s houtcome => ?_)
    · rw [← bind_pure (carryOut c (.resume input))]
      exact avoids_carryOut (fun _ => .pure _) engine
    · obtain rfl := eq_of_perform_carryOut houtcome
      split
      · exact .ok _
      · exact .error (Bool.eq_false_iff.mpr fun hrefusal => hrefused ⟨_, hrefusal, ‹_›⟩)

end Conversations

end Engine

/-- What may be asked of an engine for templates, routines and conversations. -/
inductive Demand where
  /-- Publish a template. -/
  | publish (template : Template)
  /-- Something about the life of a routine. -/
  | lifecycle (call : Call)
  /-- Start a conversation on a routine. -/
  | start (routine : String) (bindings : Fields)
  /-- Deliver a reply to a conversation. -/
  | resume (conversation : String) (input : Value)
  deriving DecidableEq, Repr

namespace Demand

variable {X : Type}

/-- Do what is demanded, whatever it gives back. -/
def operation : Demand → Engine.Work X Unit
  | .publish template => do let _ ← Engine.publish template
  | .lifecycle call => call.operation
  | .start routine bindings => do let _ ← Engine.start routine bindings
  | .resume conversation input => do let _ ← Engine.resume conversation input

theorem traceless_ignored {α : Type} {operation : Engine.Work X α} {engine : Engine X}
    (h : Traceless Fault.isRefusal operation engine) :
    Traceless Fault.isRefusal (do let _ ← operation) engine :=
  h.andThen fun _ _ _ => .ok _

theorem traceless_call (call : Call) (engine : Engine X) :
    Traceless Fault.isRefusal call.operation engine := by
  cases call with
  | instantiate template scope configuration name createdBy =>
      exact traceless_ignored (Engine.traceless_instantiate template scope configuration name
        createdBy engine)
  | snapshot id definition createdBy =>
      exact .bind (Engine.perform_routine_snd id none engine) fun found _ =>
        traceless_ignored (Engine.traceless_record found.id definition createdBy engine)
  | updateDefinition id definition createdBy =>
      exact traceless_ignored (Engine.traceless_updateDefinition id definition createdBy engine)
  | rollback id number createdBy =>
      exact traceless_ignored (Engine.traceless_rollback id number createdBy engine)
  | setStatus id status =>
      exact traceless_ignored (Engine.traceless_setStatus id status engine)

/-- A demand that is refused changes nothing: whatever state the engine is in, it is exactly as it was
before. No template, routine, version, audit entry or conversation is different, nothing counts as
made, and observers were told nothing. -/
theorem unchanged_of_refused (demand : Demand) (engine : Engine X) {fault : Fault}
    (h : (demand.operation.perform engine).1 = .error fault) (hrefused : fault.isRefusal = true) :
    (demand.operation.perform engine).2 = engine := by
  have htraceless : Traceless Fault.isRefusal demand.operation engine := by
    cases demand with
    | publish template => exact traceless_ignored (Engine.traceless_publish template engine)
    | lifecycle call => exact traceless_call call engine
    | start routine bindings =>
        exact traceless_ignored (Engine.traceless_start routine bindings engine)
    | resume conversation input =>
        exact traceless_ignored (Engine.traceless_resume conversation input engine)
  exact htraceless fault h hrefused

/-- A reply to a conversation that waits is held back while its routine is paused. -/
theorem unchanged_of_refused_while_paused :
    let asking : Template :=
      { id := "t", key := "k", name := "n"
        definition :=
          { steps := [{ id := "go", type := "trigger" }, { id := "ask", type := "wait_input" }]
            edges := [{ source := "go", target := "ask" }] } }
    let routine := Identifier.ofNumber 1
    let conversation := Identifier.ofNumber 2
    let demands : List Demand := [.publish asking, .lifecycle (.instantiate asking "s" [] "" ""),
      .start routine [], .lifecycle (.setStatus routine .paused)]
    let engine : Engine Empty := demands.foldl
      (fun engine demand => (demand.operation.perform engine).2) (Engine.ofSettings {} .inMemory)
    let reply : Demand := .resume conversation (.text "yes")
    let fault : Fault := .heldInput routine "n" .paused
    (engine.table.find? conversation).map Conversation.state = some .suspended ∧
      (reply.operation.perform engine).1 = .error fault ∧ fault.isRefusal = true ∧
      (reply.operation.perform engine).2 = engine := by
  intro asking routine conversation demands engine reply fault
  have hwaits : (engine.table.find? conversation).map Conversation.state = some .suspended := by
    decide +kernel
  have hheld : (reply.operation.perform engine).1 = .error fault := by decide +kernel
  exact ⟨hwaits, hheld, rfl, unchanged_of_refused reply engine hheld rfl⟩

end Demand

end Workflow
