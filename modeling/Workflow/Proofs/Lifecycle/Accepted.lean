import Workflow.Engine.Conversations
import Workflow.Proofs.Conversation.Run
import Workflow.Proofs.Conversation.Timely
import Workflow.Proofs.Dispatch.AtHand
import Workflow.Proofs.Lifecycle.History

/-!
# Where stored definitions come from

A definition is checked when a routine is made from it and when a routine is given it. It is not
checked when it is only recorded as a version, and a return to a recorded version does not check it
either. `Memory.Sourced` follows every definition back to the calls that brought it in: those that
no check has accepted were recorded by a bare snapshot, and a routine has one of them only after a
return to it.
-/

namespace Workflow

namespace Memory

variable {rules : Graph.Rules} {records : Memory} {calls : List Call}

/-- Each definition was accepted, or it was recorded by a snapshot; and a routine that has one of
the latter returned to it later. -/
structure Sourced (rules : Graph.Rules) (calls : List Call) (records : Memory) : Prop where
  snapshots : ∀ s ∈ records.snapshots, Graph.violations rules s.definition = [] ∨
    ∃ createdBy, .snapshot s.routine s.definition createdBy ∈ calls
  routines : ∀ r ∈ records.routines, Graph.violations rules r.definition = [] ∨
    ∃ recorder number createdBy, List.Sublist
      [.snapshot r.id r.definition recorder, .rollback r.id number createdBy] calls

namespace Sourced

theorem empty : Sourced rules [] {} := ⟨nofun, nofun⟩

theorem later (h : Sourced rules calls records) (call : Call) :
    Sourced rules (calls ++ [call]) records where
  snapshots s hs := (h.snapshots s hs).imp_right fun ⟨createdBy, hmem⟩ =>
    ⟨createdBy, List.mem_append_left _ hmem⟩
  routines r hr := (h.routines r hr).imp_right fun ⟨recorder, number, createdBy, hsub⟩ =>
    ⟨recorder, number, createdBy, hsub.trans (List.sublist_append_left calls [call])⟩

theorem insertSnapshot (h : Sourced rules calls records) (snapshot : Snapshot)
    (source : Graph.violations rules snapshot.definition = [] ∨
      ∃ createdBy, .snapshot snapshot.routine snapshot.definition createdBy ∈ calls) :
    Sourced rules calls (records.insertSnapshot snapshot) where
  snapshots := by
    intro s hs
    rcases List.mem_append.mp hs with hs | hs
    · exact h.snapshots s hs
    · obtain rfl := List.mem_singleton.mp hs
      exact source
  routines := h.routines

theorem addRoutine (h : Sourced rules calls records) {routine : Routine}
    (accepted : Graph.violations rules routine.definition = []) :
    Sourced rules calls { records with routines := records.routines ++ [routine] } where
  snapshots := h.snapshots
  routines := by
    intro r hr
    rcases List.mem_append.mp hr with hr | hr
    · exact h.routines r hr
    · obtain rfl := List.mem_singleton.mp hr
      exact .inl accepted

/-- A change of a routine that gives it a definition says where that comes from. -/
theorem updateRoutine (h : Sourced rules calls records) {id : String} {f : Routine → Routine}
    (hid : ∀ r, (f r).id = r.id)
    (source : ∀ r ∈ records.routines, r.id = id → Graph.violations rules (f r).definition = [] ∨
      ∃ recorder number createdBy, List.Sublist
        [.snapshot id (f r).definition recorder, .rollback id number createdBy] calls) :
    Sourced rules calls (records.updateRoutine id f) where
  snapshots := h.snapshots
  routines := by
    intro r' hr'
    obtain ⟨r, hr, rfl⟩ := List.mem_map.mp hr'
    split
    · rename_i heq
      rw [hid, heq]
      exact source r hr heq
    · exact h.routines r hr

/-- What a call writes is accepted, or a snapshot, or what a snapshot recorded before. -/
theorem writes (h : Sourced rules calls records) {call : Call} {after : Memory}
    (hwrites : call.Writes rules records after) : Sourced rules (calls ++ [call]) after := by
  have hlater := h.later call
  have hasked : call ∈ calls ++ [call] := List.mem_append_right _ (List.mem_singleton_self call)
  cases hwrites with
  | nothing => exact hlater
  | added routine accepted => exact (hlater.addRoutine accepted).insertSnapshot _ (.inl accepted)
  | recorded id definition createdBy => exact hlater.insertSnapshot _ (.inr ⟨createdBy, hasked⟩)
  | @updated id definition createdBy accepted =>
      let snapshot := records.nextSnapshot id definition createdBy
      exact (hlater.insertSnapshot snapshot (.inl accepted)).updateRoutine (by exact fun _ => rfl)
        fun _ _ _ => .inl accepted
  | @returned id createdBy old hold =>
      obtain ⟨hmem, howner⟩ := List.mem_filter.mp hold
      obtain rfl : old.routine = id := by simpa using howner
      let snapshot := records.nextSnapshot old.routine old.definition createdBy
      have hsource := hlater.snapshots old hmem
      refine (hlater.insertSnapshot snapshot hsource).updateRoutine (by exact fun _ => rfl)
        fun _ _ _ => ?_
      refine (h.snapshots old hmem).imp_right fun ⟨recorder, hrecorded⟩ => ?_
      exact ⟨recorder, old.version, createdBy,
        (List.singleton_sublist.mpr hrecorded).append (List.Sublist.refl _)⟩
  | moved id status =>
      exact hlater.updateRoutine (by exact fun _ => rfl) fun r hr heq => heq ▸ hlater.routines r hr

end Sourced

end Memory

namespace Engine

variable {X : Type} {engine : Engine X} {kind : StoreKind} {records : Memory}

theorem sourced_afterCalls (kind : StoreKind) (engine : Engine X) (calls : List Call) :
    let after := ({ engine with store := kind.hold {} } : Engine X).afterCalls calls
    ∃ records, after.Keeps kind records ∧ after.settings = engine.settings ∧
      records.Sourced (rules engine.settings) calls := by
  induction calls using List.reverseRecOn with
  | nil => exact ⟨{}, ⟨rfl, .empty⟩, rfl, .empty⟩
  | append_singleton calls call ih =>
      obtain ⟨records, hkeeps, hsettings, hsourced⟩ := ih
      obtain ⟨made, records', told, change, hafter, hwrites⟩ := call.writes hkeeps
      rw [hsettings] at hwrites
      rw [afterCalls, List.foldl_append, List.foldl_cons, List.foldl_nil, ← afterCalls, hafter]
      exact ⟨records', ⟨rfl, change.chronicled hkeeps.chronicled⟩, hsettings,
        hsourced.writes hwrites⟩

/-- An accepted definition is not found broken, whichever graphs are at hand. -/
theorem verdict_ne_broken {routine : Routine}
    (accepted : Graph.violations (rules engine.settings) routine.definition = []) (key : String)
    (payload : Fields) : ((verdict key payload routine).perform engine).1 ≠ .ok .broken := by
  have hfound : ∃ graph engine', (graphOf routine).perform engine = (.ok graph, engine') := by
    cases hfind : engine.graphs.find? routine.id routine.version with
    | some entry =>
        have hgraphOf : (graphOf routine).perform engine = _ :=
          (Operation.perform_bind_ok (Operation.perform_get engine)).trans (by rw [hfind])
        exact ⟨_, _, hgraphOf⟩
    | none =>
        obtain ⟨graph, hgraph⟩ := Graph.exists_ofDefinition accepted
        obtain ⟨graphs, hgraphOf, -⟩ := perform_graphOf_of_missing hfind
        exact ⟨graph, _, hgraph ▸ hgraphOf⟩
  obtain ⟨graph, engine', hgraphOf⟩ := hfound
  have hattempt : (graphOf routine).attempt.perform engine = (.ok (.ok graph), engine') := by
    rw [Operation.perform_attempt, hgraphOf]
  rw [verdict, Operation.perform_bind_ok hattempt]
  change (Except.ok (verdictOn graph routine.status key payload) : Except Fault Verdict) ≠ _
  unfold verdictOn
  split_ifs
  · simp
  · simp
  · simp
  · cases graph.firstActionable? <;> simp

theorem avoids_passOn (faults : Fault → Bool) (c : Conversation) (effect : Effect) :
    Operation.Avoids faults (passOn c effect : Work X Unit) := by
  cases effect with
  | said step message => exact fun _ => .ok _
  | moved state => exact .pure _
  | recorded step result => exact fun _ => .ok _

theorem avoids_carryOut {α : Type} {faults : Fault → Bool} {c : Conversation} {request : Request}
    {f : Outcome → Work X α}
    (h : ∀ recorder, Operation.Avoids faults (f (c.handle recorder request))) :
    Operation.Avoids faults (carryOut c request >>= f) := by
  rw [carryOut, bind_assoc]
  refine .bind (fun engine => .ok engine) fun engine => ?_
  rw [bind_assoc]
  exact .bind (.each (avoids_passOn faults _) _) fun _ => h (recorderFor engine c.routine)

/-- A conversation that starts on an accepted definition does not fail for its graph. -/
theorem Legible.avoids_start (h : engine.Legible kind records) {routine : Routine}
    (found : records.routine? routine.id = some routine)
    (accepted : Graph.violations (rules engine.settings) routine.definition = [])
    (bindings : Fields) : Avoids Fault.ofGraph ((start routine.id bindings).perform engine).1 := by
  rw [start, Operation.perform_bind_ok (h.perform_routine found)]
  by_cases active : routine.status = .active
  · obtain ⟨graph, hcheck⟩ := exists_perform_check accepted
    have hresponse (c : Conversation) (recorder : Recorder) (hidle : c.state = .idle) :
        Avoids Fault.ofGraph (c.handle recorder .start).response := by
      rw [Conversation.handle_response, Conversation.turn, Operation.perform_map]
      exact (Turn.timely_start (Turn.inTurn_walkFrom recorder) hidle).ofGraph.map _
    rw [if_neg (not_not.mpr active), Operation.perform_bind_ok hcheck]
    have hstart : Operation.Avoids Fault.ofGraph (do
        let idle : Conversation :=
          { graph, id := ← fresh, routine := routine.id
            bindings := .ofFields (Dict.merge routine.configuration bindings) }
        let outcome ← carryOut idle .start
        let _ ← Operation.ofExcept outcome.response
        changeTable fun table => table.track outcome.conversation
        pure outcome.conversation : Work X Conversation) :=
      .bind (fun _ => .ok _) fun name => avoids_carryOut fun recorder =>
        .bind (.ofExcept (hresponse _ recorder rfl)) fun _ => .bind (.modify _) fun _ => .pure _
    exact hstart engine
  · rw [if_pos active]
    exact .error rfl

/-- A routine that may change returns to whatever was recorded for it. -/
theorem Keeps.finds_restored (h : engine.Keeps kind records) {routine : Routine}
    (found : records.routine? routine.id = some routine) (unarchived : routine.status ≠ .archived)
    (hfits : kind.Fits ((records.history routine.id).length + 2)) (definition : Definition)
    (recorder createdBy : String) :
    (engine.afterCalls [.snapshot routine.id definition recorder,
      .rollback routine.id ((records.history routine.id).length + 1) createdBy]).store.Finds
        { routine with definition, version := (records.history routine.id).length + 2 } := by
  let snapshot := records.nextSnapshot routine.id definition recorder
  let noted := engine.changed kind engine.made (records.insertSnapshot snapshot)
    [Memory.recordedNotice snapshot]
  have hfirst : kind.Fits snapshot.version := hfits.of_le (Int.le_add_one (Int.natCast_nonneg _))
    (Int.add_le_add_left (by decide) _)
  have hnoted : (Call.snapshot routine.id definition recorder).after engine = noted := by
    have hrecord := perform_record h.store (h.chronicled.contiguous routine.id) hfirst definition
      recorder
    rw [Call.after, Call.operation, Operation.perform_bind_ok (h.legible.perform_routine found)]
    exact Call.perform_ignored hrecord
  have hkeeps : noted.Keeps kind (records.insertSnapshot snapshot) :=
    ⟨rfl, h.chronicled.insertSnapshot found
      (records.continues_nextSnapshot routine.id definition recorder)⟩
  have hrecorded : (records.insertSnapshot snapshot).snapshot? routine.id snapshot.version =
      some snapshot :=
    Memory.snapshot?_insertSnapshot_self
      (Memory.snapshot?_eq_none (h.chronicled.contiguous routine.id))
  have hlength : (((records.insertSnapshot snapshot).history routine.id).length : Int) + 1 =
      (records.history routine.id).length + 2 := by
    have hself : (records.insertSnapshot snapshot).history routine.id =
        records.history routine.id ++ [snapshot] :=
      Memory.history_insertSnapshot_self records snapshot
    rw [hself, List.length_append, List.length_singleton]
    omega
  let last := (records.insertSnapshot snapshot).nextSnapshot routine.id definition createdBy
  have hrollback : (rollback routine.id snapshot.version createdBy).perform noted = _ :=
    hkeeps.legible.perform_rollback found unarchived hrecorded hfirst (hlength ▸ hfits) createdBy
  have hafter : (Call.rollback routine.id snapshot.version createdBy).after noted = _ :=
    Call.perform_ignored hrollback
  have hfinds : ((Call.rollback routine.id snapshot.version createdBy).after noted).store.Finds
      { routine with definition, version := last.version } := by
    rw [hafter]
    exact hkeeps.finds_advanced found definition createdBy
  rw [show last.version = (records.history routine.id).length + 2 from hlength, ← hnoted] at hfinds
  exact hfinds

/-- However calls follow each other: the definition of every stored routine is accepted, or it was
recorded by a bare snapshot and the routine was returned to it later. With an accepted definition a
routine is never passed over for a broken graph, and no conversation with it fails for its graph
when it starts. A routine that may change can be brought to have any definition whatever, as long as
the store has room for two more versions. -/
theorem accepted_or_restored (kind : StoreKind) (engine : Engine X) (calls : List Call) :
    let after := ({ engine with store := kind.hold {} } : Engine X).afterCalls calls
    ∀ r, after.store.Finds r →
      (Graph.violations (rules engine.settings) r.definition = [] ∨
        ∃ recorder number createdBy, List.Sublist
          [.snapshot r.id r.definition recorder, .rollback r.id number createdBy] calls) ∧
      (Graph.violations (rules engine.settings) r.definition = [] →
        (∀ (later : Engine X) key payload, later.settings = engine.settings →
          ((verdict key payload r).perform later).1 ≠ .ok .broken) ∧
        ∀ bindings fault, ((start r.id bindings).perform after).1 = .error fault →
          fault.ofGraph = false) ∧
      ∀ history, after.store.Lists r.id history → r.status ≠ .archived →
        kind.Fits (history.length + 2) → ∀ definition recorder createdBy,
          (after.afterCalls [.snapshot r.id definition recorder,
            .rollback r.id (history.length + 1) createdBy]).store.Finds
              { r with definition, version := history.length + 2 } := by
  intro after r hr
  obtain ⟨records, hkeeps, hsettings, hsourced⟩ := sourced_afterCalls kind engine calls
  have found := hkeeps.finds_iff.mp hr
  refine ⟨hsourced.routines r (Memory.mem_of_routine? found).1, fun accepted => ⟨?_, ?_⟩, ?_⟩
  · intro later key payload hlater
    exact verdict_ne_broken (hlater ▸ accepted) key payload
  · have hsame : after.settings = engine.settings := hsettings
    intro bindings fault hfault
    exact hkeeps.legible.avoids_start found (by rwa [hsame]) bindings fault hfault
  · intro history hlists unarchived hfits definition recorder createdBy
    obtain rfl := hkeeps.lists_iff.mp hlists
    exact hkeeps.finds_restored found unarchived hfits definition recorder createdBy

/-- A template whose routines add a tag. -/
def tagging : Template where
  id := "t"
  key := "k"
  name := "n"
  definition :=
    { steps := [{ id := "go", type := "trigger" }, { id := "mark", type := "tag" }]
      edges := [{ source := "go", target := "mark" }] }

/-- A definition without steps is recorded by a snapshot, and the routine returns to it. No call is
refused, and afterwards no conversation with the routine starts. -/
theorem restored_without_steps :
    let id := Identifier.ofNumber 1
    let empty : Definition := { steps := [], edges := [] }
    let after := (ofSettings {} .inMemory : Engine Empty).afterCalls
      [.instantiate tagging "s" [] "" "", .snapshot id empty "", .rollback id 2 ""]
    ∃ r, after.store.Finds r ∧ r.definition = empty ∧
      Graph.violations (rules {}) r.definition = [.noTrigger] ∧
      ((start r.id []).perform after).1 = .error (.invalidGraph [.noTrigger]) := by
  intro id empty after
  let made := (ofSettings {} .inMemory : Engine Empty).afterCalls
    [.instantiate tagging "s" [] "" ""]
  let routine : Routine :=
    { id, template := "t", scope := "s", name := "n", definition := tagging.definition
      created := ⟨0, some 0⟩ }
  obtain ⟨records, h, -, -⟩ := sourced_afterCalls .memory (ofSettings {} .inMemory : Engine Empty)
    [.instantiate tagging "s" [] "" ""]
  have found : records.routine? routine.id = some routine := by
    have hasked : ((stored (Store.routine? id)).perform made).1 = .ok (some routine) := by
      decide +kernel
    exact Except.ok.inj ((congrArg Prod.fst (h.legible.perform_routine? id)).symm.trans hasked)
  have hlength : (records.history routine.id).length = 1 := by
    have hlisted : ((stored (Store.listSnapshots id)).perform made).1 =
        .ok [⟨id, 1, tagging.definition, ""⟩] := by
      decide +kernel
    have hhistory := Except.ok.inj ((congrArg Prod.fst
      (perform_listed h.store (h.chronicled.contiguous id))).symm.trans hlisted)
    exact congrArg List.length hhistory
  have hfinds := h.finds_restored found (by decide) trivial empty "" ""
  rw [hlength] at hfinds
  obtain ⟨records', h', hsettings, -⟩ := sourced_afterCalls .memory
    (ofSettings {} .inMemory : Engine Empty)
    [.instantiate tagging "s" [] "" "", .snapshot id empty "", .rollback id 2 ""]
  have hviolations : Graph.violations (rules {}) empty = [.noTrigger] := by decide +kernel
  have hcheck : (check empty).perform after = (.error (.invalidGraph [.noTrigger]), after) := by
    have hsame : after.settings = {} := hsettings
    rw [perform_check, hsame, Graph.ofDefinition_eq_error (by rw [hviolations]; simp), hviolations]
  let restored : Routine := { routine with definition := empty, version := 3 }
  have hroutine : (Engine.routine restored.id none).perform after = (.ok restored, after) :=
    h'.legible.perform_routine (h'.finds_iff.mp hfinds)
  refine ⟨restored, hfinds, rfl, hviolations, ?_⟩
  rw [start, Operation.perform_bind_ok hroutine]
  exact congrArg Prod.fst (Operation.perform_bind_error hcheck)

end Engine

end Workflow
