import Workflow.Proofs.Dispatch.AtHand

/-!
# Errands and careful handlers

An `Errand` is what may be asked of an engine from outside: anything the life of routines offers,
and passing on an event. A handler is careful when all it does to the engine is to run errands and
to work elsewhere, where neither routines nor their versions are written. Careful handlers are blind
to the graphs at hand, since every errand is.
-/

namespace Workflow

/-- What may be asked of an engine. -/
inductive Errand where
  | instantiate (template : Template) (scope : String) (configuration : Fields)
      (name createdBy : String)
  | routine (id : String) (scope : Option String)
  | routines (scope : String) (status : Option RoutineStatus)
  | snapshot (id : String) (definition : Definition) (createdBy : String)
  | updateDefinition (id : String) (definition : Definition) (createdBy : String)
  | history (id : String)
  | version (id : String) (number : Int)
  | rollback (id : String) (number : Int) (createdBy : String)
  | setStatus (id : String) (status : RoutineStatus)
  | dispatch (key : String) (payload : Fields) (scope : String)
  | dispatchCounted (key : String) (payload : Fields) (scope : String) (follow : Bool)
  | dispatchChains (key : String) (payload : Fields) (scope : String)

/-- What an errand asks of the life of routines, when it may write. -/
def Errand.call? : Errand → Option Call
  | .instantiate template scope configuration name createdBy =>
    some (.instantiate template scope configuration name createdBy)
  | .snapshot id definition createdBy => some (.snapshot id definition createdBy)
  | .updateDefinition id definition createdBy => some (.updateDefinition id definition createdBy)
  | .rollback id number createdBy => some (.rollback id number createdBy)
  | .setStatus id status => some (.setStatus id status)
  | _ => none

/-- What is given back. -/
inductive Report where
  | routine (routine : Routine)
  | routines (found : List Routine)
  | snapshot (snapshot : Snapshot)
  | history (history : List Snapshot)
  | results (results : List StepResult)
  | counted (results : List StepResult) (skipped : Nat)
  | chains (chains : List (String × List StepResult))

namespace Engine

variable {X α β : Type}

/-- Run an errand. -/
def runErrand (perform : X → Context → Fields → Activity (Engine X) Returned) :
    Errand → Activity (Engine X) Report
  | .instantiate template scope configuration name createdBy =>
    .ofOperation (.routine <$> instantiate template scope configuration name createdBy)
  | .routine id scope => .ofOperation (.routine <$> routine id scope)
  | .routines scope status => .ofOperation (.routines <$> routines scope status)
  | .snapshot id definition createdBy => .ofOperation do
    let found ← routine id none
    .snapshot <$> record found.id definition createdBy
  | .updateDefinition id definition createdBy =>
    .ofOperation (.routine <$> updateDefinition id definition createdBy)
  | .history id => .ofOperation (.history <$> history id)
  | .version id number => .ofOperation (.snapshot <$> version id number)
  | .rollback id number createdBy => .ofOperation (.routine <$> rollback id number createdBy)
  | .setStatus id status => .ofOperation (.routine <$> setStatus id status)
  | .dispatch key payload scope => do
    return .results (← dispatch perform key payload scope)
  | .dispatchCounted key payload scope follow => do
    let (results, skipped) ← dispatchCounted perform key payload scope follow
    return .counted results skipped
  | .dispatchChains key payload scope => do
    return .chains (← dispatchChains perform key payload scope)

variable {kind : StoreKind} {limit : Nat}

/-- An errand that may write does what its call does. -/
theorem runErrand_of_call {errand : Errand} {call : Call} (h : errand.call? = some call)
    (perform : X → Context → Fields → Activity (Engine X) Returned) :
    ∃ operation : Work X Report, runErrand perform errand = .ofOperation operation ∧
      ∀ engine, (operation.perform engine).2 = call.after engine := by
  have hmap {γ : Type} {operation : Work X γ} (f : γ → Report) (engine : Engine X) :
      ((f <$> operation).perform engine).2 =
        (Operation.perform (do let _ ← operation : Work X Unit) engine).2 := by
    rw [Operation.perform_map]
    exact (Call.perform_ignored rfl).symm
  cases errand with
  | snapshot id definition createdBy =>
      cases h
      refine ⟨_, rfl, fun engine => ?_⟩
      rw [Call.after, Call.operation, Operation.perform_bind, Operation.perform_bind]
      rcases (Engine.routine id none).perform engine with ⟨fault | found, engine'⟩
      · rfl
      · exact hmap _ engine'
  | instantiate | updateDefinition | rollback | setStatus =>
      cases h
      exact ⟨_, rfl, hmap _⟩
  | routine | routines | history | version | dispatch | dispatchCounted | dispatchChains => cases h

section Lifecycle

theorem stays_stored (work : Store.Work α) : Aside Stays (stored work : Work X α) :=
  ⟨framed_stored work, fun _ => ⟨rfl, rfl⟩⟩

theorem stays_notify (notice : Notice) : Aside Stays (notify notice : Work X Unit) :=
  ⟨fun _ _ => rfl, fun _ => ⟨rfl, rfl⟩⟩

theorem stays_check (d : Definition) : Aside Stays (check d : Work X Graph) :=
  ⟨fun _ _ => rfl, fun _ => ⟨rfl, rfl⟩⟩

theorem stays_count : Aside Stays (count : Work X Nat) :=
  ⟨fun _ _ => rfl, fun _ => ⟨rfl, rfl⟩⟩

theorem stays_routine (id : String) (scope : Option String) :
    Aside Stays (routine id scope : Work X Routine) := by
  refine .bind (stays_stored _) fun found => ?_
  cases found with
  | none => exact .fail _
  | some routine => exact .ite (fun _ => .pure _) fun _ => .fail _

theorem stays_editable (id : String) : Aside Stays (editable id : Work X Routine) :=
  .bind (stays_routine id none) fun _ => .ite (fun _ => .fail _) fun _ => .pure _

theorem stays_record (id : String) (definition : Definition) (createdBy : String) :
    Aside Stays (record id definition createdBy : Work X Snapshot) :=
  .bind (stays_stored _) fun _ => .bind (stays_stored _) fun _ => .bind (stays_notify _) fun _ =>
    .pure _

theorem stays_advance (id : String) (definition : Definition) (createdBy : String) :
    Aside Stays (advance id definition createdBy : Work X Routine) := by
  refine .bind (stays_record id definition createdBy) fun snapshot =>
    .bind (stays_stored _) fun found => ?_
  cases found with
  | none => exact .fail _
  | some routine => exact .pure _

theorem stays_version (id : String) (number : Int) :
    Aside Stays (version id number : Work X Snapshot) := by
  refine .bind (stays_stored _) fun found => ?_
  cases found with
  | none => exact .fail _
  | some snapshot => exact .pure _

/-- Whatever asks the life of routines for something takes back nothing that is recorded. -/
theorem aside_of_call {operation : Work X α} (call : Call)
    (hcall : ∀ engine, (call.operation.perform engine).2 = (operation.perform engine).2)
    (hstays : Aside Stays operation) : Aside (Tends kind) operation := by
  refine ⟨hstays.framed, fun engine => ⟨hstays.tends engine, fun records h => ?_⟩⟩
  rw [← hcall engine]
  exact h.of_changes (call.changes h)

theorem aside_instantiate (template : Template) (scope : String) (configuration : Fields)
    (name createdBy : String) :
    Aside (Tends kind) (instantiate template scope configuration name createdBy : Work X Routine) := by
  refine aside_of_call (.instantiate template scope configuration name createdBy)
    (fun engine => Call.perform_ignored rfl) ?_
  refine .bind (.ofExcept _) fun definition => .bind (stays_check definition) fun _ => ?_
  refine .bind (.bind stays_count fun _ => .pure _) fun created => ?_
  exact .bind (.map _ stays_count) fun _ => .bind (stays_stored _) fun _ =>
    .bind (stays_record _ _ _) fun _ => .pure _

theorem aside_snapshot (id : String) (definition : Definition) (createdBy : String) :
    Aside (Tends kind) (do
      let found ← routine id none
      record found.id definition createdBy : Work X Snapshot) := by
  refine aside_of_call (.snapshot id definition createdBy) (fun engine => ?_)
    (.bind (stays_routine id none) fun _ => stays_record _ _ _)
  rw [Call.operation, Operation.perform_bind, Operation.perform_bind]
  rcases (routine id none).perform engine with ⟨fault | found, engine'⟩
  · rfl
  · exact Call.perform_ignored rfl

theorem aside_updateDefinition (id : String) (definition : Definition) (createdBy : String) :
    Aside (Tends kind) (updateDefinition id definition createdBy : Work X Routine) :=
  aside_of_call (.updateDefinition id definition createdBy) (fun _ => Call.perform_ignored rfl)
    (.bind (stays_editable id) fun _ => .bind (stays_check _) fun _ => stays_advance _ _ _)

theorem aside_rollback (id : String) (number : Int) (createdBy : String) :
    Aside (Tends kind) (rollback id number createdBy : Work X Routine) :=
  aside_of_call (.rollback id number createdBy) (fun _ => Call.perform_ignored rfl)
    (.bind (stays_editable id) fun _ => .bind (stays_version _ _) fun _ => stays_advance _ _ _)

theorem aside_setStatus (id : String) (status : RoutineStatus) :
    Aside (Tends kind) (setStatus id status : Work X Routine) := by
  refine aside_of_call (.setStatus id status) (fun _ => Call.perform_ignored rfl) ?_
  refine .bind (stays_routine id none) fun found => .ite (fun _ => .pure _) fun _ =>
    .ite (fun _ => .fail _) fun _ => .bind (stays_stored _) fun changed => ?_
  cases changed with
  | none => exact .fail _
  | some routine => exact .bind (stays_notify _) fun _ => .pure _

theorem aside_routine (id : String) (scope : Option String) :
    Aside (Tends kind) (routine id scope : Work X Routine) := by
  refine .bind (aside_routine? id) fun found => ?_
  cases found with
  | none => exact .fail _
  | some routine => exact .ite (fun _ => .pure _) fun _ => .fail _

theorem aside_routines (scope : String) (status : Option RoutineStatus) :
    Aside (Tends kind) (routines scope status : Work X (List Routine)) :=
  aside_stored (Store.perform_listRoutines_snd scope status)

theorem aside_history (id : String) : Aside (Tends kind) (history id : Work X (List Snapshot)) :=
  .bind (aside_routine id none) fun _ => aside_stored (Store.perform_ask_snd _ _)

theorem aside_version (id : String) (number : Int) :
    Aside (Tends kind) (version id number : Work X Snapshot) := by
  refine .bind (aside_stored (Store.perform_ask_snd _ _)) fun found => ?_
  cases found with
  | none => exact .fail _
  | some snapshot => exact .pure _

end Lifecycle

/-- The work writes neither routines nor versions, and has nothing to do with the graphs at hand. -/
structure Elsewhere (kind : StoreKind) (operation : Work X α) : Prop where
  stays : Aside Stays operation
  made : ∀ engine, engine.made ≤ (operation.perform engine).2.made
  store : ∀ engine records, engine.store = kind.hold records →
    ∃ records', (operation.perform engine).2.store = kind.hold records' ∧
      records'.routines = records.routines ∧ records'.snapshots = records.snapshots

theorem Elsewhere.aside {operation : Work X α} (h : Elsewhere kind operation) :
    Aside (Tends kind) operation := by
  refine ⟨h.stays.framed, fun engine => ⟨h.stays.tends engine, fun records hkeeps => ?_⟩⟩
  obtain ⟨⟨templates, routines, snapshots, entries⟩, hstore, hroutines, hsnapshots⟩ :=
    h.store engine records hkeeps.store
  obtain rfl : routines = records.routines := hroutines
  obtain rfl : snapshots = records.snapshots := hsnapshots
  obtain ⟨named, owned, contiguous, current⟩ := hkeeps.chronicled.mono (h.made engine)
  exact ⟨_, ⟨hstore, named, owned, contiguous, current⟩, fun _ => List.prefix_rfl,
    fun _ r found => ⟨r, found, .refl r⟩⟩

/-- What a handler may do: end, give way, run errands, and work elsewhere. The handlers that an event
it passes on finds are careful themselves. -/
inductive Careful (kind : StoreKind) : {α : Type} → Activity (Engine X) α → Prop
  | ended {α : Type} (outcome : Except Fault α) : Careful kind (.ended outcome)
  | pause {α : Type} {rest : Activity (Engine X) α} (later : Careful kind rest) :
      Careful kind (.pause rest)
  | errand {α : Type} {perform : X → Context → Fields → Activity (Engine X) Returned}
      {next : Except Fault Report → Activity (Engine X) α} (errand : Errand)
      (handlers : ∀ x context config, Careful kind (perform x context config))
      (later : ∀ outcome, Careful kind (next outcome)) :
      Careful kind ((runErrand perform errand).andThen next)
  | elsewhere {α β : Type} {operation : Work X β} {next : Except Fault β → Activity (Engine X) α}
      (apart : Elsewhere kind operation) (later : ∀ outcome, Careful kind (next outcome)) :
      Careful kind ((Activity.ofOperation operation).andThen next)

/-- An errand is blind to the graphs at hand. -/
theorem blind_runErrand {perform : X → Context → Fields → Activity (Engine X) Returned}
    (hperform : ∀ x context config,
      Activity.Blind (Rebuilt kind limit []) (perform x context config)) (errand : Errand) :
    Activity.Blind (Rebuilt kind limit []) (runErrand perform errand) := by
  cases errand with
  | instantiate template scope configuration name createdBy =>
      exact .ofOperation ((aside_instantiate ..).map _ |>.blind [])
  | routine id scope => exact .ofOperation ((aside_routine id scope).map _ |>.blind [])
  | routines scope status => exact .ofOperation ((aside_routines scope status).map _ |>.blind [])
  | snapshot id definition createdBy =>
      have hmap : (do
          let found ← routine id none
          Report.snapshot <$> record found.id definition createdBy : Work X Report) =
          Report.snapshot <$> (do
            let found ← routine id none
            record found.id definition createdBy) := (map_bind _ _ _).symm
      refine .ofOperation ?_
      rw [hmap]
      exact ((aside_snapshot id definition createdBy).map _).blind []
  | updateDefinition id definition createdBy =>
      exact .ofOperation ((aside_updateDefinition ..).map _ |>.blind [])
  | history id => exact .ofOperation ((aside_history id).map _ |>.blind [])
  | version id number => exact .ofOperation ((aside_version id number).map _ |>.blind [])
  | rollback id number createdBy => exact .ofOperation ((aside_rollback ..).map _ |>.blind [])
  | setStatus id status => exact .ofOperation ((aside_setStatus id status).map _ |>.blind [])
  | dispatch key payload scope =>
      exact .bind (blind_dispatch hperform key payload scope) fun _ => .ended _
  | dispatchCounted key payload scope follow =>
      exact .bind (blind_dispatchCounted hperform key payload scope follow) fun _ => .ended _
  | dispatchChains key payload scope =>
      exact .bind (blind_dispatchChains hperform key payload scope) fun _ => .ended _

theorem Careful.blind {p : Activity (Engine X) α} (h : Careful kind p) :
    Activity.Blind (Rebuilt kind limit []) p := by
  induction h with
  | ended outcome => exact .ended outcome
  | pause _ ih => exact .pause ih
  | errand errand _ _ handlers ih => exact .andThen (blind_runErrand handlers errand) ih
  | elsewhere apart _ ih => exact .andThen (.ofOperation (apart.aside.blind [])) ih

end Engine

end Workflow
