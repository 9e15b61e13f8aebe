import Workflow.Engine.Catalog
import Workflow.Engine.Dispatch
import Workflow.Proofs.Dispatch.AtHand
import Workflow.Proofs.Scope.Sees

/-!
# The life of the routines of a scope

Everything that the life of routines offers for a routine of a scope is blind to what lies behind
the share of the scope, and so is passing on an event to the scope. A routine is asked for in a
scope first, and what belongs to another scope is not there.
-/

namespace Workflow.Engine

variable {X α : Type} {o : Outlook X} {engine engine' : Engine X} {id : String}

open Operation (Blind)

/-- A routine is given out under its own identifier. -/
theorem id_of_routine {within : Option String} {found : Routine} (h : Sees o engine engine')
    (hfound : ((routine id within).perform engine).1 = .ok found) : found.id = id := by
  obtain ⟨_, records, _, hshows, -⟩ := h
  have hask := perform_stored_same hshows.store (Store.perform_routine? hshows.tidy.readable id)
  rw [routine, Operation.perform_bind_ok hask] at hfound
  cases hstored : records.routine? id with
  | none =>
      rw [hstored] at hfound
      cases hfound
  | some r =>
      rw [hstored] at hfound
      change ((if _ then pure r else _ : Work X Routine).perform engine).1 = _ at hfound
      split at hfound
      · cases hfound
        exact (Memory.mem_of_routine? hstored).2
      · cases hfound

/-- What is given out in a scope belongs to it. -/
theorem mine_of_routine {found : Routine} (h : Sees o engine engine')
    (hfound : ((routine id (some o.scope)).perform engine).1 = .ok found) : o.mine id = true := by
  obtain ⟨_, records, _, hshows, -⟩ := h
  by_contra hnot
  rw [hshows.routine_refused (Bool.eq_false_iff.mpr hnot)] at hfound
  cases hfound

theorem blind_routine (hmine : o.mine id = true) (within : Option String) :
    Blind (Sees o) (routine id within : Work X Routine) := by
  refine .bind (blind_routine? hmine) fun found => ?_
  cases found with
  | none => exact .fail _
  | some routine => exact .ite (fun _ => .pure _) fun _ => .fail _

/-- Asking for a routine in the scope, whoever has it. -/
theorem blind_routine_within (id : String) :
    Blind (Sees o) (routine id (some o.scope) : Work X Routine) := by
  cases hmine : o.mine id with
  | true => exact blind_routine hmine _
  | false =>
      intro s t ⟨share, records, records', hs, ht, hmade⟩
      rw [hs.routine_refused hmine, ht.routine_refused hmine]
      exact ⟨rfl, share, records, records', hs, ht, hmade⟩

theorem blind_template (key : String) : Blind (Sees o) (template key : Work X Template) := by
  refine .bind (blind_templateByKey? key) fun found => ?_
  cases found with
  | some template => exact .pure _
  | none =>
      refine .bind (blind_template? key) fun found => ?_
      cases found with
      | some template => exact .pure _
      | none => exact .fail _

section Lifecycle

variable (hmine : o.mine id = true)

include hmine

theorem blind_record (definition : Definition) (createdBy : String) :
    Blind (Sees o) (record id definition createdBy : Work X Snapshot) :=
  .bind (blind_listSnapshots hmine) fun _ => .bind (blind_insertSnapshot hmine) fun _ =>
    .bind (blind_notify _) fun _ => .pure _

omit hmine in
/-- The number of a version that is recorded counts from one and fits into the store. -/
theorem number_of_record {definition : Definition} {createdBy : String} {snapshot : Snapshot}
    (h : Sees o engine engine')
    (hrecord : ((record id definition createdBy).perform engine).1 = .ok snapshot) :
    1 ≤ snapshot.version ∧ o.kind.Fits snapshot.version := by
  obtain ⟨_, records, _, hshows, -⟩ := h
  have hlisted := perform_stored_same hshows.store (Store.perform_listSnapshots id)
  rcases hperform : (record id definition createdBy).perform engine with ⟨outcome, after⟩
  obtain rfl : outcome = .ok snapshot := (congrArg Prod.fst hperform).symm.trans hrecord
  rw [record, Operation.perform_bind_ok hlisted] at hperform
  obtain ⟨_, between, hinsert, hperform⟩ := Operation.exists_of_perform_bind hperform
  obtain ⟨_, _, _, hperform⟩ := Operation.exists_of_perform_bind hperform
  cases hperform
  constructor
  · have hpos (versions : List Int) (low : Int) (hlow : 0 ≤ low) : 0 ≤ versions.foldl max low := by
      induction versions generalizing low with
      | nil => exact hlow
      | cons v rest ih => exact ih _ (Int.le_trans hlow (Int.le_max_left _ _))
    have := hpos ((records.listSnapshots id).map Snapshot.version) 0 (Int.le_refl 0)
    change 1 ≤ _ + 1
    omega
  · by_contra hfits
    rw [perform_stored_same hshows.store (Store.perform_insertSnapshot_of_not_fits hfits)] at hinsert
    cases hinsert

theorem blind_editable : Blind (Sees o) (editable id : Work X Routine) :=
  .bind (blind_routine hmine none) fun _ => .ite (fun _ => .fail _) fun _ => .pure _

/-- The routine that may change is the one asked for. -/
theorem editable_bind {f : Routine → Work X α} (h : ∀ r, r.id = id → Blind (Sees o) (f r)) :
    Blind (Sees o) (editable id >>= f) := by
  refine (blind_editable hmine).bind_given fun r ⟨s, t, hst, hgiven⟩ => h r ?_
  rcases hperform : (editable id).perform s with ⟨outcome, after⟩
  obtain rfl : outcome = .ok r := (congrArg Prod.fst hperform).symm.trans hgiven
  obtain ⟨found, between, hroutine, hperform⟩ := Operation.exists_of_perform_bind hperform
  have hid := id_of_routine hst (congrArg Prod.fst hroutine)
  split at hperform
  · cases hperform
  · cases hperform
    exact hid

theorem blind_advance (definition : Definition) (createdBy : String) :
    Blind (Sees o) (advance id definition createdBy : Work X Routine) := by
  refine (blind_record hmine definition createdBy).bind_given fun snapshot ⟨s, t, hst, hgiven⟩ => ?_
  obtain ⟨hpos, hfits⟩ := number_of_record hst hgiven
  refine .bind (blind_setDefinition hmine definition hpos hfits) fun found => ?_
  cases found with
  | none => exact .fail _
  | some routine => exact .pure _

theorem blind_updateDefinition (definition : Definition) (createdBy : String) :
    Blind (Sees o) (updateDefinition id definition createdBy : Work X Routine) := by
  refine editable_bind hmine fun r hid => .bind (blind_check definition) fun _ => ?_
  exact blind_advance (hid ▸ hmine) definition createdBy

theorem blind_version (number : Int) : Blind (Sees o) (version id number : Work X Snapshot) := by
  refine .bind (blind_snapshot? hmine number) fun found => ?_
  cases found with
  | none => exact .fail _
  | some snapshot => exact .pure _

theorem blind_rollback (number : Int) (createdBy : String) :
    Blind (Sees o) (rollback id number createdBy : Work X Routine) := by
  refine editable_bind hmine fun r hid => .bind (blind_version hmine number) fun target => ?_
  exact blind_advance (hid ▸ hmine) target.definition createdBy

theorem blind_history : Blind (Sees o) (history id : Work X (List Snapshot)) :=
  .bind (blind_routine hmine none) fun _ => blind_listSnapshots hmine

theorem blind_setStatus (status : RoutineStatus) :
    Blind (Sees o) (setStatus id status : Work X Routine) := by
  refine .bind (blind_routine hmine none) fun found => .ite (fun _ => .pure _) fun _ =>
    .ite (fun _ => .fail _) fun _ => .bind (blind_putStatus hmine status) fun changed => ?_
  cases changed with
  | none => exact .fail _
  | some changed => exact .bind (blind_notify _) fun _ => .pure _

end Lifecycle

section Dispatch

/-- Without graphs at hand the graph of a routine is its definition, checked. -/
theorem Sees.blind_graphOf (routine : Routine) :
    Blind (Sees o) (graphOf routine : Work X Graph) := by
  have hperform {behind : Backdrop} {share records : Memory} {engine : Engine X}
      (h : Shows o behind share records engine) : (graphOf routine).perform engine =
        (Graph.ofDefinition (rules engine.settings) routine.definition, engine) := by
    have hsame : engine.rebuilt = engine := by rw [rebuilt, ← h.graphs]
    rw [← hsame, perform_graphOf_rebuilt]
    rfl
  intro s t ⟨share, records, records', hs, ht, hmade⟩
  rw [hperform hs, hperform ht, hs.settings, ht.settings]
  exact ⟨rfl, share, records, records', hs, ht, hmade⟩

theorem Sees.blind_nextIntent (intent : Intent) (result : StepResult)
    (hmine : o.mine intent.routine = true) :
    Blind (Sees o) (nextIntent intent result : Work X (Option Intent)) := by
  refine .ite (fun _ => .pure _) fun _ => .bind (blind_routine? hmine) fun found => ?_
  cases found with
  | none => exact .pure _
  | some routine =>
      exact .bind (Sees.blind_graphOf routine) fun graph => .bind (.ofExcept _) fun _ => .pure _

theorem blind_stepCount (hmine : o.mine id = true) : Blind (Sees o) (stepCount id : Work X Nat) := by
  refine .bind (blind_routine? hmine).attempt fun outcome => ?_
  split
  · exact .pure _
  · exact .pure _

variable (key : String) (payload : Fields)

theorem Sees.blind_matchRoutine (scope : String) (found : Matches) (routine : Routine) :
    Blind (Sees o) (matchRoutine key payload scope found routine : Work X Matches) := by
  have hverdict : Blind (Sees o) (verdict key payload routine : Work X Verdict) := by
    refine .bind (Sees.blind_graphOf routine).attempt fun outcome => ?_
    cases outcome with
    | ok graph => exact .pure _
    | error fault => exact .pure _
  refine .bind hverdict fun meant => ?_
  cases meant with
  | broken => exact .pure _
  | wordless => exact .fail _
  | silent => exact .pure _
  | stepless => exact .pure _
  | inactive =>
      refine .bind (.bind (blind_modify fun _ => ?_) fun _ => blind_notify _) fun _ => .pure _
      exact ⟨⟨rfl, rfl, rfl, rfl, rfl, rfl, Nat.le_refl _⟩, rfl⟩
  | due step => exact .bind blind_fresh fun _ => .pure _

theorem Sees.blind_matchAll :
    Blind (Sees o) (matchAll key payload o.scope : Work X Matches) :=
  .bind (blind_listRoutines none) fun listed => .foldlM listed (fun routine _ found =>
    Sees.blind_matchRoutine key payload o.scope found routine) _

/-- An event that is passed to a scope concerns routines of the scope only. -/
theorem mine_of_matchAll {found : Matches} (h : Sees o engine engine')
    (hfound : ((matchAll key payload o.scope).perform engine).1 = .ok found) {intent : Intent}
    (hintent : intent ∈ found.intents) : o.mine intent.routine = true := by
  obtain ⟨_, records, _, hshows, -⟩ := h
  rcases hperform : (matchAll key payload o.scope).perform engine with ⟨outcome, after⟩
  obtain rfl : outcome = .ok found := (congrArg Prod.fst hperform).symm.trans hfound
  obtain ⟨listed, _, hlisted, hperform⟩ := Operation.exists_of_perform_bind hperform
  rw [perform_stored_same hshows.store
    (Store.perform_listRoutines hshows.tidy.readable o.scope none)] at hlisted
  rcases context_of_matchEach hperform hintent with hnone | ⟨r, hr, hid, -⟩
  · cases hnone
  · have hmem := ((StoreKind.mem_of_listing (congrArg Prod.fst hlisted)).mp hr).1
    rw [hid, hshows.mine_id (List.mem_filter.mp hmem).1]
    simpa using (List.mem_filter.mp hmem).2

variable {perform : X → Context → Fields → Activity (Engine X) Returned}
variable (hperform : ∀ x context config, Activity.Blind (Sees o) (perform x context config))

include hperform

/-- What the library does for the routines of a scope does not find out what lies behind. -/
theorem discreet_sees : Discreet perform (Sees o) fun id => o.mine id = true where
  registry _ _ := fun ⟨_, _, _, hs, ht, _⟩ => hs.registry.trans ht.registry.symm
  notify := blind_notify
  send := blind_send
  audit _ _ hmine := .bind (blind_audit hmine _ _ _).attempt fun _ => .pure _
  next := Sees.blind_nextIntent
  count _ := blind_stepCount
  perform := hperform

theorem Sees.blind_dispatchCounted (follow : Bool) :
    Activity.Blind (Sees o) (dispatchCounted perform key payload o.scope follow) := by
  have hdiscreet := discreet_sees hperform
  refine .ofOperation_bind (Sees.blind_matchAll key payload) fun found ⟨s, t, hst, hfound⟩ => ?_
  have hmine : ∀ intent ∈ found.intents, o.mine intent.routine = true :=
    fun _ => mine_of_matchAll key payload hst hfound
  split
  · exact .bind (hdiscreet.runChains hmine) fun _ => .ended _
  · exact .bind (hdiscreet.runAll hmine) fun _ => .ended _

end Dispatch

end Workflow.Engine
