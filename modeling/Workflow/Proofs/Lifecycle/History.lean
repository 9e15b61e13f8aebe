import Workflow.Proofs.Lifecycle.Call

/-!
# Version histories over runs of calls

A run of calls starts with an empty store and goes on whether the calls succeed or fail. What a
store answers afterwards is stated by `Store.Finds` and `Store.Lists`, and `Routine.HasHistory` says
what a history has to look like. Each call keeps records in order, so a run of any length does.
-/

namespace Workflow

namespace Store

/-- The store finds the routine under its id. -/
def Finds (store : Store) (r : Routine) : Prop :=
  (routine? r.id).perform store = (.ok (some r), store)

/-- The store lists the snapshots as the versions of the routine with an id. -/
def Lists (store : Store) (id : String) (history : List Snapshot) : Prop :=
  (listSnapshots id).perform store = (.ok history, store)

end Store

/-- The versions in a history count from one without a gap, and the definition of the routine is the
one recorded under its version number. -/
structure Routine.HasHistory (r : Routine) (history : List Snapshot) : Prop where
  ne_nil : history ≠ []
  contiguous : Snapshot.Contiguous history
  bounds : 1 ≤ r.version ∧ r.version ≤ history.length
  current : ∃ s ∈ history, s.version = r.version ∧ s.definition = r.definition

namespace Memory.Chronicled

variable {made : Nat} {records : Memory}

theorem hasHistory (h : Chronicled made records) {r : Routine} (hr : r ∈ records.routines) :
    r.HasHistory (records.history r.id) where
  ne_nil := by
    obtain ⟨s, hs, _⟩ := h.current r hr
    exact List.ne_nil_of_mem hs
  contiguous := h.contiguous r.id
  bounds := h.version_bounds hr
  current := h.current r hr

end Memory.Chronicled

namespace Engine

variable {X : Type} {engine : Engine X} {kind : StoreKind} {records : Memory}

/-- The engine after calls in a row. -/
def afterCalls (engine : Engine X) (calls : List Call) : Engine X :=
  calls.foldl (fun engine call => call.after engine) engine

theorem Legible.finds_iff (h : engine.Legible kind records) {r : Routine} :
    engine.store.Finds r ↔ records.routine? r.id = some r := by
  rw [Store.Finds, h.store, Store.perform_routine? h.readable]
  simp

theorem Legible.lists_iff (h : engine.Legible kind records) {id : String}
    {history : List Snapshot} : engine.store.Lists id history ↔ records.history id = history := by
  rw [Store.Lists, h.store, Store.perform_listSnapshots,
    Memory.listSnapshots_eq (h.contiguous id)]
  simp

namespace Keeps

theorem finds_iff (h : engine.Keeps kind records) {r : Routine} :
    engine.store.Finds r ↔ records.routine? r.id = some r := h.legible.finds_iff

theorem lists_iff (h : engine.Keeps kind records) {id : String} {history : List Snapshot} :
    engine.store.Lists id history ↔ records.history id = history := h.legible.lists_iff

/-- An engine that changes its records in one of the ways there are keeps them in order and takes
nothing back. -/
theorem of_changes (h : engine.Keeps kind records) {engine' : Engine X}
    (changes : Call.Changes engine kind records engine') :
    ∃ records', engine'.Keeps kind records' ∧ records.Extends records' := by
  obtain ⟨made, records', told, change, rfl⟩ := changes
  exact ⟨records', ⟨rfl, change.chronicled h.chronicled⟩, change.extends h.chronicled⟩

theorem afterCalls (h : engine.Keeps kind records) (calls : List Call) :
    ∃ records', (engine.afterCalls calls).Keeps kind records' ∧ records.Extends records' := by
  induction calls generalizing engine records with
  | nil => exact ⟨records, h, .refl records⟩
  | cons call rest ih =>
      obtain ⟨between, hbetween, hfirst⟩ := h.of_changes (call.changes h)
      obtain ⟨records', h', hrest⟩ := ih hbetween
      exact ⟨records', h', hfirst.trans hrest⟩

/-- A routine that got a definition as its next version is found with it. -/
theorem finds_advanced (h : engine.Keeps kind records) {id : String} {routine : Routine}
    (found : records.routine? id = some routine) (definition : Definition) (createdBy : String) :
    let snapshot := records.nextSnapshot id definition createdBy
    (engine.changed kind engine.made (records.advanceTo snapshot)
      [Memory.recordedNotice snapshot]).store.Finds
        { routine with definition, version := snapshot.version } := by
  intro snapshot
  have next := records.continues_nextSnapshot id definition createdBy
  have hafter : (engine.changed kind engine.made (records.advanceTo snapshot)
      [Memory.recordedNotice snapshot]).Keeps kind (records.advanceTo snapshot) :=
    ⟨rfl, h.chronicled.advanceTo found next⟩
  obtain rfl := (Memory.mem_of_routine? found).2
  exact hafter.finds_iff.mpr (Memory.routine?_advanceTo found)

end Keeps

/-- However calls follow each other, every routine has its definition recorded under its version
number, in a history that has no gap and is only ever added to; version numbers do not go back; an
update and a rollback make the next version; and an archived routine stays as it is. -/
theorem version_histories (kind : StoreKind) (engine : Engine X) (earlier later : List Call) :
    let before := { engine with store := kind.hold {} }.afterCalls earlier
    let after := before.afterCalls later
    (∀ r, before.store.Finds r → ∃ history, before.store.Lists r.id history ∧
      r.HasHistory history) ∧
    (∀ id history, before.store.Lists id history →
      ∃ more, after.store.Lists id (history ++ more)) ∧
    (∀ r, before.store.Finds r → ∃ r', r'.id = r.id ∧ after.store.Finds r' ∧ r.Succeeds r') ∧
    (∀ id definition createdBy r engine' history, before.store.Lists id history →
      (updateDefinition id definition createdBy).perform before = (.ok r, engine') →
      r.id = id ∧ r.version = history.length + 1 ∧ r.definition = definition ∧
        engine'.store.Finds r) ∧
    (∀ id number createdBy r engine' history, before.store.Lists id history →
      (rollback id number createdBy).perform before = (.ok r, engine') →
      r.id = id ∧ r.version = history.length + 1 ∧
        (∃ s ∈ history, s.version = number ∧ r.definition = s.definition) ∧
        engine'.store.Finds r) := by
  intro before after
  have hstart : { engine with store := kind.hold {} }.Keeps kind {} := ⟨rfl, .empty⟩
  obtain ⟨records, hbefore, -⟩ := hstart.afterCalls earlier
  obtain ⟨records', hafter, hextends⟩ := hbefore.afterCalls later
  refine ⟨?histories, ?recorded, ?stored, ?updated, ?returned⟩
  case histories =>
    intro r hr
    have found := hbefore.finds_iff.mp hr
    exact ⟨records.history r.id, hbefore.lists_iff.mpr rfl,
      hbefore.chronicled.hasHistory (Memory.mem_of_routine? found).1⟩
  case recorded =>
    intro id history hlists
    obtain ⟨more, hmore⟩ := hextends.history id
    rw [hbefore.lists_iff.mp hlists] at hmore
    exact ⟨more, hafter.lists_iff.mpr hmore.symm⟩
  case stored =>
    intro r hr
    obtain ⟨r', found', hsucceeds⟩ := hextends.routine r.id r (hbefore.finds_iff.mp hr)
    obtain hid := (Memory.mem_of_routine? found').2
    exact ⟨r', hid, hafter.finds_iff.mpr (hid ▸ found'), hsucceeds⟩
  case updated =>
    intro id definition createdBy r engine' history hlists hperform
    obtain rfl := hbefore.lists_iff.mp hlists
    rcases hbefore.legible.updateDefinition_outcome id definition createdBy with
      ⟨fault, refused⟩ | ⟨routine, found, _, _, updated⟩
    · cases hperform.symm.trans refused
    · cases hperform.symm.trans updated
      exact ⟨(Memory.mem_of_routine? found).2, rfl, rfl,
        hbefore.finds_advanced found definition createdBy⟩
  case returned =>
    intro id number createdBy r engine' history hlists hperform
    obtain rfl := hbefore.lists_iff.mp hlists
    rcases hbefore.legible.rollback_outcome id number createdBy with
      ⟨fault, refused⟩ | ⟨routine, found, _, s, hs, hnumber, updated⟩
    · cases hperform.symm.trans refused
    · cases hperform.symm.trans updated
      exact ⟨(Memory.mem_of_routine? found).2, rfl, ⟨s, hs, hnumber, rfl⟩,
        hbefore.finds_advanced found s.definition createdBy⟩

end Engine

end Workflow
