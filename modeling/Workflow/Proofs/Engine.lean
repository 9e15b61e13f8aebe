import Workflow.Engine.Basic
import Workflow.Proofs.Operation

/-!
# Reasoning about work on an engine

Work on the store of an engine does to the engine what it does to the store, and checking a
definition leaves the engine as it is.
-/

namespace Workflow

theorem Graph.of_ofDefinition {rules : Rules} {d : Definition} {graph : Graph}
    (h : ofDefinition rules d = .ok graph) :
    violations rules d = [] ∧ graph.definition = d := by
  unfold ofDefinition at h
  split at h
  · cases h
    exact ⟨‹_›, rfl⟩
  · cases h

theorem Graph.exists_ofDefinition {rules : Rules} {d : Definition}
    (accepted : violations rules d = []) : ∃ graph, ofDefinition rules d = .ok graph := by
  unfold ofDefinition
  split
  · exact ⟨_, rfl⟩
  · exact absurd accepted ‹_›

theorem Graph.ofDefinition_eq_error {rules : Rules} {d : Definition} (h : violations rules d ≠ []) :
    ofDefinition rules d = .error (.invalidGraph (violations rules d)) := by
  unfold ofDefinition
  split
  · exact absurd ‹_› h
  · rfl

namespace Engine

variable {X α : Type} {engine : Engine X}

theorem perform_stored {work : Store.Work α} {outcome : Except Fault α} {store store' : Store}
    (hstore : engine.store = store) (h : work.perform store = (outcome, store')) :
    (stored work).perform engine = (outcome, { engine with store := store' }) := by
  rw [stored, Operation.perform_within, hstore, h]

/-- Asking the store changes nothing. -/
theorem perform_stored_same {work : Store.Work α} {outcome : Except Fault α} {store : Store}
    (hstore : engine.store = store) (h : work.perform store = (outcome, store)) :
    (stored work).perform engine = (outcome, engine) := by
  rw [perform_stored hstore h, ← hstore]

/-- The operation ends with a fault and leaves the engine as it was. -/
def Refuses (engine : Engine X) (operation : Work X α) : Prop :=
  ∃ fault, operation.perform engine = (.error fault, engine)

theorem Refuses.bind {β : Type} {operation : Work X α} (h : engine.Refuses operation)
    (f : α → Work X β) : engine.Refuses (operation >>= f) := by
  obtain ⟨fault, hfault⟩ := h
  exact ⟨fault, Operation.perform_bind_error hfault⟩

theorem Refuses.of_bind {β : Type} {operation : Work X α} {a : α}
    (h : operation.perform engine = (.ok a, engine)) {f : α → Work X β}
    (hf : engine.Refuses (f a)) : engine.Refuses (operation >>= f) := by
  obtain ⟨fault, hfault⟩ := hf
  exact ⟨fault, (Operation.perform_bind_ok h).trans hfault⟩

theorem perform_check (d : Definition) :
    (check d).perform engine = (Graph.ofDefinition (rules engine.settings) d, engine) := rfl

theorem exists_perform_check {d : Definition}
    (accepted : Graph.violations (rules engine.settings) d = []) :
    ∃ graph, (check d).perform engine = (.ok graph, engine) := by
  obtain ⟨graph, hgraph⟩ := Graph.exists_ofDefinition accepted
  exact ⟨graph, by rw [perform_check, hgraph]⟩

/-- A definition with violations is refused with all of them. -/
theorem perform_check_of_violations {d : Definition}
    (violated : Graph.violations (rules engine.settings) d ≠ []) :
    (check d).perform engine =
      (.error (.invalidGraph (Graph.violations (rules engine.settings) d)), engine) := by
  rw [perform_check, Graph.ofDefinition_eq_error violated]

end Engine

end Workflow
