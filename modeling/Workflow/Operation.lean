import Workflow.Fault

/-!
# Operations

An operation works on a state and ends with a result or a fault. What it changed before a fault
stays changed, because nothing is taken back in a store or in a running conversation.
-/

namespace Workflow

/-- Work on a state of type `σ` that ends with an `α` or a fault. -/
abbrev Operation (σ α : Type) := ExceptT Fault (StateM σ) α

namespace Operation

variable {σ τ α β : Type}

/-- Carry an operation out. -/
def perform (operation : Operation σ α) (s : σ) : Except Fault α × σ :=
  StateT.run (ExceptT.run operation) s

/-- The operation that works on a state as a function says. -/
def ofFunction (f : σ → Except Fault α × σ) : Operation σ α := fun s => f s

/-- End with a fault. -/
def fail (fault : Fault) : Operation σ α := throw fault

/-- A result or a fault that is already there. -/
def ofExcept (outcome : Except Fault α) : Operation σ α := fun s => (outcome, s)

/-- Carry an operation out and keep its fault as a result. -/
def attempt (operation : Operation σ α) : Operation σ (Except Fault α) := fun s =>
  let (outcome, s) := operation.perform s
  (.ok outcome, s)

/-- Work on one part of a larger state. -/
def within (get : τ → σ) (put : σ → τ → τ) (operation : Operation σ α) : Operation τ α := fun t =>
  let (outcome, s) := operation.perform (get t)
  (outcome, put s t)

/-- One operation for each item, until one faults. -/
def each (f : β → Operation σ α) : List β → Operation σ (List α)
  | [] => pure []
  | b :: rest => do
    let a ← f b
    let more ← each f rest
    pure (a :: more)

@[simp] theorem perform_pure (a : α) (s : σ) :
    (pure a : Operation σ α).perform s = (.ok a, s) := rfl

@[simp] theorem perform_fail (fault : Fault) (s : σ) :
    (fail fault : Operation σ α).perform s = (.error fault, s) := rfl

@[simp] theorem perform_ofExcept (outcome : Except Fault α) (s : σ) :
    (ofExcept outcome : Operation σ α).perform s = (outcome, s) := rfl

@[simp] theorem perform_attempt (operation : Operation σ α) (s : σ) :
    (attempt operation).perform s = (.ok (operation.perform s).1, (operation.perform s).2) := rfl

theorem perform_bind (operation : Operation σ α) (f : α → Operation σ β) (s : σ) :
    (operation >>= f).perform s =
      match operation.perform s with
      | (.ok a, s) => (f a).perform s
      | (.error fault, s) => (.error fault, s) := by
  simp only [perform, bind, ExceptT.bind, ExceptT.mk, ExceptT.run, StateT.run, StateT.bind,
    ExceptT.bindCont]
  cases h : operation s with
  | mk outcome s' => cases outcome <;> rfl

end Operation

end Workflow
