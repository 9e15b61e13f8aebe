import Workflow.Operation

/-!
# Activities

An activity is an operation that may give way to others on its way. Several activities on one state
go side by side: each in turn works up to its next pause, round after round, until all have ended.
An activity that never pauses works like an operation, and then going side by side is the same as
going one after the other.
-/

namespace Workflow

/-- Work on a state of type `σ` with pauses, which ends with an `α` or a fault. -/
inductive Activity (σ α : Type) where
  /-- The end. -/
  | ended (outcome : Except Fault α)
  /-- Change the state, and go on depending on what it was. -/
  | act (change : σ → σ) (rest : σ → Activity σ α)
  /-- Give way to others, and then go on. -/
  | pause (rest : Activity σ α)

namespace Activity

variable {σ α β γ : Type}

/-- Carry an activity out on its own. -/
def run : Activity σ α → σ → Except Fault α × σ
  | .ended outcome, s => (outcome, s)
  | .act change rest, s => run (rest s) (change s)
  | .pause rest, s => run rest s

/-- Go on with the outcome of an activity. -/
def andThen (next : Except Fault α → Activity σ β) : Activity σ α → Activity σ β
  | .ended outcome => next outcome
  | .act change rest => .act change fun s => andThen next (rest s)
  | .pause rest => .pause (andThen next rest)

instance : Monad (Activity σ) where
  pure a := .ended (.ok a)
  bind p f := p.andThen fun
    | .ok a => f a
    | .error fault => .ended (.error fault)

/-- An operation as an activity without pauses. -/
def ofOperation (operation : Operation σ α) : Activity σ α :=
  .act (fun s => (operation.perform s).2) fun s => .ended (operation.perform s).1

instance : MonadLift (Operation σ) (Activity σ) := ⟨ofOperation⟩

/-- Carry an activity out and keep its fault as a result. -/
def attempt (p : Activity σ α) : Activity σ (Except Fault α) :=
  p.andThen fun outcome => .ended (.ok outcome)

/-- Give way to others. -/
def giveWay : Activity σ Unit := .pause (.ended (.ok ()))

/-- Work up to the next pause, and then do one thing if the activity has ended there and another if
it goes on. -/
def turn (atEnd : Except Fault α → Activity σ β) (atPause : Activity σ α → Activity σ β) :
    Activity σ α → Activity σ β
  | .ended outcome => atEnd outcome
  | .act change rest => .act change fun s => turn atEnd atPause (rest s)
  | .pause rest => atPause rest

/-- Both of two outcomes, or the first fault. -/
def both (first : Except Fault α) (second : Except Fault β) : Except Fault (α × β) :=
  match first, second with
  | .ok a, .ok b => .ok (a, b)
  | .error fault, _ | _, .error fault => .error fault

/-- Two activities side by side. The first one has the first turn, and a round is over when both had
theirs. -/
def beside : Activity σ α → Activity σ β → Activity σ (α × β)
  | .ended first, q => q.andThen fun second => .ended (both first second)
  | .act change rest, q => .act change fun s => beside (rest s) q
  | .pause rest, q =>
    turn (fun second => .pause (rest.andThen fun first => .ended (both first second)))
      (fun later => .pause (beside rest later)) q

/-- Activities side by side, each with its turn in every round. -/
def together : List (Activity σ α) → Activity σ (List α)
  | [] => pure []
  | p :: rest => do
    let (a, more) ← beside p (together rest)
    pure (a :: more)

@[simp] theorem run_ended (outcome : Except Fault α) (s : σ) :
    (ended outcome : Activity σ α).run s = (outcome, s) := rfl

@[simp] theorem run_ofOperation (operation : Operation σ α) (s : σ) :
    (ofOperation operation).run s = operation.perform s := rfl

@[simp] theorem run_giveWay (s : σ) : (giveWay : Activity σ Unit).run s = (.ok (), s) := rfl

theorem run_andThen (p : Activity σ α) (next : Except Fault α → Activity σ β) (s : σ) :
    (p.andThen next).run s = (next (p.run s).1).run (p.run s).2 := by
  induction p generalizing s with
  | ended outcome => rfl
  | act change rest ih => exact ih s (change s)
  | pause rest ih => exact ih s

theorem run_bind (p : Activity σ α) (f : α → Activity σ β) (s : σ) :
    (p >>= f).run s =
      match p.run s with
      | (.ok a, s) => (f a).run s
      | (.error fault, s) => (.error fault, s) := by
  simp only [bind, run_andThen]
  cases h : p.run s with
  | mk outcome s' => cases outcome <;> rfl

end Activity

end Workflow
