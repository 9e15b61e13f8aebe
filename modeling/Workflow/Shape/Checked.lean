import Workflow.Shape.Issue

/-!
# Checked values

Checking the parts of a value one by one either finds that all of them fit, or collects the issues
of all of them in order.
-/

namespace Workflow

/-- The outcome of checking a value: what it means, or everything wrong with it. -/
inductive Checked (α : Type) where
  | good (result : α)
  | bad (issues : List Issue)
  deriving Repr

namespace Checked

variable {α β : Type}

/-- Change the result. -/
def map (f : α → β) : Checked α → Checked β
  | .good a => .good (f a)
  | .bad issues => .bad issues

/-- Check two parts and keep the issues of both. -/
def apply (f : Checked (α → β)) (a : Checked α) : Checked β :=
  match f, a with
  | .good f, .good a => .good (f a)
  | .good _, .bad issues => .bad issues
  | .bad issues, .good _ => .bad issues
  | .bad first, .bad second => .bad (first ++ second)

instance : Functor Checked where
  map := map

instance : Applicative Checked where
  pure := .good
  seq f a := apply f (a ())

/-- A single issue with the value itself. -/
def wrong (mismatch : Mismatch) : Checked α := .bad [⟨[], mismatch⟩]

/-- Move every issue into a part. -/
def within (place : Place) : Checked α → Checked α
  | .good a => .good a
  | .bad issues => .bad (issues.map fun issue => { issue with path := place :: issue.path })

/-- Go on with the result, when there is one. -/
def andThen (a : Checked α) (f : α → Checked β) : Checked β :=
  match a with
  | .good a => f a
  | .bad issues => .bad issues

@[simp] theorem map_good (f : α → β) (a : α) : map f (.good a) = .good (f a) := rfl
@[simp] theorem apply_good (f : α → β) (a : α) : apply (.good f) (.good a) = .good (f a) := rfl
@[simp] theorem functor_map (f : α → β) (a : Checked α) : f <$> a = map f a := rfl
@[simp] theorem seq_eq (f : Checked (α → β)) (a : Checked α) : f <*> a = apply f a := rfl
@[simp] theorem pure_eq (a : α) : (pure a : Checked α) = .good a := rfl
@[simp] theorem within_good (place : Place) (a : α) :
    within place (.good a) = .good a := rfl

end Checked

/-- A way to read a value. -/
abbrev Decoder (α : Type) := Value → Checked α

end Workflow
