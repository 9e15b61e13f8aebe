import Workflow.Status

/-!
# Paths of states

A conversation that is idle may start to run; one that runs is suspended or completed some time; one
that is suspended may run again; and one that is completed stays so. The states that are told along
such a path begin a sequence of rounds, each suspended and then running, between the first running
and a final completed.
-/

namespace Workflow.RunState

/-- The states that may follow a state. -/
def successors : RunState → List RunState
  | .idle => [.running]
  | .running => [.suspended, .completed]
  | .suspended => [.running]
  | .completed => []

/-- The states told on the way from one state to another. -/
inductive Path : RunState → List RunState → RunState → Prop
  | stays (s : RunState) : Path s [] s
  | moves {s t u : RunState} {told : List RunState} (next : t ∈ s.successors)
      (rest : Path t told u) : Path s (t :: told) u

/-- So many times suspended and then running again. -/
def rounds (n : Nat) : List RunState := (List.replicate n [.suspended, .running]).flatten

namespace Path

variable {s t u : RunState} {told more : List RunState}

theorem single (next : t ∈ s.successors) : Path s [t] t := .moves next (.stays t)

theorem trans (first : Path s told t) (rest : Path t more u) : Path s (told ++ more) u := by
  induction first with
  | stays _ => exact rest
  | moves next _ ih => exact .moves next (ih rest)

theorem eq_getLast (h : Path s told u) : u = told.getLast?.getD s := by
  induction h with
  | stays _ => rfl
  | moves _ rest ih =>
      rw [List.getLast?_cons, Option.getD_some]
      exact ih

/-- Nothing leads back to idle. -/
theorem ne_idle (h : Path s told u) (hs : s ≠ .idle) : u ≠ .idle := by
  induction h with
  | stays _ => exact hs
  | @moves s t u told next _ ih =>
      refine ih ?_
      rintro rfl
      cases s <;> simp [successors] at next

/-- What may be told from a state on, up to the last round. -/
def Begins : RunState → List RunState → Prop
  | .idle, told => ∃ n, told <+: .running :: rounds n ++ [.completed]
  | .running, told => ∃ n, told <+: rounds n ++ [.completed]
  | .suspended, told => ∃ n, told <+: .running :: rounds n ++ [.completed]
  | .completed, told => told = []

theorem begins (h : Path s told u) : Begins s told := by
  induction h with
  | stays s =>
      cases s with
      | completed => rfl
      | _ => exact ⟨0, List.nil_prefix⟩
  | @moves s t u told next _ ih =>
      cases s with
      | idle =>
          obtain rfl := List.mem_singleton.mp next
          obtain ⟨n, hn⟩ := ih
          exact ⟨n, (List.prefix_cons_inj _).mpr hn⟩
      | running =>
          rcases List.mem_cons.mp next with rfl | next
          · obtain ⟨n, hn⟩ := ih
            exact ⟨n + 1, (List.prefix_cons_inj _).mpr hn⟩
          · obtain rfl := List.mem_singleton.mp next
            obtain rfl : told = [] := ih
            exact ⟨0, List.prefix_rfl⟩
      | suspended =>
          obtain rfl := List.mem_singleton.mp next
          obtain ⟨n, hn⟩ := ih
          exact ⟨n, (List.prefix_cons_inj _).mpr hn⟩
      | completed => cases next

end Path

end Workflow.RunState
