import Workflow.Graph.Step

/-!
# Cycles that never wait

A routine that goes around without passing a step that waits for a person would never stop. To find
out, steps are taken away one after another: first those that no flowing edge leads to, then those
whose last flowing edge came from a step that has been taken away. For this the flowing edges into
each step are counted, and the count goes down as the steps before it go. When no step is left that
could be taken away and some were not, these steps are reported.
-/

namespace Workflow.Graph

/-- The ids of the steps that wait for a person. -/
def waitingIds (steps : List Step) : List String := (steps.filter Step.interactive).map Step.id

/-- The edges that are followed without waiting. -/
def flowing (steps : List Step) (edges : List Edge) : List Edge :=
  edges.filter fun edge => !(waitingIds steps).contains edge.source

/-- For each step how many flowing edges lead to it, and where those that leave it lead. -/
structure Flow where
  /-- The number of edges that lead to a step. -/
  degrees : Dict Int
  /-- The steps that the edges of a step lead to. -/
  targets : Dict (List String)

/-- No edges between the steps. -/
def Flow.none (ids : List String) : Flow :=
  { degrees := Dict.ofEntries (ids.map fun id => (id, 0))
    targets := Dict.ofEntries (ids.map fun id => (id, [])) }

/-- Take an edge in, if both of its ends are steps. -/
def Flow.add (flow : Flow) (edge : Edge) : Flow :=
  if flow.targets.has edge.source && flow.degrees.has edge.target then
    { degrees := flow.degrees.modify edge.target (· + 1)
      targets := flow.targets.modify edge.source (· ++ [edge.target]) }
  else flow

/-- What the edges make of the steps. -/
def Flow.of (ids : List String) (edges : List Edge) : Flow := edges.foldl Flow.add (Flow.none ids)

/-- What is left of the counts, and the steps that may be taken away next. -/
structure Front where
  /-- The number of edges that still lead to a step. -/
  degrees : Dict Int
  /-- The steps that no edge leads to any more, in the order in which this came to be. -/
  queue : List String

/-- The step before this one has been taken away, and with it one edge. -/
def Front.release (front : Front) (target : String) : Front :=
  let degrees := front.degrees.modify target (· - 1)
  { degrees
    queue := if degrees.get? target = some 0 then front.queue ++ [target] else front.queue }

/-- The steps in the queue and the edges that still count. -/
def Front.size (front : Front) : Nat :=
  front.queue.length + front.degrees.foldr (fun entry total => entry.2.toNat + total) 0

theorem total_modify {degrees : Dict Int} {id : String} {n : Int}
    (h : degrees.get? id = some n) :
    (degrees.modify id (· - 1)).foldr (fun entry total => entry.2.toNat + total) 0 + n.toNat =
      degrees.foldr (fun entry total => entry.2.toNat + total) 0 + (n - 1).toNat := by
  induction degrees with
  | nil => simp at h
  | cons entry rest ih =>
      obtain ⟨k, v⟩ := entry
      by_cases hk : k = id
      · simp only [Dict.get?, hk, if_true, Option.some.injEq] at h
        simp only [Dict.modify, hk, if_true, h, List.foldr_cons]
        omega
      · simp only [Dict.get?, hk, if_false] at h
        have := ih h
        simp only [Dict.modify, hk, if_false, List.foldr_cons]
        omega

/-- A step comes into the queue only for an edge that no longer counts. -/
theorem Front.size_release_le (front : Front) (target : String) :
    (front.release target).size ≤ front.size := by
  obtain ⟨degrees, queue⟩ := front
  have hself := Dict.get?_modify_self degrees target (· - 1)
  cases hget : degrees.get? target with
  | none =>
      simp [release, size, Dict.modify_eq_self hget, hget]
  | some n =>
      rw [hget, Option.map_some] at hself
      have htotal := total_modify hget
      simp only [release, size, hself, Option.some.injEq]
      split
      · rw [List.length_append, List.length_singleton]
        omega
      · omega

theorem Front.size_foldl_release_le (targets : List String) (front : Front) :
    (targets.foldl Front.release front).size ≤ front.size := by
  induction targets generalizing front with
  | nil => exact Nat.le_refl _
  | cons target rest ih => exact Nat.le_trans (ih _) (front.size_release_le target)

/-- Take steps away until the queue is empty. What is left of the counts, and the number of steps
taken away. -/
def sweep (targets : Dict (List String)) (front : Front) (visited : Nat) : Dict Int × Nat :=
  match hqueue : front.queue with
  | [] => (front.degrees, visited)
  | id :: rest =>
    sweep targets (((targets.get? id).getD []).foldl Front.release { front with queue := rest })
      (visited + 1)
termination_by front.size
decreasing_by
  refine Nat.lt_of_le_of_lt (Front.size_foldl_release_le _ _) ?_
  simp only [Front.size, hqueue, List.length_cons]
  omega

/-- At first the steps that no edge leads to may be taken away. -/
def Flow.front (flow : Flow) : Front :=
  { degrees := flow.degrees
    queue := Dict.keys (flow.degrees.filter fun entry => entry.2 = 0) }

/-- The steps left over when every step that can be taken away has been. -/
def stuckSteps (steps : List Step) (edges : List Edge) : List String :=
  let flow := Flow.of (steps.map Step.id) (flowing steps edges)
  let swept := sweep flow.targets flow.front 0
  if swept.2 = flow.degrees.length then []
  else (steps.map Step.id).filter fun id => decide (0 < (swept.1.get? id).getD 0)

end Workflow.Graph
