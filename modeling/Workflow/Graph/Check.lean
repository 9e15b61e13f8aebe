import Workflow.Graph.Cycle
import Workflow.Graph.Violation

/-!
# Checking a definition

The checks run over the whole definition and each adds its violations in the order of the
declarations. Edges with an end that is no step are reported once and left out of the later checks,
and cycles are looked for only when the ids tell the steps apart.
-/

namespace Workflow.Graph

/-- What a definition is held to. -/
structure Rules where
  /-- At most one edge of a step may be followed without a choice. -/
  strict : Bool := true
  /-- The greatest number of steps, if there is one. -/
  maxSteps : Option Int := none
  deriving DecidableEq, Repr

/-- The definition has more steps than allowed. -/
def tooLarge (rules : Rules) (d : Definition) : List Violation :=
  match rules.maxSteps with
  | some limit =>
    if limit < d.steps.length then [.tooManySteps d.steps.length limit] else []
  | none => []

/-- The ids that stand before their repetition, in the order of the repetitions. -/
def repeatedIds : List String → List String → List String
  | _, [] => []
  | seen, id :: rest =>
    if seen.contains id then id :: repeatedIds seen rest else repeatedIds (id :: seen) rest

/-- The number of triggers is not one. -/
def triggerCount (d : Definition) : List Violation :=
  match d.triggers with
  | [] => [.noTrigger]
  | [_] => []
  | many => [.manyTriggers (many.map Step.id)]

/-- What is wrong with the ends of an edge. -/
def danglingEnds (ids : List String) (edge : Edge) : List Violation :=
  (if ids.contains edge.source then [] else [.danglingSource edge.source edge.target]) ++
    (if ids.contains edge.target then [] else [.danglingTarget edge.source edge.target])

/-- Both ends of the edge are steps. -/
def connects (ids : List String) (edge : Edge) : Bool :=
  ids.contains edge.source && ids.contains edge.target

/-- The ids of the triggers, each once. -/
def triggerIds (d : Definition) : List String := (d.triggers.map Step.id).eraseDups

/-- The edges that leave a step. -/
def edgesFrom (edges : List Edge) (id : String) : List Edge :=
  edges.filter fun edge => edge.source = id

/-- The triggers some edge leads to, in the order of their ids. -/
def enteredTriggers (d : Definition) (edges : List Edge) : List String :=
  ((triggerIds d).filter fun id => (edges.map Edge.target).contains id).mergeSort
    fun a b => decide (a ≤ b)

/-- The steps no edge leads to, triggers aside. -/
def unreachableSteps (d : Definition) (edges : List Edge) : List String :=
  d.ids.filter fun id =>
    !(triggerIds d).contains id && !(edges.map Edge.target).contains id

/-- What is wrong with the edges that leave a trigger. -/
def triggerExit (edges : List Edge) (id : String) : List Violation :=
  let out := edgesFrom edges id
  (if 1 < out.length then [.branchingTrigger id out.length] else []) ++
    (if out.all Edge.isDefault then [] else [.handledTrigger id])

/-- The step has several edges that need no choice. -/
def ambiguousDefault (edges : List Edge) (id : String) : List Violation :=
  let defaults := (edgesFrom edges id).filter Edge.isDefault
  if 1 < defaults.length then [.manyDefaults id (defaults.map Edge.target)] else []

/-- Everything wrong with a definition. -/
def violations (rules : Rules) (d : Definition) : List Violation :=
  let edges := d.edges.filter (connects d.ids)
  tooLarge rules d ++
    (repeatedIds [] d.ids).map .repeatedId ++
    triggerCount d ++
    d.edges.flatMap (danglingEnds d.ids) ++
    (enteredTriggers d edges).map .enteredTrigger ++
    (unreachableSteps d edges).map .unreachable ++
    (triggerIds d).flatMap (triggerExit edges) ++
    (if rules.strict then
      (edges.map Edge.source).eraseDups.flatMap (ambiguousDefault edges)
    else []) ++
    (if (repeatedIds [] d.ids).isEmpty then
      let stuck := stuckSteps d.steps edges
      if stuck.isEmpty then [] else [.cycle stuck]
    else [])

end Workflow.Graph
