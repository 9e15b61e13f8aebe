import Workflow.Fault
import Workflow.Graph.Check

/-!
# Graphs

A graph is a definition that passed every check. It is made once and then only asked: which step
has an id, which edges leave a step, and where a routine goes next.
-/

namespace Workflow

/-- A definition that passed the checks of its rules. -/
structure Graph where
  rules : Graph.Rules
  definition : Definition
  accepted : Graph.violations rules definition = []

namespace Graph

/-- Check a definition and make it a graph. -/
def ofDefinition (rules : Rules) (d : Definition) : Except Fault Graph :=
  match h : violations rules d with
  | [] => .ok ⟨rules, d, h⟩
  | found => .error (.invalidGraph found)

theorem triggerCount_eq_nil (graph : Graph) : triggerCount graph.definition = [] := by
  have h := graph.accepted
  simp only [violations, List.append_eq_nil_iff] at h
  exact h.1.1.1.1.1.1.2

theorem triggers_ne_nil (graph : Graph) : graph.definition.triggers ≠ [] := by
  intro h
  have := graph.triggerCount_eq_nil
  simp [triggerCount, h] at this

/-- The step that starts the routine. -/
def trigger (graph : Graph) : Step := graph.definition.triggers.head graph.triggers_ne_nil

/-- The steps, in the order they were declared. -/
def steps (graph : Graph) : List Step := graph.definition.steps

/-- The number of steps. -/
def size (graph : Graph) : Nat := graph.steps.length

/-- The step with an id. -/
def node? (graph : Graph) (id : String) : Option Step :=
  graph.steps.find? fun step => step.id = id

/-- The step with an id, which must be one of the graph's. -/
def node (graph : Graph) (id : String) : Except Fault Step :=
  match graph.node? id with
  | some step => .ok step
  | none => .error (.unknownStep id)

/-- The edges that leave a step, in the order they were declared. -/
def outgoing (graph : Graph) (id : String) : List Edge := edgesFrom graph.definition.edges id

/-- The first edge of a step that needs no choice. -/
def defaultEdge? (graph : Graph) (id : String) : Option Edge :=
  (graph.outgoing id).find? Edge.isDefault

/-- The first edge of a step that carries a handle, or none when it is asked for one without. -/
def edgeForHandle? (graph : Graph) (id : String) (handle : Option String) : Option Edge :=
  (graph.outgoing id).find? fun edge => edge.handle = handle

/-- The step a routine goes on to without a choice. -/
def stepAfter? (graph : Graph) (id : String) : Option Step :=
  (graph.defaultEdge? id).bind fun edge => graph.node? edge.target

/-- The step a fired trigger hands over to: the first declared step that is not the trigger. -/
def firstActionable? (graph : Graph) : Option Step :=
  graph.steps.find? fun step => step.id ≠ graph.trigger.id

/-- Something asked of a step, which must be one of the graph's. -/
def ask {α : Type} (graph : Graph) (id : String) (answer : α) : Except Fault α :=
  (graph.node id).map fun _ => answer

end Graph

end Workflow
