import Workflow.Number.Display

/-!
# Violations

A definition is checked as a whole, and everything wrong with it is reported at once. Each kind of
violation names the steps it is about.
-/

namespace Workflow

/-- A reason why a definition is not a graph. -/
inductive Violation where
  /-- More steps than allowed. -/
  | tooManySteps (count : Nat) (limit : Int)
  /-- A step with the id of an earlier one. -/
  | repeatedId (id : String)
  /-- No step starts the routine. -/
  | noTrigger
  /-- Several steps start the routine. -/
  | manyTriggers (ids : List String)
  /-- An edge starts nowhere. -/
  | danglingSource (source target : String)
  /-- An edge ends nowhere. -/
  | danglingTarget (source target : String)
  /-- An edge leads back to the trigger. -/
  | enteredTrigger (id : String)
  /-- No edge leads to the step. -/
  | unreachable (id : String)
  /-- Several edges leave the trigger. -/
  | branchingTrigger (id : String) (count : Nat)
  /-- An edge that needs a choice leaves the trigger. -/
  | handledTrigger (id : String)
  /-- Several edges can be followed without a choice. -/
  | manyDefaults (id : String) (targets : List String)
  /-- Steps that go around without ever waiting. -/
  | cycle (ids : List String)
  deriving DecidableEq, Repr

/-- A count in decimal. -/
def countText (n : Nat) : String := integerText n

namespace Violation

/-- Texts with commas between them. -/
def commas (texts : List String) : String := ", ".intercalate texts

/-- The text of a violation. -/
def message : Violation → String
  | .tooManySteps count limit =>
    "Graph has " ++ countText count ++ " steps; the maximum is " ++ integerText limit ++ "."
  | .repeatedId id => "Duplicate step id '" ++ id ++ "'."
  | .noTrigger => "Graph has no trigger step."
  | .manyTriggers ids =>
    "Graph has " ++ countText ids.length ++ " trigger steps (" ++ commas ids ++
      "); exactly one is required."
  | .danglingSource source target =>
    "Edge " ++ source ++ " -> " ++ target ++ ": source '" ++ source ++
      "' is not a step in this graph."
  | .danglingTarget source target =>
    "Edge " ++ source ++ " -> " ++ target ++ ": target '" ++ target ++
      "' is not a step in this graph."
  | .enteredTrigger id => "Trigger step '" ++ id ++ "' must not have incoming edges."
  | .unreachable id => "Step '" ++ id ++ "' is unreachable (no incoming edges)."
  | .branchingTrigger id count =>
    "Trigger step '" ++ id ++ "' has " ++ countText count ++
      " outgoing edges; at most one is allowed."
  | .handledTrigger id =>
    "Trigger step '" ++ id ++ "' has a handled outgoing edge; trigger edges take no handle."
  | .manyDefaults id targets =>
    "Step '" ++ id ++ "' has " ++ countText targets.length ++ " default edges (" ++
      commas targets ++ "); at most one unlabelled or 'continue' edge is allowed."
  | .cycle ids => "Graph contains a cycle that never waits for input: " ++ commas ids

end Violation

end Workflow
