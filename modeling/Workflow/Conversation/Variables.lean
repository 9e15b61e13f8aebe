import Workflow.Fault

/-!
# Variables

A conversation carries variables. Their names come from a free-form configuration: nearly always a
name is a text, but a number or a truth value may stand in its place, and then placeholders cannot
reach the variable. A list or an object is no name.
-/

namespace Workflow

/-- The variables of a conversation: names and values in the order in which the names came. -/
structure Variables where
  entries : List (Value × Value) := []
  deriving DecidableEq, Repr, Inhabited

namespace Variables

/-- The variables whose names are texts. -/
def ofFields (fields : Fields) : Variables := ⟨fields.map fun (name, v) => (.text name, v)⟩

/-- Numbers that are equal and truth values of the same number are one name. -/
def nameForm : Value → Value
  | .bool b => .int (if b then 1 else 0)
  | .float x =>
    match x.integer? with
    | some n => .int n
    | none => .float x
  | v => v

/-- Set the value under a name, which keeps its place. -/
def put (name value : Value) : List (Value × Value) → List (Value × Value)
  | [] => [(name, value)]
  | (n, v) :: rest =>
    if nameForm n = nameForm name then (n, value) :: rest else (n, v) :: put name value rest

/-- Set a variable. -/
def set (bindings : Variables) (name value : Value) : Except Fault Variables :=
  match name with
  | .list _ | .object _ => .error (.misuse (.unusableName name.kindName))
  | _ => .ok ⟨put name value bindings.entries⟩

/-- The variables that have a text for a name. -/
def named (bindings : Variables) : Fields :=
  bindings.entries.filterMap fun entry =>
    match entry with
    | (.text name, v) => some (name, v)
    | _ => none

/-- The names that are no texts. -/
def unnamed (bindings : Variables) : List Value :=
  bindings.entries.filterMap fun entry =>
    match entry with
    | (.text _, _) => none
    | (name, _) => some name

/-- What placeholders see. -/
def context (bindings : Variables) : Value := .object bindings.named

/-- A name as it is shown among texts. -/
def shownName : Value → String
  | .null => "null"
  | .bool b => if b then "true" else "false"
  | .float x => x.text "Infinity" "NaN"
  | v => v.display

/-- All variables, each under a text. Of several under one text the last counts. -/
def shown (bindings : Variables) : Fields :=
  bindings.entries.foldl (fun fields entry => Dict.set fields (shownName entry.1) entry.2) []

end Variables

end Workflow
