import Workflow.Shape.Scalar

/-!
# Checking the shape of values

Definitions, contexts and requests arrive as values of no fixed shape. Reading one as a record of
this library checks every part and reports every mismatch with its place, in the order of the
record's parts, so a sender sees all of them at once. A text is never made from another kind.
-/

namespace Workflow.Shape

variable {α : Type}

/-- Any value. -/
def any : Decoder Value := .good

/-- A text. -/
def text : Decoder String
  | .text s => .good s
  | _ => .wrong .notText

/-- A text with at least one character. -/
def someText : Decoder String := fun v =>
  (text v).andThen fun s => if s.isEmpty then .wrong .textTooShort else .good s

/-- An object. -/
def object : Decoder Fields
  | .object fields => .good fields
  | _ => .wrong .notObject

/-- Nothing, or a value of the given shape. -/
def optional (decode : Decoder α) : Decoder (Option α)
  | .null => .good none
  | v => (decode v).map some

/-- The items of a list from an index on. -/
def items (decode : Decoder α) : Nat → List Value → Checked (List α)
  | _, [] => .good []
  | i, v :: rest =>
    Checked.apply (((decode v).within (.item i)).map List.cons) (items decode (i + 1) rest)

/-- A list of values of one shape. -/
def list (decode : Decoder α) : Decoder (List α)
  | .list vs => items decode 0 vs
  | _ => .wrong .notList

/-- A record, read from the fields of an object. The subject is what the record stands for. -/
def record (subject : String) (read : Fields → Checked α) : Decoder α
  | .object fields => read fields
  | _ => .wrong (.notRecord subject)

/-- One of a few texts. -/
def choice (options : List (String × α)) : Decoder α
  | .text s =>
    match Dict.get? options s with
    | some a => .good a
    | none => .wrong (.notAChoice (options.map (·.1)))
  | _ => .wrong (.notAChoice (options.map (·.1)))

/-- A part that may go by several names; the first one that is there counts, and a missing part is
reported under the first name. -/
def requiredAs (names : List String) (decode : Decoder α) (fields : Fields) : Checked α :=
  match names.find? (Dict.has fields) with
  | some name => (decode (Fields.read fields name)).within (.field name)
  | none => .bad [⟨[.field (names.headD "")], .missing⟩]

/-- A part that must be there. -/
def required (name : String) (decode : Decoder α) (fields : Fields) : Checked α :=
  match Dict.get? fields name with
  | some v => (decode v).within (.field name)
  | none => .bad [⟨[.field name], .missing⟩]

/-- A part with a value of its own when it is not there. -/
def withDefault (name : String) (decode : Decoder α) (default : α) (fields : Fields) : Checked α :=
  match Dict.get? fields name with
  | some v => (decode v).within (.field name)
  | none => .good default

/-- A part with a default that may go by several names. -/
def withDefaultAs (names : List String) (decode : Decoder α) (default : α) (fields : Fields) :
    Checked α :=
  match names.find? (Dict.has fields) with
  | some name => (decode (Fields.read fields name)).within (.field name)
  | none => .good default

end Workflow.Shape
