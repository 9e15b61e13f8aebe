import Workflow.Dict
import Workflow.Number.Binary64

/-!
# Dynamic values

Payloads, memory, step configuration and the bodies of requests have no fixed shape. They are
values: nothing, a truth value, an integer of any size, a binary number, a text, a list or an
object. The fields of an object keep the order in which they were written, because that order is
seen when an object is turned into text.
-/

namespace Workflow

/-- A value of no fixed shape. -/
inductive Value where
  | null
  | bool (b : Bool)
  | int (n : Int)
  | float (x : Binary64)
  | text (s : String)
  | list (items : List Value)
  | object (fields : List (String × Value))
  deriving Inhabited, Repr

/-- The named parts of an object. -/
abbrev Fields := Dict Value

namespace Value

mutual

/-- Equality of values is decided part by part. -/
def decEq : (a b : Value) → Decidable (a = b)
  | .null, .null => isTrue rfl
  | .bool a, .bool b => if h : a = b then isTrue (h ▸ rfl) else isFalse fun e => h (by cases e; rfl)
  | .int a, .int b => if h : a = b then isTrue (h ▸ rfl) else isFalse fun e => h (by cases e; rfl)
  | .float a, .float b =>
    if h : a = b then isTrue (h ▸ rfl) else isFalse fun e => h (by cases e; rfl)
  | .text a, .text b => if h : a = b then isTrue (h ▸ rfl) else isFalse fun e => h (by cases e; rfl)
  | .list a, .list b =>
    match decEqList a b with
    | isTrue h => isTrue (h ▸ rfl)
    | isFalse h => isFalse fun e => h (by cases e; rfl)
  | .object a, .object b =>
    match decEqFields a b with
    | isTrue h => isTrue (h ▸ rfl)
    | isFalse h => isFalse fun e => h (by cases e; rfl)
  | .null, .bool _ | .null, .int _ | .null, .float _ | .null, .text _ | .null, .list _
  | .null, .object _ => isFalse (by simp)
  | .bool _, .null | .bool _, .int _ | .bool _, .float _ | .bool _, .text _ | .bool _, .list _
  | .bool _, .object _ => isFalse (by simp)
  | .int _, .null | .int _, .bool _ | .int _, .float _ | .int _, .text _ | .int _, .list _
  | .int _, .object _ => isFalse (by simp)
  | .float _, .null | .float _, .bool _ | .float _, .int _ | .float _, .text _ | .float _, .list _
  | .float _, .object _ => isFalse (by simp)
  | .text _, .null | .text _, .bool _ | .text _, .int _ | .text _, .float _ | .text _, .list _
  | .text _, .object _ => isFalse (by simp)
  | .list _, .null | .list _, .bool _ | .list _, .int _ | .list _, .float _ | .list _, .text _
  | .list _, .object _ => isFalse (by simp)
  | .object _, .null | .object _, .bool _ | .object _, .int _ | .object _, .float _
  | .object _, .text _ | .object _, .list _ => isFalse (by simp)

/-- Equality of the items of two lists. -/
def decEqList : (a b : List Value) → Decidable (a = b)
  | [], [] => isTrue rfl
  | [], _ :: _ | _ :: _, [] => isFalse (by simp)
  | x :: xs, y :: ys =>
    match decEq x y, decEqList xs ys with
    | isTrue h, isTrue hs => isTrue (h ▸ hs ▸ rfl)
    | isFalse h, _ => isFalse fun e => h (by cases e; rfl)
    | _, isFalse hs => isFalse fun e => hs (by cases e; rfl)

/-- Equality of the fields of two objects, their order included. -/
def decEqFields : (a b : List (String × Value)) → Decidable (a = b)
  | [], [] => isTrue rfl
  | [], _ :: _ | _ :: _, [] => isFalse (by simp)
  | (k, x) :: xs, (l, y) :: ys =>
    if hk : k = l then
      match decEq x y, decEqFields xs ys with
      | isTrue h, isTrue hs => isTrue (hk ▸ h ▸ hs ▸ rfl)
      | isFalse h, _ => isFalse fun e => h (by cases e; rfl)
      | _, isFalse hs => isFalse fun e => hs (by cases e; rfl)
    else isFalse fun e => hk (by cases e; rfl)

end

instance : DecidableEq Value := decEq

/-- The value counts as present: it is not nothing, false, a zero, or empty. -/
def truthy : Value → Bool
  | .null => false
  | .bool b => b
  | .int n => n ≠ 0
  | .float x => !x.isZero
  | .text s => !s.isEmpty
  | .list items => !items.isEmpty
  | .object fields => !fields.isEmpty

/-- The value counts as absent or is there at all: a missing value is read as nothing. -/
def ofOption : Option Value → Value
  | some v => v
  | none => .null

/-- The first value that counts as present, and otherwise the last one. -/
def orElse (v w : Value) : Value := if v.truthy then v else w

/-- A text, when the value is one. -/
def text? : Value → Option String
  | .text s => some s
  | _ => none

/-- An optional text as a value. -/
def ofText? : Option String → Value
  | some s => .text s
  | none => .null

@[simp] theorem truthy_null : truthy .null = false := rfl
@[simp] theorem truthy_bool (b : Bool) : truthy (.bool b) = b := rfl
@[simp] theorem truthy_text (s : String) : truthy (.text s) = !s.isEmpty := rfl
@[simp] theorem truthy_list (items : List Value) : truthy (.list items) = !items.isEmpty := rfl
@[simp] theorem truthy_object (fields : Fields) : truthy (.object fields) = !fields.isEmpty := rfl

end Value

namespace Fields

/-- The value under a name, read as nothing when the name is missing. -/
def read (fields : Fields) (name : String) : Value := Value.ofOption (Dict.get? fields name)

end Fields

end Workflow
