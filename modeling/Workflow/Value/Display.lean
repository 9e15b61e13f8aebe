import Workflow.Number.Display
import Workflow.Text.Quoted
import Workflow.Value.Basic

/-!
# The text of a value

A placeholder is replaced by the text of its value. A text stands for itself; inside a list or an
object it is quoted. A value with too long an integer in it has no text: whoever asks for one has to
look whether the value is writable.
-/

namespace Workflow.Value

/-- The words for the values that are neither numbers nor made of parts. -/
def word : Bool → String
  | true => "True"
  | false => "False"

mutual

/-- The text of a value inside a list or an object. -/
def literal : Value → String
  | .null => "None"
  | .bool b => word b
  | .int n => integerText n
  | .float x => x.display
  | .text s => Text.quoted s
  | .list items => "[" ++ literalItems items ++ "]"
  | .object fields => "\x7b" ++ literalFields fields ++ "\x7d"

/-- The items of a list, with commas between them. -/
def literalItems : List Value → String
  | [] => ""
  | [item] => literal item
  | item :: next :: rest => literal item ++ ", " ++ literalItems (next :: rest)

/-- The fields of an object, with commas between them. -/
def literalFields : List (String × Value) → String
  | [] => ""
  | [(name, v)] => Text.quoted name ++ ": " ++ literal v
  | (name, v) :: next :: rest =>
    Text.quoted name ++ ": " ++ literal v ++ ", " ++ literalFields (next :: rest)

end

/-- The text of a value. -/
def display : Value → String
  | .text s => s
  | v => literal v

mutual

/-- No integer in the value has too many digits to be turned into text. -/
def writable : Value → Bool
  | .int n => isWritable n
  | .list items => writableItems items
  | .object fields => writableFields fields
  | .null | .bool _ | .float _ | .text _ => true

/-- The items of a list are writable. -/
def writableItems : List Value → Bool
  | [] => true
  | item :: rest => writable item && writableItems rest

/-- The fields of an object are writable. -/
def writableFields : List (String × Value) → Bool
  | [] => true
  | (_, v) :: rest => writable v && writableFields rest

end

/-- The name of the kind of a value, as it appears in messages about values of the wrong kind. -/
def kindName : Value → String
  | .null => "NoneType"
  | .bool _ => "bool"
  | .int _ => "int"
  | .float _ => "float"
  | .text _ => "str"
  | .list _ => "list"
  | .object _ => "dict"

@[simp] theorem display_text (s : String) : display (.text s) = s := rfl

@[simp] theorem writable_text (s : String) : writable (.text s) = true := rfl

end Workflow.Value
