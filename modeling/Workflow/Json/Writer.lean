import Workflow.Number.Display
import Workflow.Text.Quoted
import Workflow.Value.Basic

/-!
# Writing JSON

Documents are written in plain ASCII: any other character is written by its code, in two halves
when it needs more than four hexadecimal digits. Binary numbers are written with their shortest
digits. The spaces after commas and colons are the writer's only choice.

Documents that are sent have no words for infinite and undefined numbers. Where a value is only
told, nothing stands in the place of such a number.
-/

namespace Workflow.Value

mutual

/-- A value with nothing in the place of every number that is not finite. -/
def finite : Value → Value
  | .float (.finite negative significand exponent) => .float (.finite negative significand exponent)
  | .float _ => .null
  | .list items => .list (finiteItems items)
  | .object fields => .object (finiteFields fields)
  | v => v

/-- The items of a list, each without numbers that are not finite. -/
def finiteItems : List Value → List Value
  | [] => []
  | v :: rest => finite v :: finiteItems rest

/-- The fields of an object, each without numbers that are not finite. -/
def finiteFields : List (String × Value) → List (String × Value)
  | [] => []
  | (name, v) :: rest => (name, finite v) :: finiteFields rest

end

/-- Every number in the value is finite. -/
def isFinite (v : Value) : Bool := v.finite = v

end Workflow.Value

namespace Workflow.Json

/-- What stands between the parts of a document. -/
structure Separators where
  comma : String
  colon : String

/-- One space after every comma and colon. -/
def spaced : Separators := ⟨", ", ": "⟩

/-- No spaces. -/
def compact : Separators := ⟨",", ":"⟩

/-- A code unit as an escape. -/
def unitEscape (n : Nat) : List Char := '\\' :: 'u' :: Text.hexDigits 4 n

/-- A character inside a text. -/
def escapeChar (c : Char) : List Char :=
  if c == '"' || c == '\\' then ['\\', c]
  else if c == '\n' then ['\\', 'n']
  else if c == '\r' then ['\\', 'r']
  else if c == '\t' then ['\\', 't']
  else if c == '\x08' then ['\\', 'b']
  else if c == '\x0c' then ['\\', 'f']
  else if 0x20 ≤ c.toNat && c.toNat < 0x7F then [c]
  else if c.toNat < 0x10000 then unitEscape c.toNat
  else
    let beyond := c.toNat - 0x10000
    unitEscape (0xD800 + beyond / 0x400) ++ unitEscape (0xDC00 + beyond % 0x400)

/-- A text between quotes. -/
def writeText (s : String) : String :=
  String.ofList ('"' :: s.toList.flatMap escapeChar ++ ['"'])

mutual

/-- The document of a value. -/
def write (sep : Separators) : Value → String
  | .null => "null"
  | .bool true => "true"
  | .bool false => "false"
  | .int n => integerText n
  | .float x => x.text "Infinity" "NaN"
  | .text s => writeText s
  | .list items => "[" ++ writeItems sep items ++ "]"
  | .object fields => "\x7b" ++ writeFields sep fields ++ "\x7d"

/-- The items of a list, with commas between them. -/
def writeItems (sep : Separators) : List Value → String
  | [] => ""
  | [item] => write sep item
  | item :: next :: rest => write sep item ++ sep.comma ++ writeItems sep (next :: rest)

/-- The fields of an object, with commas between them. -/
def writeFields (sep : Separators) : List (String × Value) → String
  | [] => ""
  | [(name, v)] => writeText name ++ sep.colon ++ write sep v
  | (name, v) :: next :: rest =>
    writeText name ++ sep.colon ++ write sep v ++ sep.comma ++ writeFields sep (next :: rest)

end

end Workflow.Json
