import Workflow.Fault
import Workflow.Json.Reader
import Workflow.Text.Bytes

/-!
# Documents that are received

A document that is received comes as bytes. Plain documents begin with two plain characters, so
where the first four bytes are zero tells how many bytes each unit of the text takes and which of
them comes first. A text in single bytes may begin with the mark of their order.

A text that is no document is told apart from one that goes beyond what is read: an integer of very
many digits, or lists and objects very deep in one another. Only the first is a flaw of the text.
-/

namespace Workflow.Json

/-- The limit that a text goes beyond, if that is what stops it from being read. -/
def SyntaxError.limit? (e : SyntaxError) : Option Fault :=
  match e.problem with
  | .oversizeNumber digits => some (.oversizeNumber (.read digits))
  | .tooDeep => some .tooDeep
  | _ => none

/-- How a text is laid out in bytes. -/
inductive Layout where
  | single
  | double (leastFirst : Bool)
  | quadruple (leastFirst : Bool)
  deriving DecidableEq, Repr

namespace Layout

/-- The layout the first bytes of a document show. -/
def ofBytes : List UInt8 → Layout
  | 0 :: 0 :: _ :: _ :: _ => .quadruple false
  | 0 :: _ :: _ :: _ :: _ => .double false
  | _ :: 0 :: 0 :: 0 :: _ => .quadruple true
  | _ :: 0 :: _ :: _ :: _ => .double true
  | [0, _] => .double false
  | [_, 0] => .double true
  | _ => .single

end Layout

/-- The numbers that pairs of bytes stand for. -/
def pairs (leastFirst : Bool) : List UInt8 → Option (List Nat)
  | [] => some []
  | [_] => none
  | a :: b :: rest =>
    let n := if leastFirst then 256 * b.toNat + a.toNat else 256 * a.toNat + b.toNat
    (pairs leastFirst rest).map (n :: ·)

/-- The characters of units of two bytes. Two halves in their order are one character. -/
def charsOfUnits : List Nat → List Char
  | [] => []
  | high :: low :: rest =>
    if 0xD800 ≤ high ∧ high < 0xDC00 ∧ 0xDC00 ≤ low ∧ low < 0xE000 then
      Char.ofNat (0x10000 + (high - 0xD800) * 0x400 + (low - 0xDC00)) :: charsOfUnits rest
    else codeChar high :: charsOfUnits (low :: rest)
  | [n] => [codeChar n]

/-- The characters of units of four bytes, none of them beyond the last code. -/
def charsOfCodes (leastFirst : Bool) : List Nat → Option (List Char)
  | [] => some []
  | [_] => none
  | a :: b :: rest =>
    let n := if leastFirst then 65536 * b + a else 65536 * a + b
    if 0x10FFFF < n then none else (charsOfCodes leastFirst rest).map (codeChar n :: ·)

/-- The character that marks the order of bytes. -/
def orderMark : Char := '\uFEFF'

/-- A text without the mark in front. -/
def dropMark : List Char → List Char
  | c :: rest => if c = orderMark then rest else c :: rest
  | [] => []

/-- The characters of bytes in a layout, if they are any. -/
def Layout.chars? (layout : Layout) (bytes : List UInt8) : Option (List Char) :=
  match layout with
  | .single => some (dropMark (Text.charsFrom none bytes))
  | .double leastFirst => (pairs leastFirst bytes).map charsOfUnits
  | .quadruple leastFirst => (pairs leastFirst bytes).bind (charsOfCodes leastFirst)

/-- Why a received document has no value. -/
inductive Unreadable where
  /-- The bytes are no text. -/
  | undecodable
  /-- The text is no document. -/
  | broken (position : Nat)
  /-- The text goes beyond what is read. -/
  | beyond (limit : Fault)
  deriving DecidableEq, Repr

/-- The value of a document that comes as bytes. -/
def readBytes (bytes : List UInt8) : Except Unreadable Value :=
  match (Layout.ofBytes bytes).chars? bytes with
  | none => .error .undecodable
  | some cs =>
    (read (String.ofList cs)).mapError fun e =>
      match e.limit? with
      | some limit => .beyond limit
      | none => .broken e.position

/-- The value of a document that is sent as a text. -/
def readReceived (sent : String) : Except Unreadable Value := readBytes (Text.bytes sent)

end Workflow.Json
