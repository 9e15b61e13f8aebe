/-!
# Bytes of texts

A text travels as bytes: one for each plain character, and two to four for any other, of which the
first tells how many follow. Bytes that come from elsewhere need not be the bytes of a text. What
could begin a character and is cut short, or can begin none, is read as the replacement character.

Bytes are written with 64 plain characters: three bytes with four of them. What is missing from the
last three bytes is shown by equals signs.
-/

namespace Workflow.Text

/-- The bytes of a text. -/
def bytes (s : String) : List UInt8 := s.toUTF8.toList

/-- The character that stands for bytes that are none. -/
def replacement : Char := '\uFFFD'

/-- A character of which some bytes are still to come: their number, the bounds of the next one, and
the code read so far. -/
structure Pending where
  owed : Nat
  low : UInt8 := 0x80
  high : UInt8 := 0xBF
  code : Nat
  deriving DecidableEq, Repr

namespace Pending

/-- What the first of several bytes promises. The bounds of the second one leave out the codes that
fewer bytes can say, the halves of pairs, and whatever is beyond the last code. -/
def ofLead? (b : UInt8) : Option Pending :=
  if b < 0xC2 then none
  else if b < 0xE0 then some { owed := 1, code := b.toNat - 0xC0 }
  else if b < 0xF0 then
    some { owed := 2, code := b.toNat - 0xE0
           low := if b = 0xE0 then 0xA0 else 0x80, high := if b = 0xED then 0x9F else 0xBF }
  else if b < 0xF5 then
    some { owed := 3, code := b.toNat - 0xF0
           low := if b = 0xF0 then 0x90 else 0x80, high := if b = 0xF4 then 0x8F else 0xBF }
  else none

/-- The next byte belongs to the character. -/
def takes (p : Pending) (b : UInt8) : Bool := p.low ≤ b && b ≤ p.high

end Pending

/-- What a byte between two characters says: the characters that are complete, and the one that is
not. -/
def firstByte (b : UInt8) : List Char × Option Pending :=
  if b < 0x80 then ([Char.ofNat b.toNat], none)
  else
    match Pending.ofLead? b with
    | some p => ([], some p)
    | none => ([replacement], none)

/-- What the next byte says. -/
def nextByte (pending : Option Pending) (b : UInt8) : List Char × Option Pending :=
  match pending with
  | none => firstByte b
  | some p =>
    if p.takes b then
      let code := 64 * p.code + (b.toNat - 0x80)
      if p.owed ≤ 1 then ([Char.ofNat code], none) else ([], some { owed := p.owed - 1, code })
    else
      let (found, after) := firstByte b
      (replacement :: found, after)

/-- The characters of bytes, the first of which go on with a pending character. -/
def charsFrom : Option Pending → List UInt8 → List Char
  | none, [] => []
  | some _, [] => [replacement]
  | pending, b :: rest =>
    let (found, after) := nextByte pending b
    found ++ charsFrom after rest

/-- The text of bytes. -/
def ofBytes (bytes : List UInt8) : String := String.ofList (charsFrom none bytes)

/-! ## Base 64 -/

/-- The characters for the numbers below 64. -/
def base64Digits : List Char :=
  "ABCDEFGHIJKLMNOPQRSTUVWXYZabcdefghijklmnopqrstuvwxyz0123456789+/".toList

/-- The character for a number below 64. -/
def base64Digit (n : Nat) : Char := base64Digits.getD (n % 64) '='

/-- Bytes in plain characters. -/
def base64Chars : List UInt8 → List Char
  | [] => []
  | [a] => [base64Digit (a.toNat / 4), base64Digit (a.toNat * 16), '=', '=']
  | [a, b] =>
    let n := 256 * a.toNat + b.toNat
    [base64Digit (n / 1024), base64Digit (n / 16), base64Digit (n * 4), '=']
  | a :: b :: c :: rest =>
    let n := 65536 * a.toNat + 256 * b.toNat + c.toNat
    base64Digit (n / 262144) :: base64Digit (n / 4096) :: base64Digit (n / 64) :: base64Digit n ::
      base64Chars rest

/-- The bytes of a text in plain characters. -/
def base64 (s : String) : String := String.ofList (base64Chars (bytes s))

end Workflow.Text
