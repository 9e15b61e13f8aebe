import Workflow.Number.Shortest

/-!
# The text of a number

Integers are written in decimal. A binary number is written with its shortest digits: positionally
from `0.0001` up to, but not including, `10 ^ 16`, always with a digit after the point, and with an
exponent of at least two digits outside that range.
-/

namespace Workflow

/-- The most digits of an integer that is turned into text. -/
def writtenDigits : Nat := 4300

/-- An integer has few enough digits to be turned into text. -/
def isWritable (n : Int) : Bool := decide ((Nat.toDigits 10 n.natAbs).length ≤ writtenDigits)

/-- The decimal text of an integer. -/
def integerText (n : Int) : String :=
  let digits := String.ofList (Nat.toDigits 10 n.natAbs)
  if n < 0 then "-" ++ digits else digits

namespace Binary64

/-- The digits without the zeros at their end. -/
def significant (digits : List Char) : List Char :=
  (digits.reverse.dropWhile (· == '0')).reverse

/-- A positive decimal, positional or with an exponent by its size. -/
def Decimal.text (d : Decimal) : String :=
  let all := Nat.toDigits 10 d.digits
  let point : Int := d.exponent + all.length
  let digits := significant all
  let count : Int := digits.length
  if -4 < point ∧ point ≤ 16 then
    if point ≤ 0 then
      "0." ++ String.ofList (List.replicate point.natAbs '0' ++ digits)
    else if count ≤ point then
      String.ofList (digits ++ List.replicate (point - count).toNat '0') ++ ".0"
    else
      String.ofList (digits.take point.toNat) ++ "." ++ String.ofList (digits.drop point.toNat)
  else
    let mantissa :=
      match digits with
      | first :: [] => String.ofList [first]
      | first :: rest => String.ofList (first :: '.' :: rest)
      | [] => "0"
    let power := point - 1
    let size := Nat.toDigits 10 power.natAbs
    let padded := if size.length < 2 then '0' :: size else size
    mantissa ++ "e" ++ (if power < 0 then "-" else "+") ++ String.ofList padded

/-- The text of a number, with the given spellings of infinity and of the undefined number. -/
def text (infinity nan : String) : Binary64 → String
  | .finite negative m e =>
    (if negative then "-" else "") ++ (if m = 0 then "0.0" else (shortest m e).text)
  | .infinity negative => (if negative then "-" else "") ++ infinity
  | .nan => nan

/-- The text shown to people. -/
def display : Binary64 → String := text "inf" "nan"

end Binary64

end Workflow
