/-!
# Binary numbers of 64 bits

A finite number is a sign, a significand and a power of two, kept in the one form the 64-bit
format has for it. Reading a decimal rounds to the nearest number of the format, and a decimal
half way between two of them goes to the one with the even significand. All of it is arithmetic
on natural numbers, so no step depends on the machine.
-/

namespace Workflow

/-- A number of the 64-bit binary format. A finite number stands for
`significand * 2 ^ exponent`; below `2 ^ 52` the significand is that of a subnormal number, whose
exponent is the least one. -/
inductive Binary64 where
  | finite (negative : Bool) (significand : Nat) (exponent : Int)
  | infinity (negative : Bool)
  | nan
  deriving DecidableEq, Repr, Inhabited

namespace Binary64

/-- The least power of two a number of the format counts in. -/
def leastExponent : Int := -1074

/-- The greatest power of two a number of the format counts in. -/
def greatestExponent : Int := 971

/-- Zero with a sign. -/
def zero (negative : Bool) : Binary64 := .finite negative 0 leastExponent

/-- A quotient rounded to the nearest integer; a half goes to the even neighbour. -/
def roundDiv (num den : Nat) : Nat :=
  let q := num / den
  let twice := 2 * (num % den)
  if twice < den then q
  else if den < twice then q + 1
  else if q % 2 = 0 then q else q + 1

/-- The numerator and denominator of `num / den` counted in units of `2 ^ exponent`. -/
def scaled (num den : Nat) (exponent : Int) : Nat × Nat :=
  if exponent < 0 then (num * Nat.pow 2 exponent.natAbs, den)
  else (num, den * Nat.pow 2 exponent.toNat)

/-- The number of the format nearest to `num / den`, for a positive denominator. -/
def ofRatio (negative : Bool) (num den : Nat) : Binary64 :=
  if num = 0 then zero negative
  else
    let guess := (num.log2 : Int) - den.log2 - 53
    let least := max guess leastExponent
    let (n, d) := scaled num den least
    let exponent := if n / d < Nat.pow 2 53 then least else least + 1
    let (n, d) := scaled num den exponent
    let exponent := if n / d < Nat.pow 2 53 then exponent else exponent + 1
    let (n, d) := scaled num den exponent
    let m := roundDiv n d
    let (m, exponent) := if m = Nat.pow 2 53 then (Nat.pow 2 52, exponent + 1) else (m, exponent)
    if exponent > greatestExponent then .infinity negative else .finite negative m exponent

/-- How many decimal digits a positive number has. -/
def decimalLength (n : Nat) : Nat := (Nat.toDigits 10 n).length

/-- The number nearest to `digits * 10 ^ exponent`. Decimals far outside the format are settled by
their size, so no large power is formed for them. -/
def ofDecimal (negative : Bool) (digits : Nat) (exponent : Int) : Binary64 :=
  let size := exponent + decimalLength digits
  if digits = 0 ∨ size < -400 then zero negative
  else if size > 400 then .infinity negative
  else if exponent < 0 then ofRatio negative digits (Nat.pow 10 exponent.natAbs)
  else ofRatio negative (digits * Nat.pow 10 exponent.toNat) 1

/-- The number nearest to an integer. -/
def ofInt (n : Int) : Binary64 := ofRatio (n < 0) n.natAbs 1

/-- The number is zero, of either sign. -/
def isZero : Binary64 → Bool
  | .finite _ m _ => m == 0
  | _ => false

/-- A finite number without its fraction. -/
def truncate? : Binary64 → Option Int
  | .finite negative m e =>
    let size : Nat := if e < 0 then m / Nat.pow 2 e.natAbs else m * Nat.pow 2 e.toNat
    some (if negative then -size else size)
  | _ => none

/-- A finite number that has no fraction, as an integer. -/
def integer? : Binary64 → Option Int
  | .finite negative m e =>
    if e < 0 ∧ m % Nat.pow 2 e.natAbs ≠ 0 then none else truncate? (.finite negative m e)
  | _ => none

end Binary64

end Workflow
