import Workflow.Number.Binary64
import Workflow.Text.Blank
import Workflow.Text.Digit
import Workflow.Text.Case

/-!
# Reading numbers

A number typed by a person may have blanks around it, a sign, decimal digits of any script and
single underscores between digits. A real number may also have a point, an exponent, or be one of
the words for infinity and for an undefined number.
-/

namespace Workflow.Number

/-- The distance from zero at which integers of 64 bits with a sign end. -/
def wordLimit : Nat := Nat.pow 2 63

/-- The integer has 64 bits with a sign. -/
def IsWord (n : Int) : Prop := -(wordLimit : Int) ≤ n ∧ n < wordLimit

instance (n : Int) : Decidable (IsWord n) := inferInstanceAs (Decidable (_ ∧ _))

/-- The value of a run of digits in which single underscores may stand between two digits. -/
def digitRun? : List Char → Option (List Nat)
  | [] => none
  | [c] => (Text.digitValue? c).map ([·])
  | c :: '_' :: rest =>
    match Text.digitValue? c, digitRun? rest with
    | some d, some ds => some (d :: ds)
    | _, _ => none
  | c :: rest =>
    match Text.digitValue? c, digitRun? rest with
    | some d, some ds => some (d :: ds)
    | _, _ => none

/-- A blank that may stand before or after a number: any but the four separator controls. -/
def isPadding (c : Char) : Bool := Text.isBlank c && !(0x1C ≤ c.toNat && c.toNat ≤ 0x1F)

/-- The characters without the blanks around a number. -/
def unpad (cs : List Char) : List Char :=
  ((cs.dropWhile isPadding).reverse.dropWhile isPadding).reverse

/-- The number that decimal digits stand for. -/
def ofDigits (ds : List Nat) : Nat := ds.foldl (fun n d => 10 * n + d) 0

/-- A sign and what follows it. -/
def sign : List Char → Bool × List Char
  | '-' :: rest => (true, rest)
  | '+' :: rest => (false, rest)
  | cs => (false, cs)

/-- The digits and sign of an integer with blanks around it. -/
def integerDigits? (s : String) : Option (Bool × List Nat) :=
  let (negative, body) := sign (unpad s.toList)
  (digitRun? body).map (negative, ·)

/-- The integer a text stands for. -/
def integer? (s : String) : Option Int :=
  (integerDigits? s).map fun (negative, ds) =>
    if negative then -(ofDigits ds : Int) else ofDigits ds

/-- The value of an exponent part, without its letter. -/
def exponent? (cs : List Char) : Option Int :=
  let (negative, body) := sign cs
  (digitRun? body).map fun ds => if negative then -(ofDigits ds : Int) else ofDigits ds

/-- Digits around a point, at least one on either side. Gives the digits without the point and how
many stood after it. -/
def mantissa? (cs : List Char) : Option (List Nat × Nat) :=
  match cs.span (· != '.') with
  | (whole, []) => (digitRun? whole).map (·, 0)
  | ([], _ :: fraction) => (digitRun? fraction).map fun ds => (ds, ds.length)
  | (whole, [_]) => (digitRun? whole).map (·, 0)
  | (whole, _ :: fraction) =>
    match digitRun? whole, digitRun? fraction with
    | some w, some f => some (w ++ f, f.length)
    | _, _ => none

/-- The real number a text stands for. -/
def real? (s : String) : Option Binary64 :=
  let (negative, body) := sign (unpad s.toList)
  let word := String.ofList (body.map Char.toLower)
  if word = "inf" ∨ word = "infinity" then some (.infinity negative)
  else if word = "nan" then some .nan
  else
    match body.span (fun c => c != 'e' && c != 'E') with
    | (front, []) =>
      (mantissa? front).map fun (ds, places) =>
        .ofDecimal negative (ofDigits ds) (-(places : Int))
    | (front, _ :: back) =>
      match mantissa? front, exponent? back with
      | some (ds, places), some e => some (.ofDecimal negative (ofDigits ds) (e - places))
      | _, _ => none

end Workflow.Number
