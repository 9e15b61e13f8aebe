import Workflow.Number.Reading
import Workflow.Shape.Checked
import Workflow.Text.Search

/-!
# Numbers and truth values

Reading a number or a truth value is lenient where the sender's meaning is plain: an integer may be
written as a text or as a number without fraction, and a truth value as one of the usual words.
-/

namespace Workflow.Shape

/-- Single underscores between other characters are left out. One at an end, or two together, make
the text unreadable. -/
def dropUnderscores? (cs : List Char) : Option (List Char) :=
  if cs.head? = some '_' || cs.getLast? = some '_' || Text.occursIn ['_', '_'] cs then none
  else some (cs.filter (· != '_'))

/-- The text without a point and zeros that end it. -/
def dropZeroFraction (cs : List Char) : List Char :=
  match cs.span (· != '.') with
  | (whole, _ :: fraction) =>
    if !fraction.isEmpty && fraction.all (· == '0') then whole else cs
  | _ => cs

/-- The text without the zeros that start it. Underscores among them go with them, and of zeros
alone the last character stays. A text has to start with a digit or a minus sign. -/
def dropLeadingZeros? (cs : List Char) : Option (List Char) :=
  match cs.head? with
  | some '0' =>
    match cs.dropWhile fun c => c == '0' || c == '_' with
    | [] => some (cs.drop (cs.length - 1))
    | rest => some rest
  | some '-' => some cs
  | some c => if c.isDigit then some cs else none
  | none => none

/-- The sign and the digits of an integer written in plain digits: single underscores between
digits, leading zeros and a fraction of zeros are allowed. -/
def integerDigits? (s : String) : Option (Bool × List Char) := do
  let cs := Number.unpad s.toList
  let cs ← if cs.head? = some '+' then (if cs.tail.head? = some '-' then none else some cs.tail)
    else some cs
  let (negative, ds) := Number.sign (← dropUnderscores? (← dropLeadingZeros? (dropZeroFraction cs)))
  if !ds.isEmpty && ds.all Char.isDigit then some (negative, ds) else none

/-- The most digits of an integer in a text. -/
def digitLimit : Nat := 4300

/-- An integer. -/
def integer : Decoder Int
  | .int n => .good n
  | .bool b => .good (if b then 1 else 0)
  | .float x =>
    match x.integer?, x.truncate? with
    | some n, _ => if n.natAbs < Number.wordLimit then .good n else .wrong .oversizeInteger
    | none, some _ => .wrong .fractionalInteger
    | none, none => .wrong .infiniteInteger
  | .text s =>
    match integerDigits? s with
    | some (negative, ds) =>
      if digitLimit < ds.length then .wrong .oversizeInteger
      else
        let n : Int := ds.foldl (fun n d => 10 * n + (d.toNat - '0'.toNat)) 0
        .good (if negative then -n else n)
    | none => .wrong .unreadableInteger
  | _ => .wrong .notInteger

/-- An integer that is not below a bound. -/
def integerFrom (least : Int) : Decoder Int := fun v =>
  (integer v).andThen fun n => if n < least then .wrong (.belowMinimum least) else .good n

/-- An integer between two bounds. -/
def integerBetween (least greatest : Int) : Decoder Int := fun v =>
  (integerFrom least v).andThen fun n =>
    if greatest < n then .wrong (.aboveMaximum greatest) else .good n

/-- The words for a truth value. -/
def booleanWords : List (String × Bool) :=
  [("0", false), ("off", false), ("f", false), ("false", false), ("n", false), ("no", false),
    ("1", true), ("on", true), ("t", true), ("true", true), ("y", true), ("yes", true)]

/-- A truth value written as a number. -/
def booleanOfInteger (n : Int) : Checked Bool :=
  if n = 0 then .good false else if n = 1 then .good true
  else if n.natAbs < Number.wordLimit then .wrong .unreadableBoolean
  else .wrong .notBoolean

/-- A truth value. -/
def boolean : Decoder Bool
  | .bool b => .good b
  | .int n => booleanOfInteger n
  | .float x =>
    match x.integer? with
    | some n => booleanOfInteger n
    | none => .wrong .notBoolean
  | .text s =>
    match Dict.get? booleanWords (s.map Char.toLower) with
    | some b => .good b
    | none => .wrong .unreadableBoolean
  | _ => .wrong .notBoolean

/-- The real number that plain characters stand for. -/
def plainReal? (cs : List Char) : Option Binary64 :=
  if cs.all fun c => c.toNat < 128 && c != '_' && !Number.isPadding c then
    Number.real? (String.ofList cs)
  else none

/-- A real number. In a text, blanks may stand around it or single underscores between its
characters. -/
def real : Decoder Binary64
  | .float x => .good x
  | .int n => .good (.ofInt n)
  | .bool b => .good (.ofInt (if b then 1 else 0))
  | .text s =>
    match (plainReal? (Number.unpad s.toList)).or ((dropUnderscores? s.toList).bind plainReal?) with
    | some x => .good x
    | none => .wrong .unreadableReal
  | _ => .wrong .notReal

end Workflow.Shape
