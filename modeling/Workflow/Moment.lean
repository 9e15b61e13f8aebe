import Workflow.Shape

/-!
# Moments

Routines are listed in the order in which they were made. A moment is what a clock shows, counted in
microseconds from the first instant of 1970, with the distance of that clock from the prime
meridian, where it is told. It is written as a date and a time of day with an offset, as a date
alone, which stands for its midnight, or as a count of seconds or milliseconds.
-/

namespace Workflow

/-- A point in time, as a clock shows it. -/
structure Moment where
  /-- The reading of the clock, in microseconds from the first instant of 1970. -/
  wall : Int
  /-- The minutes by which the clock is ahead of the prime meridian, unless nothing is said. -/
  offset : Option Int
  deriving DecidableEq, Repr, Inhabited

namespace Moment

/-- Days from the first of January 1970 to a date. Years are counted from March, so the leap day is
the last of its year. -/
def daysBefore (year month day : Int) : Int :=
  let y := if month ≤ 2 then year - 1 else year
  let m := if month ≤ 2 then month + 9 else month - 3
  365 * y + y / 4 - y / 100 + y / 400 + (153 * m + 2) / 5 + day - 1 - 719468

/-- The number of days of a month. -/
def monthLength (year month : Int) : Int :=
  let next := if month = 12 then daysBefore (year + 1) 1 1 else daysBefore year (month + 1) 1
  next - daysBefore year month 1

/-- A number of exactly the given count of plain digits, and the rest. -/
def fixed (count : Nat) (cs : List Char) : Option (Int × List Char) :=
  let ds := cs.take count
  if ds.length = count ∧ ds.all Char.isDigit then
    some (ds.foldl (fun n d => 10 * n + (d.toNat - '0'.toNat : Nat)) (0 : Int), cs.drop count)
  else none

/-- An offset from the prime meridian, in minutes, that ends the text. It is shorter than a day. -/
def offset? : List Char → Option (Option Int)
  | [] => some none
  | ['Z'] | ['z'] => some (some 0)
  | sign :: rest => do
    let factor : Int ← if sign = '+' then some 1
      else if sign = '-' || sign = '\u2212' then some (-1) else none
    let (hours, rest) ← fixed 2 rest
    let (minutes, rest) ← fixed 2 (if rest.head? = some ':' then rest.tail else rest)
    if rest.isEmpty ∧ hours < 24 ∧ minutes < 60 then some (some (factor * (60 * hours + minutes)))
    else none

/-- Seconds and millionths after the minutes of a time of day. -/
def seconds (cs : List Char) : Option (Int × Int × List Char) :=
  match cs with
  | ':' :: rest => do
    let (whole, rest) ← fixed 2 rest
    if rest.head? = some '.' ∨ rest.head? = some ',' then
      let ds := rest.tail.takeWhile Char.isDigit
      if ds.isEmpty then none
      else do
        let (part, _) ← fixed 6 (ds.take 6 ++ List.replicate (6 - ds.length) '0')
        some (whole, part, rest.tail.drop ds.length)
    else some (whole, 0, rest)
  | _ => some (0, 0, cs)

/-- The moment a date, with or without a time of day, stands for. -/
def ofDate? (s : String) : Option Moment := do
  let (year, rest) ← fixed 4 s.toList
  let (month, rest) ← if rest.head? = some '-' then fixed 2 rest.tail else none
  let (day, rest) ← if rest.head? = some '-' then fixed 2 rest.tail else none
  guard (1 ≤ month ∧ month ≤ 12 ∧ 1 ≤ day ∧ day ≤ monthLength year month)
  let days := daysBefore year month day
  match rest with
  | [] => some ⟨days * 86400000000, none⟩
  | between :: rest =>
    guard (between = 'T' ∨ between = 't' ∨ between = ' ' ∨ between = '_')
    let (hour, rest) ← fixed 2 rest
    let (minute, rest) ← if rest.head? = some ':' then fixed 2 rest.tail else none
    let (second, part, rest) ← seconds rest
    guard (hour < 24 ∧ minute < 60 ∧ second < 60)
    let offset ← offset? rest
    some ⟨(days * 86400 + (60 * hour + minute) * 60 + second) * 1000000 + part, offset⟩

/-- The greatest count that is one of seconds. A greater one is a count of milliseconds. -/
def secondsLimit : Nat := 20000000000

/-- The first second that counts reach, at the start of the year 1600. -/
def firstSecond : Int := -11676096000

/-- The last second that counts reach, at the end of the year 9999. -/
def lastSecond : Int := 253402300799

/-- The moment after a count of seconds or milliseconds and so many microseconds more. -/
def ofCount? (n : Int) (micros : Nat) : Option Moment :=
  let wall := (if secondsLimit < n.natAbs then 1000 else 1000000) * n + micros
  if firstSecond ≤ wall / 1000000 ∧ wall / 1000000 ≤ lastSecond then some ⟨wall, some 0⟩ else none

/-- A count with a fraction, as the integer below it and the distance from zero of its fraction in
microseconds. -/
def parts? : Binary64 → Option (Int × Nat)
  | .finite negative m e =>
    let scale : Nat := Nat.pow 2 (-e).toNat
    let m : Nat := m * Nat.pow 2 e.toNat
    let whole : Int := m / scale
    let floor := if negative then (if m % scale = 0 then -whole else -whole - 1) else whole
    some (floor, (2 * (m % scale * 1000000) + scale) / (2 * scale))
  | _ => none

/-- The moment after a number of seconds or milliseconds. The fraction is taken for one of seconds,
and its sign does not count. -/
def ofReal? (x : Binary64) : Option Moment := (parts? x).bind fun (n, micros) => ofCount? n micros

/-- The moment after a decimal number of seconds or milliseconds. -/
def ofDecimal? (negative : Bool) (digits places : Nat) : Option Moment :=
  let size : Int := if negative then -digits else digits
  let unit := Nat.pow 10 places
  let scale : Int := unit * (if secondsLimit * unit < digits then 1000 else 1)
  let micros := (2 * (size * 1000000) + scale) / (2 * scale)
  ofCount? (micros / 1000000) (micros % 1000000).toNat

/-- The moment a text made of digits stands for. -/
def ofDigits? (s : String) : Option Moment :=
  let (negative, body) := Number.sign s.toList
  let value (ds : List Char) : Nat := ds.foldl (fun n d => 10 * n + (d.toNat - '0'.toNat)) 0
  match body.span (· != '.') with
  | (whole, []) =>
    if !whole.isEmpty && whole.all Char.isDigit then
      ofCount? (if negative then -(value whole : Int) else value whole) 0
    else none
  | (whole, _ :: fraction) =>
    if (whole ++ fraction).all Char.isDigit then
      ofDecimal? negative (value (whole ++ fraction)) fraction.length
    else none

/-- The least reading of a clock, at the start of the year 1. -/
def leastWall : Int := daysBefore 1 1 1 * 86400000000

/-- The point in time itself, in microseconds; without an offset, the reading of the clock. -/
def instant (moment : Moment) : Int := moment.wall - 60000000 * moment.offset.getD 0

/-- What is said about a count beyond the years that counts reach. -/
def beyond (negative : Bool) : String :=
  "dates " ++ (if negative then "before 1600" else "after 9999") ++
    " are not supported as unix timestamps"

/-- The integer a text stands for, when it is one of 64 bits with a sign. -/
def word? (s : String) : Option Int :=
  let (negative, ds) := Number.sign s.toList
  let n : Int := ds.foldl (fun n d => 10 * n + (d.toNat - '0'.toNat)) 0
  let n := if negative then -n else n
  if !ds.isEmpty && ds.all Char.isDigit && Number.IsWord n then some n else none

/-- Why a text is no date. -/
def dateFlaw (s : String) : String :=
  let cs := s.toList
  let isNumber (first count : Nat) := (fixed count (cs.drop first)).isSome
  let number (first count : Nat) := ((fixed count (cs.drop first)).map (·.1)).getD 0
  match word? s with
  | some n => beyond (n < 0)
  | none =>
    if s.utf8ByteSize < 10 then "input is too short"
    else if !isNumber 0 4 then "invalid character in year"
    else if cs[4]? != some '-' then "invalid date separator, expected `-`"
    else if !isNumber 5 2 then "invalid character in month"
    else if cs[7]? != some '-' then "invalid date separator, expected `-`"
    else if !isNumber 8 2 then "invalid character in day"
    else if number 5 2 < 1 || 12 < number 5 2 then
      "month value is outside expected range of 1-12"
    else if number 8 2 < 1 || monthLength (number 0 4) (number 5 2) < number 8 2 then
      "day value is outside expected range"
    else "unexpected extra characters at the end of the input"

/-- A moment, also as a count of seconds or milliseconds. There is no year before the first. -/
def decode : Decoder Moment
  | .text s =>
    match (ofDate? s).or (ofDigits? s) with
    | some m =>
      if m.wall < leastWall then .wrong (.momentOutOfRange "ValueError: year 0 is out of range")
      else .good m
    | none => .wrong (.unreadableMoment (dateFlaw s))
  | .int n =>
    match ofCount? n 0, Binary64.ofInt n with
    | some m, _ => .good m
    | none, .infinity _ => .wrong .notMoment
    | none, _ => .wrong (.momentOutOfRange (beyond (n < 0)))
  | .float x =>
    match ofReal? x, x with
    | some m, _ => .good m
    | none, .finite negative _ _ | none, .infinity negative =>
      .wrong (.momentOutOfRange (beyond negative))
    | none, .nan => .wrong (.momentOutOfRange "NaN values not permitted")
  | _ => .wrong .notMoment

end Moment

end Workflow
