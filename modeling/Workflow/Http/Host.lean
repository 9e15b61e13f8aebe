import Workflow.Http.Percent
import Workflow.Text.Search

/-!
# Numbers of hosts

A host is named by words or by a number. The short numbers have four parts from 0 to 255. The long
ones have eight groups of up to four hexadecimal digits; a run of groups that are zero may be left
out once, and the last two groups may be written like a short number.
-/

namespace Workflow.Http.Host

/-- A part of a short number: no more than 255 and without zeros in front. -/
def isOctet (part : List Char) : Bool :=
  !part.isEmpty && part.length ≤ 3 && part.all Char.isDigit &&
    (part.length = 1 || part.head? != some '0') && Json.digitsValue part ≤ 255

/-- A short number. -/
def isShort (cs : List Char) : Bool :=
  let parts := Text.splitChars '.' cs
  parts.length = 4 && parts.all isOctet

/-- The rest of a run of digits, after which so many times any character and a run of digits have to
follow. -/
def runsFollow : Nat → List Char → Bool
  | n, [] => n = 0
  | n, [c] => n = 0 && c.isDigit
  | n, c :: d :: rest =>
    (c.isDigit && runsFollow n (d :: rest)) ||
      (match n with
      | n + 1 => d.isDigit && runsFollow n rest
      | 0 => false)

/-- The text looks like a short number: four runs of digits with single characters between them. -/
def looksShort : List Char → Bool
  | c :: rest => c.isDigit && runsFollow 3 rest
  | [] => false

/-- A group of a long number. -/
def isGroup (part : List Char) : Bool :=
  !part.isEmpty && part.length ≤ 4 && part.all fun c => (Json.hexValue? c).isSome

/-- The groups of a long number, where a short number at the end counts as two. -/
def groups? (cs : List Char) : Option (List (List Char)) :=
  let parts := Text.splitChars ':' cs
  let last := parts.getLastD []
  if parts.length < 3 then none
  else if last.contains '.' then
    if isShort last then some (parts.dropLast ++ [['0'], ['0']]) else none
  else some parts

/-- The groups before and after a run that is left out. An empty one stands at the outer end of a
number that begins or ends with the run. -/
def isAround (before after : List (List Char)) : Bool :=
  let before := if before = [[]] then [] else before
  let after := if after = [[]] then [] else after
  before.length + after.length < 8 && before.all isGroup && after.all isGroup

/-- The places of empty groups between the first group and the last one. -/
def gaps (parts : List (List Char)) : List Nat :=
  ((List.range (parts.length - 1)).drop 1).filter fun n => (parts.getD n []).isEmpty

/-- The groups make up a long number. -/
def areGroups (parts : List (List Char)) : Bool :=
  match gaps parts with
  | [] => parts.length = 8 && parts.all isGroup
  | [gap] => parts.length ≤ 9 && isAround (parts.take gap) (parts.drop (gap + 1))
  | _ => false

/-- A long number, after which the name of a zone may follow. -/
def isLong (cs : List Char) : Bool :=
  let (number, zone) := (cs.takeWhile (· != '%'), cs.dropWhile (· != '%'))
  let isZone := match zone with
    | [] => true
    | _ :: name => !name.isEmpty && !name.contains '%'
  isZone && ((groups? number).map areGroups).getD false

example : isShort "192.168.0.1".toList = true := by decide +kernel
example : isShort "192.168.0.01".toList = false := by decide +kernel
example : looksShort "1234567".toList = true := by decide +kernel
example : isLong "::".toList = true := by decide +kernel
example : isLong "::ffff:1.2.3.4".toList = true := by decide +kernel
example : isLong "1:2:3:4:5:6:7".toList = false := by decide +kernel
example : isLong "fe80::1%eth0".toList = true := by decide +kernel

end Workflow.Http.Host
