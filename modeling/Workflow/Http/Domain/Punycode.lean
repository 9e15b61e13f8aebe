/-!
# Names in plain letters

A label with other than plain letters is written with plain ones: first those it has, then, after a
dash, where each of the others goes, in the order of their codes. A place is written as a number of
digits that grow in worth, and the last digit of a number is below a threshold that follows the size
of the numbers before.
-/

namespace Workflow.Http.Domain.Punycode

/-- The digit for a number below 36. -/
def digit (d : Nat) : Char :=
  if d < 26 then Char.ofNat ('a'.toNat + d) else Char.ofNat ('0'.toNat + (d - 26))

/-- The number of a digit. -/
def digit? (c : Char) : Option Nat :=
  if 'a' ≤ c ∧ c ≤ 'z' then some (c.toNat - 'a'.toNat)
  else if 'A' ≤ c ∧ c ≤ 'Z' then some (c.toNat - 'A'.toNat)
  else if '0' ≤ c ∧ c ≤ '9' then some (c.toNat - '0'.toNat + 26)
  else none

/-- The threshold of a digit, given its place in steps of 36. -/
def threshold (place bias : Nat) : Nat := max 1 (min 26 (place - bias))

theorem threshold_pos (place bias : Nat) : 1 ≤ threshold place bias := by
  simp only [threshold]
  omega

theorem threshold_le (place bias : Nat) : threshold place bias ≤ 26 := by
  simp only [threshold]
  omega

/-- Divide until little is left, and count the divisions in steps of 36. -/
def shrink (delta count : Nat) : Nat × Nat :=
  if 455 < delta then shrink (delta / 35) (count + 36) else (delta, count)
  termination_by delta
  decreasing_by omega

/-- The bias after a number, which was the first or not, with so many letters placed by then. -/
def adapt (delta placed : Nat) (isFirst : Bool) : Nat :=
  let delta := delta / (if isFirst then 700 else 2)
  let (delta, count) := shrink (delta + delta / placed) 0
  count + 36 * delta / (delta + 38)

/-- The digits of a number. -/
def digits (bias place n : Nat) : List Char :=
  let t := threshold place bias
  if n < t then [digit n]
  else digit (t + (n - t) % (36 - t)) :: digits bias (place + 36) ((n - t) / (36 - t))
  termination_by n
  decreasing_by
    have := threshold_pos place bias
    have := threshold_le place bias
    calc (n - threshold place bias) / (36 - threshold place bias)
        ≤ n - threshold place bias := Nat.div_le_self _ _
      _ < n := by omega

/-- What is written so far: the distance passed since the last number, the bias, and how many
letters are placed. -/
structure Progress where
  written : List Char := []
  delta : Nat := 0
  bias : Nat := 72
  placed : Nat

/-- Pass one letter on the way to those of a code. -/
def pass (plain code : Nat) (p : Progress) (c : Char) : Progress :=
  if c.toNat < code then { p with delta := p.delta + 1 }
  else if c.toNat = code then
    { written := p.written ++ digits p.bias 36 p.delta
      delta := 0
      bias := adapt p.delta (p.placed + 1) (p.placed == plain)
      placed := p.placed + 1 }
  else p

/-- Write the places of the letters of each code, given in their order. `least` is the least code
that was not yet passed. -/
def place (label : List Char) (plain : Nat) : List Nat → Nat → Progress → Progress
  | [], _, p => p
  | code :: codes, least, p =>
    let p := { p with delta := p.delta + (code - least) * (p.placed + 1) }
    let p := label.foldl (pass plain code) p
    place label plain codes (code + 1) { p with delta := p.delta + 1 }

/-- The letters of a label in plain ones. -/
def encode (label : List Char) : List Char :=
  let plain := label.filter (·.toNat < 0x80)
  let codes := ((label.filter (0x80 ≤ ·.toNat)).map Char.toNat).mergeSort.eraseDups
  let p := place label plain.length codes 0x80 { placed := plain.length }
  (if plain.isEmpty then [] else plain ++ ['-']) ++ p.written

/-- The number that digits begin with, and the digits after it. -/
def number? (bias : Nat) : List Char → Nat → Nat → Nat → Option (Nat × List Char)
  | [], _, _, _ => none
  | c :: rest, place, weight, n => do
    let d ← digit? c
    let t := threshold place bias
    let n := n + d * weight
    if d < t then some (n, rest) else number? bias rest (place + 36) (weight * (36 - t)) n

theorem length_lt_of_number? {bias : Nat} {cs : List Char} {place weight n m : Nat}
    {rest : List Char} (h : number? bias cs place weight n = some (m, rest)) :
    rest.length < cs.length := by
  induction cs generalizing place weight n with
  | nil => simp [number?] at h
  | cons c cs ih =>
    simp only [number?, Option.bind_eq_bind, Option.bind_eq_some_iff] at h
    obtain ⟨d, -, h⟩ := h
    split at h
    · simp only [Option.some.injEq, Prod.mk.injEq] at h
      simp [h.2]
    · exact Nat.lt_succ_of_lt (ih h)

/-- Put the letters that digits place among those placed before. -/
def unplace (label : List Char) (code index bias : Nat) (isFirst : Bool) (cs : List Char) :
    Option (List Char) :=
  if cs.isEmpty then some label
  else
    match h : number? bias cs 36 1 0 with
    | none => none
    | some (delta, rest) =>
      have := length_lt_of_number? h
      let size := label.length + 1
      let moved := index + delta
      let code := code + moved / size
      let index := moved % size
      if 0x10FFFF < code then none
      else
        unplace (label.take index ++ Char.ofNat code :: label.drop index) code (index + 1)
          (adapt delta size isFirst) false rest
  termination_by cs.length

/-- The label that plain letters stand for. -/
def decode (cs : List Char) : Option (List Char) :=
  let digits := (cs.reverse.takeWhile (· != '-')).reverse
  unplace (cs.take (cs.length - digits.length - 1)) 0x80 0 72 true digits

example : encode "bücher".toList = "bcher-kva".toList := by decide +kernel
example : decode "bcher-kva".toList = some "bücher".toList := by decide +kernel

end Workflow.Http.Domain.Punycode
