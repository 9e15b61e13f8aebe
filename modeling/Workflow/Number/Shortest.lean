import Workflow.Number.Binary64

/-!
# Shortest decimals

The text of a binary number has the fewest digits that read back to it, and of those the digits
nearest to its value. The search counts the digits up from one: on the grid of decimals with that
many digits only the two neighbours of the value can lie in the interval of decimals that read
back, so both are tested in exact arithmetic and the first grid with a hit gives the answer.
-/

namespace Workflow.Binary64

/-- Digits and a power of ten. -/
structure Decimal where
  digits : Nat
  exponent : Int
  deriving DecidableEq, Repr

/-- Four times the bounds and the value itself, counted in quarters of `2 ^ exponent`. -/
structure Interval where
  lower : Nat
  value : Nat
  upper : Nat
  closed : Bool

/-- The decimals that read back to a positive number. The gap below the least significand of a
binade is half as wide as the one above; the ends belong to an even significand. -/
def interval (m : Nat) (e : Int) : Interval :=
  let lower := if m = Nat.pow 2 52 ∧ e > leastExponent then 4 * m - 1 else 4 * m - 2
  ⟨lower, 4 * m, 4 * m + 2, m % 2 == 0⟩

/-- A quarter unit of `2 ^ e` and a step of `10 ^ p`, on one scale. -/
def commonScale (e p : Int) : Nat × Nat :=
  let twos := e - 2
  let quarter :=
    (if twos < 0 then 1 else Nat.pow 2 twos.toNat) * (if p < 0 then Nat.pow 10 p.natAbs else 1)
  let step :=
    (if twos < 0 then Nat.pow 2 twos.natAbs else 1) * (if p < 0 then 1 else Nat.pow 10 p.toNat)
  (quarter, step)

/-- The nearer of the value's two neighbours on the grid of multiples of `10 ^ p` that read back. -/
def onGrid (i : Interval) (e p : Int) : Option Nat :=
  let (quarter, step) := commonScale e p
  let low := i.lower * quarter
  let value := i.value * quarter
  let high := i.upper * quarter
  let inside (n : Nat) : Bool :=
    let x := n * step
    if i.closed then low ≤ x && x ≤ high else low < x && x < high
  let below := value / step
  let above := below + 1
  let undershoot := value - below * step
  let overshoot := above * step - value
  match inside below && below != 0, inside above with
  | true, true =>
    if undershoot < overshoot then some below
    else if overshoot < undershoot then some above
    else if below % 2 = 0 then some below else some above
  | true, false => some below
  | false, true => some above
  | false, false => none

/-- The decimal exponent just above a positive number: the least `k` with the value below
`10 ^ k`, found from an estimate that is at most two too small. -/
def magnitude (m : Nat) (e : Int) : Int :=
  let estimate := ((m.log2 : Int) + e) * 30103 / 100000 - 1
  let reaches (k : Int) : Bool :=
    let (quarter, step) := commonScale e k
    4 * m * quarter < step
  if reaches estimate then estimate
  else if reaches (estimate + 1) then estimate + 1
  else if reaches (estimate + 2) then estimate + 2
  else estimate + 3

/-- The first grid, from `count` digits up, with a decimal that reads back. -/
def search (i : Interval) (e k : Int) : (fuel count : Nat) → Decimal
  | 0, count =>
    let p := k - count
    ⟨(onGrid i e p).getD 0, p⟩
  | fuel + 1, count =>
    let p := k - count
    match onGrid i e p with
    | some n => ⟨n, p⟩
    | none => search i e k fuel (count + 1)

/-- The shortest decimal of a positive number. Seventeen digits always suffice. -/
def shortest (m : Nat) (e : Int) : Decimal :=
  search (interval m e) e (magnitude m e) 16 1

end Workflow.Binary64
