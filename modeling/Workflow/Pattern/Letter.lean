import Workflow.Text.Case

/-!
# Letters that differ by case

A pattern may leave open which case its letters have. Letters then stand for one another when they
have the same small letter, or when their small letters share a capital.
-/

namespace Workflow.Pattern

/-- How far letters that differ by case are taken for the same. -/
inductive Folding where
  | exact
  | plain
  | full
  deriving DecidableEq, Repr

/-- Small letters that share their capital. -/
def sharedCapitals : List (List Nat) :=
  [[0x69, 0x131], [0x73, 0x17F], [0xB5, 0x3BC], [0x345, 0x3B9, 0x1FBE], [0x390, 0x1FD3],
   [0x3B0, 0x1FE3], [0x3B2, 0x3D0], [0x3B5, 0x3F5], [0x3B8, 0x3D1], [0x3BA, 0x3F0],
   [0x3C0, 0x3D6], [0x3C1, 0x3F1], [0x3C2, 0x3C3], [0x3C6, 0x3D5], [0x432, 0x1C80],
   [0x434, 0x1C81], [0x43E, 0x1C82], [0x441, 0x1C83], [0x442, 0x1C84, 0x1C85], [0x44A, 0x1C86],
   [0x463, 0x1C87], [0x1C88, 0xA64B], [0x1E61, 0x1E9B], [0xFB05, 0xFB06]]

/-- A small letter and those that share its capital. -/
def smallLetters (n : Nat) : List Nat :=
  match sharedCapitals.find? (·.contains n) with
  | some letters => letters
  | none => [n]

/-- The capitals of a small letter. -/
def capitalsOf (n : Nat) : List Nat :=
  (if n = 0x69 then [0x130] else []) ++
    Text.capitalRuns.filterMap fun (first, last, stride, shift) =>
      let capital := ((n : Int) - shift).toNat
      if first ≤ capital ∧ capital ≤ last ∧ (capital - first) % stride = 0 then some capital
      else none

/-- The small letter of a letter, or its first character. -/
def smallLetter (n : Nat) : Nat :=
  if n = 0x130 then 0x69
  else
    match Text.capitalRuns.find? fun (first, last, stride, _) =>
        first ≤ n && n ≤ last && (n - first) % stride == 0 with
    | some (_, _, _, shift) => (n + shift).toNat
    | none => n

/-- The small letter of a plain Latin letter. -/
def plainSmallLetter (n : Nat) : Nat := if 65 ≤ n ∧ n ≤ 90 then n + 32 else n

/-- One of the numbers `first`, `first + stride`, … up to `last` lies between `low` and `high`. -/
def meetsRun (first last stride low high : Nat) : Bool :=
  let member := if low ≤ first then first else first + (low - first + stride - 1) / stride * stride
  member ≤ last && member ≤ high

namespace Folding

/-- The letter that stands for all letters that differ from a character by case. -/
def apply : Folding → Nat → Nat
  | .exact, n => n
  | .plain, n => plainSmallLetter n
  | .full, n => smallLetter n

/-- Every letter taken for the same as a small letter. -/
def variants : Folding → Nat → List Nat
  | .exact, n => [n]
  | .plain, n => if 97 ≤ n ∧ n ≤ 122 then [n, n - 32] else [n]
  | .full, n => (smallLetters n) ++ (smallLetters n).flatMap capitalsOf

/-- Two characters are taken for the same. -/
def same (folding : Folding) (m n : Nat) : Bool :=
  match folding with
  | .exact => m == n
  | .plain => plainSmallLetter m == plainSmallLetter n
  | .full => (smallLetters (smallLetter m)).contains (smallLetter n)

/-- Some character of a range has a small letter or a capital other than itself. -/
def hasCased (folding : Folding) (low high : Nat) : Bool :=
  match folding with
  | .exact => false
  | .plain => meetsRun 65 90 1 low high || meetsRun 97 122 1 low high
  | .full =>
    (low ≤ 0x130 && 0x130 ≤ high) ||
      Text.capitalRuns.any (fun (first, last, stride, shift) =>
        meetsRun first last stride low high ||
          meetsRun (first + shift).toNat (last + shift).toNat stride low high) ||
      Text.capitalExceptions.any (fun (first, last, _) => meetsRun first last 1 low high)

end Folding

end Workflow.Pattern
