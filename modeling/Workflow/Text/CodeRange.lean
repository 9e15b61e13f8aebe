/-!
# Ranges of code points

A character class is a list of closed ranges of code points. Membership is decided by comparing
numbers, so a class can be computed with and reasoned about like any other list.
-/

namespace Workflow.Text

/-- Closed ranges of code points. -/
abbrev CodeRanges := List (Nat × Nat)

namespace CodeRanges

/-- The character lies in one of the ranges. -/
def has (ranges : CodeRanges) (c : Char) : Bool :=
  ranges.any fun r => r.1 ≤ c.toNat && c.toNat ≤ r.2

end CodeRanges

end Workflow.Text
