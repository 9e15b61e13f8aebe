/-!
# Flaws of patterns

A text that is not taken as a pattern has one of a few flaws. Nearly always it just is no pattern;
the other causes are limits of what is taken.
-/

namespace Workflow.Pattern

/-- Why a text is not taken as a pattern. -/
inductive Flaw where
  /-- The text is no pattern. -/
  | malformed
  /-- A repetition has a count that is too large. -/
  | oversizeCount
  /-- A count has too many digits to be read. -/
  | oversizeNumber (digits : Nat)
  /-- The pattern asks for plain Latin and for every script. -/
  | clashingScripts
  /-- Groups stand too deep in one another. -/
  | tooDeep
  deriving DecidableEq, Repr

end Workflow.Pattern
