import Workflow.Text.Quoted

/-!
# Identifiers

Things that are made get identifiers from a running number, so no two are the same. An identifier
has five groups of hexadecimal digits; the identifier of a message that was only kept is marked as
such.
-/

namespace Workflow.Identifier

/-- The identifier with a number. -/
def ofNumber (n : Nat) : String :=
  "00000000-0000-4000-8000-" ++ String.ofList (Text.hexDigits 12 n)

/-- The identifier of a part of a thing with an identifier: the first group counts the parts. -/
def ofPart (whole : String) (position : Nat) : String :=
  String.ofList (Text.hexDigits 8 (position + 1) ++ whole.toList.drop 8)

/-- The identifier of a message that was kept instead of sent. -/
def ofKept (n : Nat) : String := "sim-" ++ String.ofList (Text.hexDigits 12 n)

end Workflow.Identifier
