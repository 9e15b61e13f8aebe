import Mathlib.Logic.Function.Basic
import Workflow.Identifier

/-!
# Identifiers tell things apart

The digits of an identifier are padded and never cut off, so the number can be read back from them.
Things with different numbers therefore have different identifiers, however many things are made.
-/

namespace Workflow

namespace Text

/-- What a hexadecimal digit stands for. -/
def digitWeight (c : Char) : Nat :=
  if c.isDigit then c.toNat - '0'.toNat else c.toNat - 'a'.toNat + 10

/-- What a run of digits stands for. -/
def weigh (digits : List Char) : Nat := digits.foldl (fun n c => 16 * n + digitWeight c) 0

theorem digitWeight_digitChar {d : Nat} (h : d < 16) : digitWeight d.digitChar = d := by
  have all : ∀ d : Fin 16, digitWeight (Nat.digitChar d) = d := by decide
  exact all ⟨d, h⟩

theorem weigh_replicate_append (k : Nat) (digits : List Char) :
    weigh (List.replicate k '0' ++ digits) = weigh digits := by
  induction k with
  | zero => rfl
  | succ k ih => simpa [List.replicate_succ, weigh, digitWeight] using ih

theorem weigh_toDigits (n : Nat) : weigh (Nat.toDigits 16 n) = n := by
  induction n using Nat.strongRecOn with
  | ind n ih =>
      rw [Nat.toDigits_eq_if (by decide)]
      split
      · simpa [weigh] using digitWeight_digitChar ‹n < 16›
      · have hdigit := digitWeight_digitChar (Nat.mod_lt n (by decide : 0 < 16))
        have hfront := ih (n / 16) (by omega)
        simp only [weigh] at hfront
        simp only [weigh, List.foldl_append, List.foldl_cons, List.foldl_nil, hfront, hdigit]
        omega

theorem weigh_hexDigits (width n : Nat) : weigh (hexDigits width n) = n := by
  rw [hexDigits, weigh_replicate_append, weigh_toDigits]

end Text

namespace Identifier

theorem digits_eq_of_append_eq {front : String} {first second : List Char}
    (h : front ++ String.ofList first = front ++ String.ofList second) : first = second := by
  have hlist := congrArg String.toList h
  simpa using hlist

theorem ofNumber_injective : Function.Injective ofNumber := by
  intro m n h
  have hdigits : Text.hexDigits 12 m = Text.hexDigits 12 n := digits_eq_of_append_eq h
  calc
    m = Text.weigh (Text.hexDigits 12 m) := (Text.weigh_hexDigits 12 m).symm
    _ = Text.weigh (Text.hexDigits 12 n) := by rw [hdigits]
    _ = n := Text.weigh_hexDigits 12 n

end Identifier

end Workflow
