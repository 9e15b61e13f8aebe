/-!
# Finding a text in another

A keyword is found when it stands anywhere inside a message. A text is cut at the places where a
character is found.
-/

namespace Workflow.Text

/-- The first list of characters stands somewhere in the second. -/
def occursIn (needle : List Char) : List Char → Bool
  | [] => needle.isEmpty
  | c :: rest => needle.isPrefixOf (c :: rest) || occursIn needle rest

/-- The first text stands somewhere in the second. -/
def contains (text needle : String) : Bool := occursIn needle.toList text.toList

/-- The parts of a list of characters between separators. -/
def splitChars (separator : Char) : List Char → List (List Char)
  | [] => [[]]
  | c :: rest =>
    if c = separator then [] :: splitChars separator rest
    else
      match splitChars separator rest with
      | part :: parts => (c :: part) :: parts
      | [] => [[c]]

/-- Every character that ends a line, but the return in front of a line feed. -/
def isLineEnd (c : Char) : Bool :=
  [0xA, 0xB, 0xC, 0xD, 0x1C, 0x1D, 0x1E, 0x85, 0x2028, 0x2029].contains c.toNat

/-- The lines of a text. -/
def lines (s : String) : List String :=
  (splitChars '\n' (s.toList.map fun c => if isLineEnd c then '\n' else c)).map String.ofList

/-- The parts of a text between separators. -/
def split (separator : Char) (s : String) : List String :=
  (splitChars separator s.toList).map String.ofList

/-- A text up to the first separator, and what follows the separator. -/
def cut (separator : Char) (s : String) : String × String :=
  let cs := s.toList
  (String.ofList (cs.takeWhile (· != separator)),
    String.ofList ((cs.dropWhile (· != separator)).drop 1))

/-- A text without the repeated character at its end. -/
def trimEndOf (c : Char) (s : String) : String :=
  String.ofList (s.toList.reverse.dropWhile (· == c)).reverse

theorem occursIn_iff (needle : List Char) (cs : List Char) :
    occursIn needle cs = true ↔ ∃ before after, cs = before ++ needle ++ after := by
  induction cs with
  | nil =>
      simp only [occursIn, List.isEmpty_iff]
      constructor
      · rintro rfl
        exact ⟨[], [], rfl⟩
      · rintro ⟨before, after, h⟩
        simp only [List.nil_eq, List.append_eq_nil_iff] at h
        exact h.1.2
  | cons c rest ih =>
      simp only [occursIn, Bool.or_eq_true, List.isPrefixOf_iff_prefix, ih]
      constructor
      · rintro (⟨after, h⟩ | ⟨before, after, rfl⟩)
        · exact ⟨[], after, by simpa using h.symm⟩
        · exact ⟨c :: before, after, rfl⟩
      · rintro ⟨before, after, h⟩
        cases before with
        | nil => exact Or.inl ⟨after, by simpa using h.symm⟩
        | cons d before =>
            simp only [List.cons_append, List.cons.injEq] at h
            exact Or.inr ⟨before, after, h.2⟩

end Workflow.Text
