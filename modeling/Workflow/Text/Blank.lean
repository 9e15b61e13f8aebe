import Workflow.Text.CodeRange

/-!
# Blank characters

Blanks separate words and are cut off both ends of a typed reply before it is compared. They are
the spaces, line ends and separators of every script, with the four separator controls below the
plain space.
-/

namespace Workflow.Text

/-- Every blank character. -/
def blankRanges : CodeRanges :=
  [(0x9, 0xD), (0x1C, 0x20), (0x85, 0x85), (0xA0, 0xA0), (0x1680, 0x1680), (0x2000, 0x200A),
   (0x2028, 0x2029), (0x202F, 0x202F), (0x205F, 0x205F), (0x3000, 0x3000)]

/-- A space, a line end or another separator. -/
def isBlank (c : Char) : Bool := blankRanges.has c

/-- The characters without the blanks at the front. -/
def trimStart (cs : List Char) : List Char := cs.dropWhile isBlank

/-- The characters without the blanks at either end. -/
def trimChars (cs : List Char) : List Char :=
  (trimStart (trimStart cs).reverse).reverse

/-- The text without the blanks at either end. -/
def trim (s : String) : String := String.ofList (trimChars s.toList)

/-- The words of a text, in which a word is begun. Its characters come last one first. -/
def wordsFrom (word : List Char) : List Char → List (List Char)
  | [] => if word.isEmpty then [] else [word.reverse]
  | c :: rest =>
    if isBlank c then (if word.isEmpty then [] else [word.reverse]) ++ wordsFrom [] rest
    else wordsFrom (c :: word) rest

/-- The words of a text: what stands between blanks. -/
def words (s : String) : List String := (wordsFrom [] s.toList).map String.ofList

end Workflow.Text
