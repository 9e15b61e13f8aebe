import Workflow.Terminal.Cell
import Workflow.Text.Blank
import Workflow.Text.Search

/-!
# Lines of limited width

A line that is too wide for its place is broken in front of a word. A word that is too wide by
itself is cut short, and an ellipsis stands for the rest.
-/

namespace Workflow.Terminal

/-- The cells a text takes. -/
def width (cs : List Char) : Nat := (cs.map cells).foldl Nat.add 0

/-- The characters without the blanks at the end. -/
def trimEnd (cs : List Char) : List Char := (Text.trimStart cs.reverse).reverse

/-- A character that is not blank. -/
def isInk (c : Char) : Bool := !Text.isBlank c

/-- The words of a text, each with the blanks behind it. `front` comes before the first one. -/
def wordsWithBlanks (front : List Char) (cs : List Char) : List (List Char) :=
  match h : cs.takeWhile isInk with
  | [] => []
  | c :: word =>
    let behind := cs.dropWhile isInk
    let following := behind.dropWhile Text.isBlank
    have : following.length < cs.length := by
      have parts := congrArg List.length (List.takeWhile_append_dropWhile (p := isInk) (l := cs))
      have shorter : following.length ≤ (cs.dropWhile isInk).length :=
        (List.dropWhile_suffix Text.isBlank).length_le
      simp only [h, List.length_append, List.length_cons] at parts
      omega
    (front ++ c :: word ++ behind.takeWhile Text.isBlank) :: wordsWithBlanks [] following
  termination_by cs.length

/-- The words of a line. The first one has the blanks in front of it too. -/
def lineWords (line : List Char) : List (List Char) :=
  wordsWithBlanks (line.takeWhile Text.isBlank) (line.dropWhile Text.isBlank)

/-- Put words in lines of a width. `used` tells how many cells of the current line are taken. -/
def fill (limit used : Nat) (current : List Char) : List (List Char) → List (List Char)
  | [] => [current]
  | word :: rest =>
    let fits := used + width (trimEnd word) ≤ limit
    if fits || current.isEmpty then
      fill limit (if fits then used + width word else width word) (current ++ word) rest
    else current :: fill limit (width word) word rest

/-- A line without blanks at its end that go beyond a width. -/
def cropBlanks (limit : Nat) (line : List Char) : List Char :=
  line.take (max (trimEnd line).length (min line.length limit))

/-- Look for the characters at the front that fill so many cells, with the last one at a position
between two others. A blank stands for half a character. -/
def searchCells (total : Nat) (cs : List Char) : Nat → Nat → Nat → List Char
  | 0, low, _ => cs.take low
  | fuel + 1, low, high =>
    let middle := (low + high) / 2
    let front := cs.take (middle + 1)
    let used := width front
    if used = total + 1 && (front.getLast?.map cells).getD 0 = 2 then front.dropLast ++ [' ']
    else if used = total then front
    else if total < used then searchCells total cs fuel low middle
    else searchCells total cs fuel middle high

/-- The characters at the front that fill so many cells. -/
def fillCells (total : Nat) (cs : List Char) : List Char :=
  if total = 0 then []
  else if cs.all fun c => cells c = 1 then cs.take total
  else searchCells total cs cs.length 0 cs.length

/-- A line that is cut short when it is too wide. -/
def cutShort (limit : Nat) (line : List Char) : List Char :=
  if width line ≤ limit then line else fillCells (limit - 1) line ++ ['…']

/-- The lines of a text in a place of a width. A text that is kept whole is only cut short. -/
def wrap (limit : Nat) (whole : Bool) (cs : List Char) : List (List Char) :=
  (Text.splitChars '\n' cs).flatMap fun line =>
    let line := widenTabs 0 line
    let broken := if whole || (lineWords line).isEmpty then [line]
      else fill limit 0 [] (lineWords line)
    broken.map fun line => cutShort limit (cropBlanks limit line)

end Workflow.Terminal
