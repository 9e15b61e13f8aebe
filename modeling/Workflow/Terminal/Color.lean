import Workflow.Fault
import Workflow.Number.Reading
import Workflow.Text.Case
import Workflow.Text.Search

/-!
# Colours

A colour of a terminal is known by a name, by its number, or by its shares of red, green and blue.
The names that are alike are told apart by a number at their end.
-/

namespace Workflow.Terminal

open Text

/-- The names of colours, each with what may stand at its end. -/
def colorNames : List (String × List String) :=
  [("black", [""]), ("red", ["", "3", "1"]), ("green", ["", "4", "3", "1"]),
   ("yellow", ["", "4", "3", "2", "1"]), ("blue", ["", "3", "1"]), ("magenta", ["", "3", "2", "1"]),
   ("cyan", ["", "3", "2", "1"]), ("white", [""]), ("bright_black", [""]), ("bright_red", [""]),
   ("bright_green", [""]), ("bright_yellow", [""]), ("bright_blue", [""]), ("bright_magenta", [""]),
   ("bright_cyan", [""]), ("bright_white", [""]),
   ("grey", ["0", "37", "53", "63", "69", "84", "100", "3", "7", "11", "15", "19", "23", "27",
      "30", "35", "39", "42", "46", "50", "54", "58", "62", "66", "70", "74", "78", "82", "85",
      "89", "93"]),
   ("gray", ["0", "37", "53", "63", "69", "84", "100", "3", "7", "11", "15", "19", "23", "27",
      "30", "35", "39", "42", "46", "50", "54", "58", "62", "66", "70", "74", "78", "82", "85",
      "89", "93"]), ("navy_blue", [""]), ("dark_blue", [""]), ("dark_green", [""]),
   ("deep_sky_blue", ["4", "3", "2", "1"]), ("dodger_blue", ["3", "2", "1"]),
   ("spring_green", ["4", "3", "2", "1"]), ("turquoise", ["4", "2"]), ("dark_cyan", [""]),
   ("light_sea_green", [""]), ("dark_turquoise", [""]), ("medium_spring_green", [""]),
   ("dark_red", [""]), ("deep_pink", ["4", "3", "2", "1"]), ("purple", ["4", "3", ""]),
   ("blue_violet", [""]), ("orange", ["4", "3", "1"]), ("medium_purple", ["4", "3", "", "2", "1"]),
   ("slate_blue", ["3", "1"]), ("royal_blue", ["1"]), ("chartreuse", ["4", "3", "2", "1"]),
   ("dark_sea_green", ["4", "", "3", "2", "1"]), ("pale_turquoise", ["4", "1"]),
   ("steel_blue", ["", "3", "1"]), ("cornflower_blue", [""]), ("cadet_blue", [""]),
   ("sky_blue", ["3", "2", "1"]), ("pale_green", ["3", "1"]), ("sea_green", ["3", "2", "1"]),
   ("aquamarine", ["3", "1"]), ("medium_turquoise", [""]), ("dark_slate_gray", ["2", "3", "1"]),
   ("dark_magenta", [""]), ("dark_violet", [""]), ("light_pink", ["4", "3", "1"]),
   ("plum", ["4", "3", "2", "1"]), ("wheat", ["4", "1"]), ("light_slate_grey", [""]),
   ("light_slate_gray", [""]), ("light_slate_blue", [""]), ("dark_olive_green", ["3", "2", "1"]),
   ("light_sky_blue", ["3", "1"]), ("light_green", [""]), ("medium_violet_red", [""]),
   ("dark_orange", ["3", ""]), ("indian_red", ["", "1"]), ("hot_pink", ["3", "2", ""]),
   ("medium_orchid", ["3", "", "1"]), ("dark_goldenrod", [""]), ("light_salmon", ["3", "1"]),
   ("rosy_brown", [""]), ("gold", ["3", "1"]), ("dark_khaki", [""]), ("navajo_white", ["3", "1"]),
   ("light_steel_blue", ["3", "", "1"]), ("light_cyan", ["3", "1"]), ("green_yellow", [""]),
   ("orchid", ["", "2", "1"]), ("pink", ["3", "1"]), ("violet", [""]),
   ("light_goldenrod", ["3", "2", "1"]), ("tan", [""]), ("misty_rose", ["3", "1"]),
   ("thistle", ["3", "1"]), ("khaki", ["3", "1"]), ("light_yellow", ["3"]), ("honeydew", ["2"]),
   ("orange_red", ["1"]), ("salmon", ["1"]), ("light_coral", [""]), ("pale_violet_red", ["1"]),
   ("sandy_brown", [""]), ("cornsilk", ["1"])]

/-- The colour has a name. -/
def isColorName (s : String) : Bool :=
  s = "default" ||
    colorNames.any fun (name, endings) => endings.any fun ending => name ++ ending = s

/-- What stands between a start and an end. -/
def between? (start ending : String) (s : String) : Option (List Char) :=
  let cs := s.toList
  if start.toList.isPrefixOf cs && ending.toList.isSuffixOf cs &&
      start.length + ending.length < cs.length then
    some ((cs.drop start.length).take (cs.length - start.length - ending.length))
  else none

/-- A share of a colour. -/
def share? (part : List Char) : Except Fault (Option Nat) :=
  if part.isEmpty then .error (.unreadableNumber "")
  else
    match part.mapM digitValue? with
    | some ds => .ok (some (Number.ofDigits ds))
    | none => .ok none

/-- The three shares of a colour, each no more than 255. -/
def areShares (cs : List Char) : Except Fault Bool :=
  match splitChars ',' cs with
  | [red, green, blue] => do
    let shares ← [red, green, blue].mapM share?
    return shares.all fun share => (share.map fun n => decide (n ≤ 255)).getD false
  | _ => .ok false

/-- The text, which is in small letters, says a colour. -/
def isColor (s : String) : Except Fault Bool :=
  let isHex (c : Char) := c.isDigit || ('a' ≤ c && c ≤ 'f')
  match between? "rgb(" ")" s with
  | some cs =>
    if cs.all fun c => c = ',' || (digitValue? c).isSome then areShares cs else .ok false
  | none =>
    match between? "color(" ")" s with
    | some cs =>
      .ok (cs.length ≤ 3 && cs.all Char.isDigit &&
        Number.ofDigits (cs.filterMap digitValue?) ≤ 255)
    | none =>
      match s.toList with
      | '#' :: digits => .ok (digits.length = 6 && digits.all isHex)
      | _ => .ok (isColorName s)

end Workflow.Terminal
