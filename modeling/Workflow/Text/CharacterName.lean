import Workflow.Text.CharacterName.Ancient
import Workflow.Text.CharacterName.Asian
import Workflow.Text.CharacterName.European
import Workflow.Text.CharacterName.Picture
import Workflow.Text.CharacterName.Presentation
import Workflow.Text.CharacterName.Score
import Workflow.Text.CharacterName.Syllable
import Workflow.Text.CharacterName.Symbol
import Workflow.Text.CodeRange

/-!
# Characters by name

Every character but the controls has a name. Most names are listed, in runs of characters that
follow one another, and are found without regard to case. The syllables of Korean are named by the
letters they are made of, and the unified ideographs by their codes; these two are written in
capitals. The names are those of Unicode 14.
-/

namespace Workflow.Text

/-- The value of a digit of base sixteen, in capitals. -/
def hexValue? (c : Char) : Option Nat :=
  if c.isDigit then some (c.toNat - '0'.toNat)
  else if 'A' ≤ c && c ≤ 'F' then some (c.toNat - 'A'.toNat + 10)
  else none

/-- The number written in base sixteen, in capitals. -/
def hexNumber? (cs : List Char) : Option Nat :=
  cs.foldlM (fun n c => (hexValue? c).map (16 * n + ·)) 0

/-- What follows a start. -/
def after? (start cs : List Char) : Option (List Char) :=
  if start.isPrefixOf cs then some (cs.drop start.length) else none

namespace CharacterName

/-- The place of a name in a run of names, given the rest of each behind the shared start. -/
def placeIn? (name : List Char) (run : String) : Option Nat :=
  match run.splitOn ":" with
  | [start, rests] => do
    let rest ← after? start.toList name
    (rests.splitOn ";").findIdx? fun r => r.toList = rest
  | _ => none

/-- The code of a name, if the run holds it. -/
def codeIn? (name : List Char) (run : String) : Option Nat :=
  match run.splitOn "=" with
  | [first, names] => do return (← hexNumber? first.toList) + (← placeIn? name names)
  | _ => none

/-- The runs of a table. Line ends mean nothing. -/
def runs (table : String) : List String := (String.join (table.splitOn "\n")).splitOn "."

/-- All tables. -/
def tables : List String :=
  [europeanNames, symbolNames, pictureNames, semiticNames, indicNames, orientalNames,
   phoneticNames, syllableNames, presentationNames, ancientNames, scoreNames, furtherNames]

/-- The code of a listed name. -/
def listed? (name : List Char) : Option Nat :=
  tables.findSome? fun table => (runs table).findSome? (codeIn? (name.map Char.toUpper))

/-- The unified ideographs. -/
def ideographs : CodeRanges :=
  [(0x3400, 0x4DBF), (0x4E00, 0x9FFF), (0x20000, 0x2A6DF), (0x2A700, 0x2B738), (0x2B740, 0x2B81D),
   (0x2B820, 0x2CEA1), (0x2CEB0, 0x2EBE0), (0x30000, 0x3134A)]

/-- The code of a unified ideograph: four or five digits of base sixteen. -/
def ideograph? (name : List Char) : Option Nat := do
  let digits ← after? "CJK UNIFIED IDEOGRAPH-".toList name
  let code ← if digits.length = 4 ∨ digits.length = 5 then hexNumber? digits else none
  if ideographs.any fun r => r.1 ≤ code && code ≤ r.2 then some code else none

/-- The consonants a syllable may start with. -/
def leads : List String :=
  ["G", "GG", "N", "D", "DD", "R", "M", "B", "BB", "S", "SS", "", "J", "JJ", "C", "K", "T", "P",
   "H"]

/-- The vowels of a syllable. -/
def vowels : List String :=
  ["A", "AE", "YA", "YAE", "EO", "E", "YEO", "YE", "O", "WA", "WAE", "OE", "YO", "U", "WEO", "WE",
   "WI", "YU", "EU", "YI", "I"]

/-- The consonants a syllable may end with. -/
def tails : List String :=
  ["", "G", "GG", "GS", "N", "NJ", "NH", "D", "L", "LG", "LM", "LB", "LS", "LT", "LP", "LH", "M",
   "B", "BS", "S", "SS", "NG", "J", "C", "K", "T", "P", "H"]

/-- The longest of some letters at the front: its number and what follows. -/
def longest? (letters : List String) (cs : List Char) : Option (Nat × List Char) :=
  letters.zipIdx.foldl (fun best entry =>
    match after? entry.1.toList cs, best with
    | some rest, some (_, left) => if rest.length < left.length then some (entry.2, rest) else best
    | some rest, none => some (entry.2, rest)
    | none, _ => best) none

/-- The code of a syllable of Korean: one of nineteen beginnings, one of twenty-one vowels and one
of twenty-eight endings. -/
def syllable? (name : List Char) : Option Nat := do
  let letters ← after? "HANGUL SYLLABLE ".toList name
  let (lead, rest) ← longest? leads letters
  let (vowel, rest) ← longest? vowels rest
  let (tail, rest) ← longest? tails rest
  if rest.isEmpty then some (0xAC00 + (lead * 21 + vowel) * 28 + tail) else none

end CharacterName

open CharacterName in
/-- The code of the character with a name. -/
def characterNamed? (name : List Char) : Option Nat :=
  (syllable? name).or ((ideograph? name).or (listed? name))

end Workflow.Text
