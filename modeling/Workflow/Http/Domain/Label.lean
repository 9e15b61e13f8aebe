import Workflow.Http.Domain.Composition
import Workflow.Http.Domain.Direction
import Workflow.Http.Domain.Joining
import Workflow.Http.Domain.Letter
import Workflow.Http.Domain.Punycode
import Workflow.Text.Search

/-!
# Domain names

A domain name is a row of labels with points between them. A label is made of letters, marks, digits
and dashes. A label with other than plain letters is sent in plain ones behind a mark that tells so.
-/

namespace Workflow.Http.Domain

open Text

/-- A character that makes sense only next to certain others. `before` holds the characters in front
of it, last one first. -/
def suits (label before : List Char) (c : Char) (after : List Char) : Bool :=
  let isIn (ranges : CodeRanges) (cs : List Char) := (cs.head?.map ranges.has).getD false
  match c.toNat with
  | 0x200C =>
    (before.head?.map markClass).getD 0 = vowelless || areJoined before after
  | 0x200D => (before.head?.map markClass).getD 0 = vowelless
  | 0xB7 => before.head? = some 'l' && after.head? = some 'l'
  | 0x375 => isIn greekRanges after
  | 0x5F3 | 0x5F4 => isIn hebrewRanges before
  | 0x30FB => label.any fun d => d != c && japaneseRanges.has d
  | n =>
    if 0x660 ≤ n ∧ n ≤ 0x669 then label.all fun d => d.toNat < 0x6F0 || 0x6F9 < d.toNat
    else if 0x6F0 ≤ n ∧ n ≤ 0x6F9 then label.all fun d => d.toNat < 0x660 || 0x669 < d.toNat
    else false

/-- The rest of a label has only characters that may stand in their places. -/
def areLetters (label before : List Char) : List Char → Bool
  | [] => true
  | c :: rest =>
    (isLetter c || suits label before c rest) && areLetters label (c :: before) rest

/-- The dashes of a label stand between other characters, and not in its third and fourth place. -/
def areDashesInside (label : List Char) : Bool :=
  label.head? != some '-' && label.getLast? != some '-' && (label.drop 2).take 2 != ['-', '-']

/-- A label whose characters go together. -/
def isLabel (label : List Char) : Bool :=
  !label.isEmpty && areDashesInside label && !(label.head?.map isMark).getD false &&
    areLetters label [] label && compose label == label &&
    directionsAgree (label.map Direction.of)

/-- What stands in front of a label in plain letters that stands for another one. -/
def plainMark : List Char := ['x', 'n', '-', '-']

/-- A label in plain letters may be sent: it is one, or the one it stands for is. -/
def isSendable (label : List Char) : Bool :=
  if plainMark.isPrefixOf label then
    let rest := label.drop plainMark.length
    !rest.isEmpty && rest.getLast? != some '-' &&
      ((Punycode.decode rest).map isLabel).getD false
  else isLabel label

/-- A label in plain letters. -/
def encodeLabel? (label : List Char) : Option (List Char) := do
  let plain ←
    if label.all (·.toNat < 0x80) then if isSendable label then some label else none
    else if isLabel label then some (plainMark ++ Punycode.encode label)
    else none
  if plain.length ≤ 63 then some plain else none

/-- A point between labels, in any of its forms. -/
def isPoint (c : Char) : Bool :=
  c = '.' || c = '\u3002' || c = '\uFF0E' || c = '\uFF61'

/-- A domain name in plain letters, when the name makes sense. A point may end it. -/
def encode? (name : String) : Option String := do
  let cs := name.toList.map fun c => if isPoint c then '.' else c
  let isEnded := cs.getLast? = some '.'
  let labels := splitChars '.' (if isEnded then cs.dropLast else cs)
  let plain ← labels.mapM encodeLabel?
  let sent := ['.'].intercalate plain
  if sent.length ≤ 253 then some (String.ofList (sent ++ if isEnded then ['.'] else [])) else none

end Workflow.Http.Domain
