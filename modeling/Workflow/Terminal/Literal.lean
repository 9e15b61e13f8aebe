import Workflow.Text.CharacterName
import Workflow.Text.Case

/-!
# Literals

What a tag hands to an action is written as a literal: a number, a text in quotes, bytes, one of the
words for truth and for nothing, or a collection of literals in parentheses or braces. Texts that
stand next to each other are one text. A number may have a sign, and a real one may have an
imaginary one added. What is looked up in a collection must not be a collection that changes.
-/

namespace Workflow.Terminal

/-- What there is to know of a literal inside another one. -/
inductive Literal where
  | number (imaginary : Bool)
  | signedNumber (imaginary : Bool)
  /-- Anything else, which can be looked up when it is fixed. -/
  | other (fixed : Bool)
  deriving DecidableEq, Repr

namespace Literal

/-- The literal can be looked up. -/
def isFixed : Literal → Bool
  | .other fixed => fixed
  | _ => true

/-! ## Blanks -/

/-- Pass so many blanks. A line ends a literal outside of parentheses and braces, unless a backslash
comes before its end. -/
def skip (inside : Bool) : Nat → List Char → List Char
  | 0, cs => cs
  | fuel + 1, cs =>
    match cs with
    | '\\' :: '\n' :: rest => skip inside fuel rest
    | '#' :: rest => skip inside fuel (rest.dropWhile (· != '\n'))
    | c :: rest =>
      if c = ' ' || c = '\t' || c = '\x0c' || (inside && c = '\n') then skip inside fuel rest
      else cs
    | [] => []

/-- Pass all blanks at the front. -/
def trim (inside : Bool) (cs : List Char) : List Char := skip inside cs.length cs

/-- Every end of a line as a line feed. -/
def withLineFeeds : List Char → List Char
  | '\r' :: '\n' :: rest => '\n' :: withLineFeeds rest
  | c :: rest => (if c = '\r' then '\n' else c) :: withLineFeeds rest
  | [] => []

/-! ## Numbers -/

/-- A character that a word or a number goes on with. -/
def isWordPart (c : Char) : Bool := c.isAlphanum || c = '_' || 0x80 ≤ c.toNat

/-- Digits with a single underscore before some of them, and what follows. -/
def digits (isDigit : Char → Bool) : List Char → List Char × List Char
  | [] => ([], [])
  | '_' :: d :: rest =>
    if isDigit d then
      let (more, rest) := digits isDigit rest
      (d :: more, rest)
    else ([], '_' :: d :: rest)
  | c :: rest =>
    if isDigit c then
      let (more, rest) := digits isDigit rest
      (c :: more, rest)
    else ([], c :: rest)

/-- Decimal digits with single underscores between them, and what follows. -/
def decimals (cs : List Char) : List Char × List Char :=
  if cs.head? = some '_' then ([], cs) else digits Char.isDigit cs

/-- What follows an exponent, if there is one. -/
def afterExponent? : List Char → Option (List Char)
  | e :: rest =>
    if e = 'e' || e = 'E' then
      let (ds, rest) := decimals (match rest with
        | '+' :: more | '-' :: more => more
        | _ => rest)
      if ds.isEmpty then none else some rest
    else none
  | [] => none

/-- A digit of base sixteen. -/
def isHexDigit (c : Char) : Bool := (Text.hexValue? c.toUpper).isSome

/-- The digits of a base, by the letter that stands for it. -/
def baseDigit? (letter : Char) : Option (Char → Bool) :=
  match letter.toLower with
  | 'x' => some isHexDigit
  | 'o' => some fun c => '0' ≤ c && c ≤ '7'
  | 'b' => some fun c => c = '0' || c = '1'
  | _ => none

/-- The most digits of an integer. -/
def mostDigits : Nat := 4300

/-- A decimal number. -/
def readDecimal (cs : List Char) : Option (Literal × List Char) :=
  let (whole, rest) := decimals cs
  let (hasPoint, places, rest) := match rest with
    | '.' :: more =>
      let (places, rest) := decimals more
      (true, places, rest)
    | _ => (false, [], rest)
  let (hasExponent, rest) := match afterExponent? rest with
    | some rest => (true, rest)
    | none => (false, rest)
  let (imaginary, rest) := match rest with
    | 'j' :: rest | 'J' :: rest => (true, rest)
    | _ => (false, rest)
  let isInteger := !hasPoint && !hasExponent && !imaginary
  let isPadded := whole.head? = some '0' && whole.any (· != '0')
  if whole.isEmpty && places.isEmpty then none
  else if isInteger && (isPadded || mostDigits < whole.length) then none
  else if (rest.head?.map isWordPart).getD false then none
  else some (.number imaginary, rest)

/-- A number without a sign. -/
def readNumber (cs : List Char) : Option (Literal × List Char) :=
  match cs with
  | '0' :: letter :: rest =>
    match baseDigit? letter with
    | none => readDecimal cs
    | some isDigit =>
      let (ds, rest) := digits isDigit rest
      if ds.isEmpty || (rest.head?.map isWordPart).getD false then none
      else some (.number false, rest)
  | _ => readDecimal cs

/-! ## Texts and bytes -/

/-- How a text is written. -/
structure TextForm where
  quote : Char
  long : Bool
  raw : Bool
  bytes : Bool

/-- So many digits of base sixteen come first, for a number that is not too large. -/
def areHexDigits (count greatest : Nat) (cs : List Char) : Bool :=
  let ds := (cs.take count).map Char.toUpper
  ds.length = count && ((Text.hexNumber? ds).map fun n => decide (n ≤ greatest)).getD false

/-- A name of a character between braces comes first. -/
def isNamed : List Char → Bool
  | '\x7b' :: rest =>
    let name := rest.takeWhile (· != '\x7d')
    name.length < rest.length && (Text.characterNamed? name).isSome
  | _ => false

/-- A backslash may stand before a character with others behind it. -/
def allowsEscape (form : TextForm) (c : Char) (rest : List Char) : Bool :=
  if form.raw then true
  else if c = 'x' then areHexDigits 2 0xFF rest
  else if form.bytes then true
  else if c = 'u' then areHexDigits 4 0xFFFF rest
  else if c = 'U' then areHexDigits 8 0x10FFFF rest
  else if c = 'N' then isNamed rest
  else true

/-- What follows the end of a text. -/
def afterText? (form : TextForm) : List Char → Option (List Char)
  | [] => none
  | '\\' :: c :: rest =>
    if allowsEscape form c rest && !(form.bytes && 0x80 ≤ c.toNat) then afterText? form rest
    else none
  | c :: rest =>
    if c = form.quote then
      if form.long then
        match rest with
        | a :: b :: after =>
          if a = form.quote && b = form.quote then some after else afterText? form (a :: b :: after)
        | _ => none
      else some rest
    else if (c = '\n' && !form.long) || (form.bytes && 0x80 ≤ c.toNat) then none
    else afterText? form rest

/-- The form of a text that begins here, and what follows its first quotes. -/
def textStart? (cs : List Char) : Option (TextForm × List Char) :=
  let letters := cs.takeWhile Char.isAlpha
  let mark := String.ofList (letters.map Char.toLower)
  match cs.drop letters.length with
  | quote :: rest =>
    if (quote = '\'' || quote = '"') && ["", "r", "u", "b", "br", "rb"].contains mark then
      let long := rest.take 2 = [quote, quote]
      let form := { quote, long, raw := mark.contains 'r', bytes := mark.contains 'b' }
      some (form, if long then rest.drop 2 else rest)
    else none
  | [] => none

/-- Further texts behind a text, all of them bytes or none. -/
def readTexts (inside bytes : Bool) : Nat → List Char → Option (Literal × List Char)
  | 0, _ => none
  | fuel + 1, cs =>
    match textStart? (trim inside cs) with
    | none => some (.other true, cs)
    | some (form, rest) =>
      if form.bytes = bytes then (afterText? form rest).bind (readTexts inside bytes fuel)
      else none

/-! ## Words and collections -/

/-- A word, or the call that makes an empty set. -/
def readWord (inside : Bool) (cs : List Char) : Option (Literal × List Char) :=
  let word := cs.takeWhile isWordPart
  let rest := cs.drop word.length
  if ["None", "True", "False"].contains (String.ofList word) then some (.other true, rest)
  else if String.ofList word = "set" then
    match trim inside rest with
    | '(' :: rest =>
      match trim true rest with
      | ')' :: rest => some (.other false, rest)
      | _ => none
    | _ => none
  else none

mutual

/-- A literal that is not put together from others by signs. -/
def readAtom : Nat → Bool → List Char → Option (Literal × List Char)
  | 0, _, _ => none
  | fuel + 1, inside, cs =>
    match cs with
    | '(' :: rest => do
      let (items, rest) ← readItems fuel ')' (trim true rest)
      match items with
      | [(item, false)] => some (item, rest)
      | items => some (.other (items.all (·.1.isFixed)), rest)
    | '\x7b' :: rest =>
      match trim true rest with
      | '\x7d' :: rest => some (.other false, rest)
      | rest => do
        let (first, after) ← readSum fuel true rest
        if after.head? = some ':' then
          some (.other false, ← afterPairs? fuel rest)
        else
          let (items, rest) ← readItems fuel '\x7d' rest
          if first.isFixed && items.all (·.1.isFixed) then some (.other false, rest) else none
    | '.' :: '.' :: '.' :: rest => some (.other true, rest)
    | c :: _ =>
      if c.isDigit || c = '.' then readNumber cs
      else
        match textStart? cs with
        | some (form, _) => readTexts inside form.bytes cs.length cs
        | none => readWord inside cs
    | [] => none

/-- A literal up to the blanks behind it. -/
def readSum : Nat → Bool → List Char → Option (Literal × List Char)
  | 0, _, _ => none
  | fuel + 1, inside, cs => do
    let isSigned := cs.head? = some '+' || cs.head? = some '-'
    let (first, rest) ← readAtom fuel inside (if isSigned then trim inside (cs.drop 1) else cs)
    let first ←
      if isSigned then
        match first with
        | .number imaginary => some (.signedNumber imaginary)
        | _ => none
      else some first
    let rest := trim inside rest
    if rest.head? = some '+' || rest.head? = some '-' then do
      let (second, rest) ← readAtom fuel inside (trim inside (rest.drop 1))
      if (first = .number false || first = .signedNumber false) && second = .number true then
        some (.other true, trim inside rest)
      else none
    else some (first, rest)

/-- The items up to the end of a collection, each with whether a comma follows. -/
def readItems : Nat → Char → List Char → Option (List (Literal × Bool) × List Char)
  | 0, _, _ => none
  | fuel + 1, ending, cs =>
    if cs.head? = some ending then some ([], cs.drop 1)
    else do
      let (item, rest) ← readSum fuel true cs
      match rest with
      | ',' :: rest =>
        let (items, rest) ← readItems fuel ending (trim true rest)
        some ((item, true) :: items, rest)
      | c :: rest => if c = ending then some ([(item, false)], rest) else none
      | [] => none

/-- What follows the pairs of a collection and its end. -/
def afterPairs? : Nat → List Char → Option (List Char)
  | 0, _ => none
  | fuel + 1, cs =>
    if cs.head? = some '\x7d' then some (cs.drop 1)
    else do
      let (name, rest) ← readSum fuel true cs
      if !name.isFixed || rest.head? != some ':' then none
      else
        let (_, rest) ← readSum fuel true (trim true (rest.drop 1))
        match rest with
        | ',' :: rest => afterPairs? fuel (trim true rest)
        | '\x7d' :: rest => some rest
        | _ => none

end

/-- Literals with commas between them, up to the end of a text. -/
def areLiterals : Nat → List Char → Bool
  | 0, _ => false
  | fuel + 1, cs =>
    match readSum (3 * cs.length + 3) false cs with
    | none => false
    | some (_, ',' :: rest) =>
      let rest := trim false rest
      (trim true rest).isEmpty || areLiterals fuel rest
    | some (_, rest) => (trim true rest).isEmpty

/-- The text is a literal, or several with commas between them. -/
def isLiteral (cs : List Char) : Bool :=
  let cs := trim true (withLineFeeds cs)
  areLiterals (cs.length + 1) cs

end Literal

end Workflow.Terminal
