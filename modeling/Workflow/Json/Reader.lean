import Workflow.Number.Reading
import Workflow.Value.Basic

/-!
# Reading JSON

A document is one value with blanks around it. A number with a fraction or an exponent is a binary
number and any other is an integer. When an object repeats a name the last value wins. Beside the
standard the words for infinity and for an undefined number are read too.

An error carries the position, in characters, at which the text stops being a document; a request
with a broken body is answered with that position.
-/

namespace Workflow.Json

/-- What was expected, or wrong, where reading stopped. -/
inductive Problem where
  | value
  | propertyName
  | colon
  | comma
  | unterminatedText
  | controlCharacter
  | unknownEscape
  | unicodeEscape
  | extraData
  | byteOrderMark
  /-- An integer has too many digits to be read. -/
  | oversizeNumber (digits : Nat)
  /-- Lists and objects stand too deep in one another. -/
  | tooDeep
  deriving DecidableEq, Repr

/-- A problem and its place. -/
structure SyntaxError where
  problem : Problem
  position : Nat
  deriving DecidableEq, Repr

/-- What is left of a document and where that starts. -/
structure Cursor where
  position : Nat
  rest : List Char

namespace Cursor

/-- Pass a number of characters. -/
def advance (cursor : Cursor) (count : Nat) : Cursor :=
  ⟨cursor.position + count, cursor.rest.drop count⟩

/-- The characters that may stand between the parts of a document. -/
def isSeparator (c : Char) : Bool := c == ' ' || c == '\t' || c == '\n' || c == '\r'

/-- Pass the separators. -/
def skip (cursor : Cursor) : Cursor :=
  cursor.advance (cursor.rest.takeWhile isSeparator).length

end Cursor

/-- Reading gives a value and what follows it. -/
abbrev Read (α : Type) := Except SyntaxError (α × Cursor)

/-- Fail at a position. -/
def failAt {α : Type} (problem : Problem) (position : Nat) : Read α :=
  .error ⟨problem, position⟩

/-- The value of a hexadecimal digit. -/
def hexValue? (c : Char) : Option Nat :=
  if c.isDigit then some (c.toNat - '0'.toNat)
  else if 'a' ≤ c ∧ c ≤ 'f' then some (c.toNat - 'a'.toNat + 10)
  else if 'A' ≤ c ∧ c ≤ 'F' then some (c.toNat - 'A'.toNat + 10)
  else none

/-- The number written with four hexadecimal digits. -/
def hexFour? (a b c d : Char) : Option Nat :=
  match hexValue? a, hexValue? b, hexValue? c, hexValue? d with
  | some a, some b, some c, some d => some (((a * 16 + b) * 16 + c) * 16 + d)
  | _, _, _, _ => none

/-- The character a short escape stands for. -/
def shortEscape? : Char → Option Char
  | '"' => some '"'
  | '\\' => some '\\'
  | '/' => some '/'
  | 'b' => some '\x08'
  | 'f' => some '\x0c'
  | 'n' => some '\n'
  | 'r' => some '\r'
  | 't' => some '\t'
  | _ => none

/-- The character of a code point; half of a surrogate pair stands for no character of its own. -/
def codeChar (n : Nat) : Char :=
  if 0xD800 ≤ n ∧ n ≤ 0xDFFF then Char.ofNat 0xFFFD else Char.ofNat n

/-- The characters up to the closing quote. `start` is the place of the opening one, and `passed`
holds the characters read so far, last one first. -/
def readText (start position : Nat) (passed : List Char) : List Char → Read String
  | [] => failAt .unterminatedText start
  | '"' :: rest => .ok (String.ofList passed.reverse, ⟨position + 1, rest⟩)
  | ['\\'] => failAt .unterminatedText start
  | '\\' :: 'u' :: a :: b :: c :: d :: '\\' :: 'u' :: e :: f :: g :: h :: rest =>
    match hexFour? a b c d with
    | none => failAt .unicodeEscape (position + 1)
    | some high =>
      if 0xD800 ≤ high ∧ high ≤ 0xDBFF ∧ ¬ rest.isEmpty then
        match hexFour? e f g h with
        | none => failAt .unicodeEscape (position + 7)
        | some low =>
          if 0xDC00 ≤ low ∧ low ≤ 0xDFFF then
            let joined := Char.ofNat (0x10000 + (high - 0xD800) * 0x400 + (low - 0xDC00))
            readText start (position + 12) (joined :: passed) rest
          else readText start (position + 6) (codeChar high :: passed)
            ('\\' :: 'u' :: e :: f :: g :: h :: rest)
      else readText start (position + 6) (codeChar high :: passed)
        ('\\' :: 'u' :: e :: f :: g :: h :: rest)
  | '\\' :: 'u' :: a :: b :: c :: d :: next :: rest =>
    match hexFour? a b c d with
    | none => failAt .unicodeEscape (position + 1)
    | some n => readText start (position + 6) (codeChar n :: passed) (next :: rest)
  | '\\' :: 'u' :: _ => failAt .unicodeEscape (position + 1)
  | '\\' :: c :: rest =>
    match shortEscape? c with
    | some e => readText start (position + 2) (e :: passed) rest
    | none => failAt .unknownEscape position
  | c :: rest =>
    if c.toNat < 0x20 then failAt .controlCharacter position
    else readText start (position + 1) (c :: passed) rest

/-- The number that plain decimal digits stand for. -/
def digitsValue (ds : List Char) : Nat := ds.foldl (fun n d => 10 * n + (d.toNat - '0'.toNat)) 0

/-- The digits after a point, when there is a point with a digit behind it. -/
def fraction : List Char → List Char
  | '.' :: rest => rest.takeWhile Char.isDigit
  | _ => []

/-- The sign and digits of an exponent, with the number of characters it takes. -/
def exponentPart : List Char → Option (Bool × List Char × Nat)
  | e :: rest =>
    if e == 'e' || e == 'E' then
      let (negative, signed, digits) := match rest with
        | '-' :: more => (true, 1, more.takeWhile Char.isDigit)
        | '+' :: more => (false, 1, more.takeWhile Char.isDigit)
        | more => (false, 0, more.takeWhile Char.isDigit)
      if digits.isEmpty then none else some (negative, digits, 1 + signed + digits.length)
    else none
  | [] => none

/-- The most digits an integer may have. -/
def digitLimit : Nat := 4300

/-- A number. The whole part is a single zero or starts with another digit. -/
def readNumber (cursor : Cursor) : Read Value :=
  let (negative, body) := match cursor.rest with
    | '-' :: rest => (true, rest)
    | rest => (false, rest)
  let whole := match body with
    | '0' :: _ => ['0']
    | cs => cs.takeWhile Char.isDigit
  let afterWhole := body.drop whole.length
  let places := fraction afterWhole
  let fractionSize := if places.isEmpty then 0 else places.length + 1
  let power := exponentPart (afterWhole.drop fractionSize)
  if whole.isEmpty then failAt .value cursor.position
  else if digitLimit < whole.length && places.isEmpty && power.isNone then
    failAt (.oversizeNumber whole.length) cursor.position
  else
    let size := (if negative then 1 else 0) + whole.length + fractionSize +
      (power.map (·.2.2)).getD 0
    let value :=
      if places.isEmpty && power.isNone then
        let n : Int := digitsValue whole
        .int (if negative then -n else n)
      else
        let e : Int := match power with
          | some (true, ds, _) => -(digitsValue ds : Int)
          | some (false, ds, _) => digitsValue ds
          | none => 0
        .float (.ofDecimal negative (digitsValue (whole ++ places)) (e - places.length))
    .ok (value, cursor.advance size)

/-- The word at the cursor. -/
def startsWith (cursor : Cursor) (word : String) : Bool := word.toList.isPrefixOf cursor.rest

/-- The values that are written as words. -/
def words : List (String × Value) :=
  [("null", .null), ("true", .bool true), ("false", .bool false), ("NaN", .float .nan),
    ("Infinity", .float (.infinity false)), ("-Infinity", .float (.infinity true))]

/-- A word or a number. -/
def readScalar (cursor : Cursor) : Read Value :=
  match words.find? fun (word, _) => startsWith cursor word with
  | some (word, value) => .ok (value, cursor.advance word.length)
  | none => readNumber cursor

/-- How deep lists and objects may stand in one another. -/
def depthLimit : Nat := 940

mutual

/-- One value at the cursor, inside so many lists and objects. Each call spends a unit of fuel. -/
def readValue : Nat → Nat → Cursor → Read Value
  | 0, _, cursor => failAt .value cursor.position
  | fuel + 1, depth, cursor =>
    if depthLimit < depth then failAt .tooDeep cursor.position
    else
      match cursor.rest with
      | '"' :: rest =>
        match readText cursor.position (cursor.position + 1) [] rest with
        | .error e => .error e
        | .ok (s, next) => .ok (.text s, next)
      | '[' :: rest =>
        let inside := (Cursor.mk (cursor.position + 1) rest).skip
        match inside.rest with
        | ']' :: after => .ok (.list [], ⟨inside.position + 1, after⟩)
        | _ => readItems fuel (depth + 1) [] inside
      | '{' :: rest =>
        let inside := (Cursor.mk (cursor.position + 1) rest).skip
        match inside.rest with
        | '}' :: after => .ok (.object [], ⟨inside.position + 1, after⟩)
        | _ => readFields fuel (depth + 1) [] inside
      | _ => readScalar cursor

/-- The items of a list from the cursor to the closing bracket. -/
def readItems : Nat → Nat → List Value → Cursor → Read Value
  | 0, _, _, cursor => failAt .value cursor.position
  | fuel + 1, depth, items, cursor =>
    match readValue fuel depth cursor with
    | .error e => .error e
    | .ok (item, next) =>
      let next := next.skip
      match next.rest with
      | ']' :: after => .ok (.list (item :: items).reverse, ⟨next.position + 1, after⟩)
      | ',' :: after =>
        readItems fuel depth (item :: items) (Cursor.mk (next.position + 1) after).skip
      | _ => failAt .comma next.position

/-- The fields of an object from the cursor to the closing brace. -/
def readFields : Nat → Nat → List (String × Value) → Cursor → Read Value
  | 0, _, _, cursor => failAt .value cursor.position
  | fuel + 1, depth, fields, cursor =>
    match cursor.rest with
    | '"' :: rest =>
      match readText cursor.position (cursor.position + 1) [] rest with
      | .error e => .error e
      | .ok (name, next) =>
        let next := next.skip
        match next.rest with
        | ':' :: after =>
          match readValue fuel depth (Cursor.mk (next.position + 1) after).skip with
          | .error e => .error e
          | .ok (value, next) =>
            let next := next.skip
            match next.rest with
            | '}' :: after =>
              .ok (.object (Dict.ofEntries ((name, value) :: fields).reverse),
                ⟨next.position + 1, after⟩)
            | ',' :: after =>
              readFields fuel depth ((name, value) :: fields)
                (Cursor.mk (next.position + 1) after).skip
            | _ => failAt .comma next.position
        | _ => failAt .colon next.position
    | _ => failAt .propertyName cursor.position

end

/-- The value of a whole document. -/
def read (text : String) : Except SyntaxError Value :=
  let cs := text.toList
  if cs.head? = some (Char.ofNat 0xFEFF) then .error ⟨.byteOrderMark, 0⟩
  else
    match readValue (2 * cs.length + 2) 0 (Cursor.mk 0 cs).skip with
    | .error e => .error e
    | .ok (value, next) =>
      let next := next.skip
      if next.rest.isEmpty then .ok value else .error ⟨.extraData, next.position⟩

end Workflow.Json
