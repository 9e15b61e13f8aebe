import Workflow.Json.Reader
import Workflow.Text.Bytes
import Workflow.Text.Quoted

/-!
# Percent signs in addresses

In an address a percent sign with two hexadecimal digits stands for a byte. A character that may not
stand in its place is written by its bytes.
-/

namespace Workflow.Http.Percent

/-- The bytes of a text in which percent signs with two digits stand for bytes. -/
def bytesOf : List Char → List UInt8
  | [] => []
  | '%' :: a :: b :: rest =>
    match Json.hexValue? a, Json.hexValue? b with
    | some high, some low => UInt8.ofNat (16 * high + low) :: bytesOf rest
    | _, _ => '%'.toUInt8 :: bytesOf (a :: b :: rest)
  | c :: rest => Text.bytes (String.singleton c) ++ bytesOf rest

/-- A text without percent signs that stand for bytes. -/
def decode (s : String) : String := Text.ofBytes (bytesOf s.toList)

/-- A byte as a percent sign with two digits. -/
def byte (b : UInt8) : List Char := '%' :: Text.hexDigits 2 b.toNat |>.map Char.toUpper

/-- A text in which only the characters that are kept stand for themselves. -/
def encode (keeps : Char → Bool) (s : String) : String :=
  String.ofList (s.toList.flatMap fun c =>
    if keeps c then [c] else (Text.bytes (String.singleton c)).flatMap byte)

/-- A character that stands for itself everywhere. -/
def isPlain (c : Char) : Bool := c.isAlphanum || "-._~".toList.contains c

/-- A visible plain character other than some. -/
def isVisibleBut (others : String) (c : Char) : Bool :=
  0x20 < c.toNat && c.toNat < 0x7F && !others.toList.contains c

end Workflow.Http.Percent
