import Workflow.Value.Display

/-!
# Issues

A value that does not have the expected shape is reported with an issue for every part of it that
differs: the place of the part, and how it differs. A report quotes the part itself, cut in the
middle when it is long.
-/

namespace Workflow

/-- A step from a value into one of its parts. -/
inductive Place where
  | field (name : String)
  | item (index : Nat)
  /-- The part under a number that stands for a name. -/
  | number (n : Int)
  deriving DecidableEq, Repr

namespace Place

/-- A place as a value. -/
def encode : Place → Value
  | .field name => .text name
  | .item index => .int index
  | .number n => .int n

/-- A place in a report. A name with a point in it is set apart. -/
def text : Place → String
  | .field name => if name.contains '.' then "`" ++ name ++ "`" else name
  | .item index => integerText index
  | .number n => integerText n

end Place

/-- The part of a value at a place, given from the outside in. -/
def Value.at : Value → List Place → Value
  | v, [] => v
  | .object fields, .field name :: rest => (Fields.read fields name).at rest
  | .list items, .item index :: rest => (items[index]?.getD .null).at rest
  | _, _ => .null

/-- How a value differs from what was expected in its place. -/
inductive Mismatch where
  | missing
  | notText
  | textTooShort
  | notObject
  | notList
  /-- A value stands where the fields of something are read. -/
  | notRecord (subject : String)
  | notAttributes
  | notInteger
  | unreadableInteger
  | oversizeInteger
  | fractionalInteger
  | infiniteInteger
  | notBoolean
  | unreadableBoolean
  | notReal
  | unreadableReal
  | notMoment
  | unreadableMoment (reason : String)
  | momentOutOfRange (reason : String)
  | notAChoice (options : List String)
  | belowMinimum (least : Int)
  | aboveMaximum (greatest : Int)
  | brokenDocument
  deriving DecidableEq, Repr

namespace Mismatch

/-- The code of a mismatch in reports. -/
def code : Mismatch → String
  | .missing => "missing"
  | .notText => "string_type"
  | .textTooShort => "string_too_short"
  | .notObject => "dict_type"
  | .notList => "list_type"
  | .notRecord _ => "model_type"
  | .notAttributes => "model_attributes_type"
  | .notInteger => "int_type"
  | .unreadableInteger => "int_parsing"
  | .oversizeInteger => "int_parsing_size"
  | .fractionalInteger => "int_from_float"
  | .infiniteInteger => "finite_number"
  | .notBoolean => "bool_type"
  | .unreadableBoolean => "bool_parsing"
  | .notReal => "float_type"
  | .unreadableReal => "float_parsing"
  | .notMoment => "datetime_type"
  | .unreadableMoment _ => "datetime_from_date_parsing"
  | .momentOutOfRange _ => "datetime_parsing"
  | .notAChoice _ => "enum"
  | .belowMinimum _ => "greater_than_equal"
  | .aboveMaximum _ => "less_than_equal"
  | .brokenDocument => "json_invalid"

/-- Options in quotes, the last one after an "or". -/
def listed (options : List String) : String :=
  match options.map Text.quoted with
  | [] => ""
  | [option] => option
  | quoted => ", ".intercalate quoted.dropLast ++ " or " ++ quoted.getLastD ""

/-- What a report says about a mismatch. -/
def sentence : Mismatch → String
  | .missing => "Field required"
  | .notText => "Input should be a valid string"
  | .textTooShort => "String should have at least 1 character"
  | .notObject => "Input should be a valid dictionary"
  | .notList => "Input should be a valid list"
  | .notRecord subject => "Input should be a valid dictionary or instance of " ++ subject
  | .notAttributes => "Input should be a valid dictionary or object to extract fields from"
  | .notInteger => "Input should be a valid integer"
  | .unreadableInteger =>
    "Input should be a valid integer, unable to parse string as an integer"
  | .oversizeInteger => "Unable to parse input string as an integer, exceeded maximum size"
  | .fractionalInteger =>
    "Input should be a valid integer, got a number with a fractional part"
  | .infiniteInteger => "Input should be a finite number"
  | .notBoolean => "Input should be a valid boolean"
  | .unreadableBoolean => "Input should be a valid boolean, unable to interpret input"
  | .notReal => "Input should be a valid number"
  | .unreadableReal => "Input should be a valid number, unable to parse string as a number"
  | .notMoment => "Input should be a valid datetime"
  | .unreadableMoment reason => "Input should be a valid datetime or date, " ++ reason
  | .momentOutOfRange reason => "Input should be a valid datetime, " ++ reason
  | .notAChoice options => "Input should be " ++ listed options
  | .belowMinimum least => "Input should be greater than or equal to " ++ integerText least
  | .aboveMaximum greatest => "Input should be less than or equal to " ++ integerText greatest
  | .brokenDocument => "Invalid JSON"

end Mismatch

/-- A mismatch and where it is, from the outside in. -/
structure Issue where
  path : List Place
  mismatch : Mismatch
  deriving DecidableEq, Repr

/-- The characters at the front that take at most so many bytes. -/
def takeBytes : Nat → List Char → List Char
  | _, [] => []
  | n, c :: rest => if c.utf8Size ≤ n then c :: takeBytes (n - c.utf8Size) rest else []

/-- A text of more than fifty bytes, without its middle. -/
def abridged (s : String) : String :=
  if s.utf8ByteSize ≤ 50 then s
  else
    String.ofList (takeBytes 25 s.toList) ++ "..." ++
      String.ofList (takeBytes 24 s.toList.reverse).reverse

/-- A value as a report quotes it. One that has no text is named by its kind alone. -/
def Value.excerpt (v : Value) : String :=
  if v.writable then abridged v.literal else "<unprintable " ++ v.kindName ++ " object>"

namespace Issue

/-- An issue as a value. -/
def encode (issue : Issue) : Value :=
  .object [("loc", .list (issue.path.map Place.encode)), ("type", .text issue.mismatch.code)]

/-- The part of the input that an issue is about. Of a part that is missing, it is what should have
held it. -/
def part (issue : Issue) (input : Value) : Value :=
  match issue.mismatch with
  | .missing => input.at issue.path.dropLast
  | _ => input.at issue.path

/-- Where an issue is explained. -/
def explanation (issue : Issue) : String :=
  "https://errors.pydantic.dev/2.14/v/" ++ issue.mismatch.code

/-- The lines of a report on an issue. -/
def report (input : Value) (issue : Issue) : String :=
  let part := issue.part input
  let place :=
    if issue.path.isEmpty then "" else ".".intercalate (issue.path.map Place.text) ++ "\n"
  place ++ "  " ++ issue.mismatch.sentence ++ " [type=" ++ issue.mismatch.code ++
    ", input_value=" ++ part.excerpt ++ ", input_type=" ++ part.kindName ++ "]\n" ++
    "    For further information visit " ++ issue.explanation

/-- The report on the issues of an input, which was read as something. -/
def reportAll (subject : String) (input : Value) (issues : List Issue) : String :=
  integerText issues.length ++ " validation error" ++ (if issues.length = 1 then "" else "s") ++
    " for " ++ subject ++ "\n" ++ "\n".intercalate (issues.map (report input))

end Issue

end Workflow
