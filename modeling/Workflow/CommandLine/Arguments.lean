import Workflow.Fault
import Workflow.Json.Received

/-!
# Arguments

The arguments of a command are options and operands. An option has a long spelling after two
hyphens and may have a short one of a single letter after one hyphen. A long option may have its
value behind an equals sign, short ones may stand together behind one hyphen, and the last of them
may have its value right behind it. Otherwise the next argument is the value, whatever it looks
like. After two bare hyphens everything is an operand.

Two kinds of options carry more than a text: a pair of a name and a value, and a document that
holds an object.
-/

namespace Workflow.CommandLine

/-- Why arguments are refused. -/
inductive UsageError where
  | unknownOption (spelling : String)
  | missingValue (spelling : String)
  | unexpectedValue (spelling : String)
  | missingOperand (name : String)
  | extraOperand (text : String)
  | missingCommand
  | unknownCommand (name : String)
  /-- A value that an option or an operand does not admit. -/
  | badValue (reason : String)
  /-- Reading a value ended with a fault of its own. -/
  | broken (cause : Fault)
  deriving DecidableEq, Repr

namespace UsageError

/-- The text of a usage error. -/
def message : UsageError → String
  | .unknownOption spelling => "No such option: " ++ spelling
  | .missingValue spelling => "Option '" ++ spelling ++ "' requires an argument."
  | .unexpectedValue spelling => "Option '" ++ spelling ++ "' does not take a value."
  | .missingOperand name => "Missing argument '" ++ name ++ "'."
  | .extraOperand text => "Got unexpected extra argument (" ++ text ++ ")"
  | .missingCommand => "Missing command."
  | .unknownCommand name => "No such command '" ++ name ++ "'."
  | .badValue reason => reason
  | .broken cause => cause.message

end UsageError

/-- An option that a command knows. -/
structure Switch where
  name : String
  letter : Option Char := none
  takesValue : Bool := false
  deriving DecidableEq, Repr

namespace Switch

/-- The long spelling of an option. -/
def long (option : Switch) : String := "--" ++ option.name

end Switch

/-- What a command takes: its options and the names of its operands. -/
structure Form where
  options : List Switch := []
  operands : List String := []
  deriving DecidableEq, Repr

/-- What was given: options with their values, empty for those that take none, and operands. -/
structure Given where
  options : List (String × String) := []
  operands : List String := []
  deriving DecidableEq, Repr

namespace Given

/-- The option was given. -/
def has (given : Given) (name : String) : Bool := given.options.any fun option => option.1 = name

/-- All values of an option. -/
def values (given : Given) (name : String) : List String :=
  (given.options.filter fun option => option.1 = name).map Prod.snd

/-- The value of an option. The last one counts. -/
def value? (given : Given) (name : String) : Option String := (given.values name).getLast?

end Given

namespace Form

/-- What one argument gives: options with their values, and an option that still needs one. -/
abbrev Step := List (String × String) × Option Switch

/-- The argument is an option: it starts with a hyphen and is more than that. -/
def isOption (argument : String) : Bool :=
  match argument.toList with
  | '-' :: _ :: _ => true
  | _ => false

/-- Short options behind one hyphen. -/
def readLetters (form : Form) : List Char → Except UsageError Step
  | [] => .ok ([], none)
  | c :: rest =>
    match form.options.find? fun option => option.letter = some c with
    | none => .error (.unknownOption (String.ofList ['-', c]))
    | some option =>
      if !option.takesValue then do
        let (options, open?) ← readLetters form rest
        .ok ((option.name, "") :: options, open?)
      else if rest.isEmpty then .ok ([], some option)
      else .ok ([(option.name, String.ofList rest)], none)

/-- The part before the first equals sign, and what is behind it if there is one. -/
def splitValue (argument : List Char) : List Char × Option (List Char) :=
  match argument.dropWhile (· != '=') with
  | [] => (argument, none)
  | _ :: value => (argument.takeWhile (· != '='), some value)

/-- One option. -/
def readOption (form : Form) (argument : String) : Except UsageError Step :=
  let (spelling, value?) := splitValue argument.toList
  match form.options.find? fun option => option.long.toList = spelling, value? with
  | some option, some value =>
    if option.takesValue then .ok ([(option.name, String.ofList value)], none)
    else .error (.unexpectedValue option.long)
  | some option, none =>
    if option.takesValue then .ok ([], some option) else .ok ([(option.name, "")], none)
  | none, _ =>
    match argument.toList with
    | '-' :: '-' :: _ => .error (.unknownOption argument)
    | _ :: letters => form.readLetters letters
    | [] => .ok ([], none)

/-- Read arguments after those given so far. Where options may not come after operands, everything
from the first operand on is an operand. -/
def readFrom (form : Form) (mixed : Bool) (given : Given) : List String → Except UsageError Given
  | [] => .ok given
  | argument :: rest =>
    if argument = "--" then .ok { given with operands := given.operands ++ rest }
    else if !isOption argument then
      if mixed then form.readFrom mixed { given with operands := given.operands ++ [argument] } rest
      else .ok { given with operands := given.operands ++ argument :: rest }
    else
      match form.readOption argument with
      | .error e => .error e
      | .ok (options, none) =>
        form.readFrom mixed { given with options := given.options ++ options } rest
      | .ok (options, some option) =>
        match rest with
        | [] => .error (.missingValue option.long)
        | value :: rest =>
          form.readFrom mixed
            { given with options := given.options ++ options ++ [(option.name, value)] } rest

/-- The operands are as many as the form has names. -/
def checkOperands : List String → List String → Except UsageError Unit
  | [], [] => .ok ()
  | [], text :: _ => .error (.extraOperand text)
  | name :: _, [] => .error (.missingOperand name)
  | _ :: names, _ :: texts => checkOperands names texts

end Form

/-! ## Values of options -/

/-- A pair of a name, without the blanks around it, and a value. -/
def readPair (text : String) : Except UsageError (String × Value) :=
  match Form.splitValue text.toList with
  | (name, some value) =>
    .ok (String.ofList (Text.trimChars name), .text (String.ofList value))
  | (_, none) => .error (.badValue ("Expected key=value, got '" ++ text ++ "'"))

/-- The fields that pairs give. The last pair of a name counts. -/
def readPairs (texts : List String) : Except UsageError Fields := do
  let pairs ← texts.mapM readPair
  return pairs.foldl (fun fields (name, value) => Dict.set fields name value) []

/-- The fields of the object in a document. No document has none. -/
def readObject (spelling : String) (text : Option String) : Except UsageError Fields :=
  match text.getD "" with
  | "" => .ok []
  | text =>
    match Json.read text with
    | .error e =>
      match e.limit? with
      | some cause => .error (.broken cause)
      | none => .error (.badValue (spelling ++ " is not valid JSON"))
    | .ok (.object fields) => .ok fields
    | .ok _ => .error (.badValue (spelling ++ " must be a JSON object"))

end Workflow.CommandLine
