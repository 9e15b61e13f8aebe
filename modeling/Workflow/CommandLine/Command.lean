import Workflow.CommandLine.Arguments

/-!
# Commands

A line of arguments names a command after the options of the program itself and goes on with the
arguments of the command. Options of a command may stand anywhere among its operands; those of the
program come before the command.
-/

namespace Workflow.CommandLine

/-- What is asked of the program. -/
inductive Command where
  /-- How the program, or one of its commands, is used. -/
  | help (command : Option String)
  | version
  /-- List the templates of a file, or those that come with the library. -/
  | templates (file : Option String)
  /-- Check the graphs of a file. -/
  | validate (path : String) (lenient : Bool)
  /-- Pass an event to a routine made from a template. -/
  | dispatch (template trigger : String) (payload configuration : Fields) (follow : Bool)
  /-- Hold a conversation with a routine made from a template. -/
  | simulate (template : String) (bindings : Fields) (replies : List String)
  /-- Show the settings. -/
  | config
  deriving DecidableEq, Repr

namespace Command

/-- The option that asks how something is used. -/
def helpOption : Switch := { name := "help" }

/-- The options of the program itself. -/
def programForm : Form :=
  { options := [{ name := "version", letter := some 'v' }, helpOption] }

/-- The commands by name, each with what it takes. -/
def forms : List (String × Form) :=
  [("templates", { options := [{ name := "file", letter := some 'f', takesValue := true }] }),
    ("validate", { options := [{ name := "lenient" }], operands := ["PATH"] }),
    ("dispatch",
      { options := [{ name := "payload", letter := some 'p', takesValue := true },
          { name := "var", takesValue := true }, { name := "follow" }]
        operands := ["TEMPLATE_KEY", "TRIGGER_KEY"] }),
    ("simulate",
      { options := [{ name := "var", takesValue := true },
          { name := "input", letter := some 'i', takesValue := true }]
        operands := ["TEMPLATE_KEY"] }),
    ("config", {})]

/-- The command with a name and what was given to it. -/
def ofGiven (name : String) (given : Given) : Except UsageError Command :=
  match name, given.operands with
  | "templates", _ => .ok (.templates (given.value? "file"))
  | "validate", path :: _ => .ok (.validate path (given.has "lenient"))
  | "dispatch", template :: trigger :: _ => do
    let payload ← readObject "--payload" (given.value? "payload")
    let configuration ← readPairs (given.values "var")
    .ok (.dispatch template trigger payload configuration (given.has "follow"))
  | "simulate", template :: _ => do
    .ok (.simulate template (← readPairs (given.values "var")) (given.values "input"))
  | "config", _ => .ok .config
  | _, _ => .error (.unknownCommand name)

/-- The command with a name and the arguments after it. -/
def ofName (name : String) (form : Form) (arguments : List String) : Except UsageError Command := do
  let form := { form with options := helpOption :: form.options }
  let given ← form.readFrom true {} arguments
  if given.has helpOption.name then .ok (.help (some name))
  else
    Form.checkOperands form.operands given.operands
    ofGiven name given

/-- The command that arguments ask for. The version is told whatever the command has behind it. -/
def ofArguments (arguments : List String) : Except UsageError Command := do
  let given ← programForm.readFrom false {} arguments
  if arguments.isEmpty then .error .missingCommand
  else if given.has helpOption.name then .ok (.help none)
  else
    match given.operands with
    | [] => .ok (if given.has "version" then .version else .help none)
    | name :: rest =>
      match Dict.get? forms name with
      | none => .error (.unknownCommand name)
      | some form => if given.has "version" then .ok .version else ofName name form rest

end Command

end Workflow.CommandLine
