import Workflow.CommandLine.Authoring
import Workflow.CommandLine.Command
import Workflow.CommandLine.Running

/-!
# The program

The program turns its arguments into a command and carries the command out. What it learns from the
outside is its environment, the files and the lines that are typed; what it leaves is a report.
-/

namespace Workflow.CommandLine

/-- The version of the program. -/
def programVersion : String := "0.3.0"

/-- What the program learns from the outside. -/
structure Host where
  environment : List (String × String) := []
  places : String → FileState := fun _ => .nothing
  /-- The lines that are typed. -/
  typed : List String := []

namespace Host

/-- The lines of what is typed, after the characters of a line that is not finished. A line ends
with a line feed, a carriage return or both, and the last one may lack its end. -/
def linesFrom (line : List Char) : List Char → List String
  | [] => if line.isEmpty then [] else [String.ofList line.reverse]
  | '\r' :: '\n' :: rest => String.ofList line.reverse :: linesFrom [] rest
  | c :: rest =>
    if c = '\n' || c = '\r' then String.ofList line.reverse :: linesFrom [] rest
    else linesFrom (c :: line) rest

/-- The lines of what is typed. -/
def linesOf (typed : String) : List String := linesFrom [] typed.toList

/-- The settings that the environment gives. -/
def settings (host : Host) : Except Fault Settings :=
  Settings.ofSources host.environment []

end Host

/-- A secret as it is shown: the first letters of a long one and nothing of a short one. -/
def masked (secret : String) : String :=
  if secret = "" then "[dim](unset)[/dim]"
  else if secret.length ≤ 8 then "***"
  else String.ofList (secret.toList.take 4) ++ "…***"

/-- A setting as a row. -/
def settingRow (name : String) (value : Value) : List String :=
  let shown := if name = "channel_api_key" then masked value.display else value.display
  [name, shown, Settings.environmentName name]

/-- Show the settings. -/
def printSettings (settings : Settings) : Printing Nat := do
  Printing.table
    { title := "[bold]Routines Configuration[/bold]"
      columns :=
        [⟨"Key", none, true⟩, ⟨"Value", none, false⟩, ⟨"Env Var", none, false⟩]
      rows := settings.fields.map fun (name, value) => settingRow name value }
  pure 0

/-- How the program or one of its commands is used. -/
def usage : Option String → List String
  | none =>
    ["Usage: routines [OPTIONS] COMMAND [ARGS]...",
      "Commands: " ++ ", ".intercalate (Command.forms.map Prod.fst)]
  | some name =>
    match Dict.get? Command.forms name with
    | none => []
    | some form =>
      [" ".intercalate ("Usage: routines" :: name :: "[OPTIONS]" :: form.operands),
        "Options: " ++
          ", ".intercalate ((Command.helpOption :: form.options).map Switch.long)]

/-- Carry out a command. A file that is to be checked has to be there. -/
def perform (host : Host) : Command → Except UsageError (Printing Nat)
  | .help command => .ok do
    let _ ← Operation.each Printing.plain (usage command)
    pure 0
  | .version => .ok do
    Printing.line ("routines v" ++ programVersion)
    pure 0
  | .templates file => .ok (listTemplates host.places file)
  | .validate path lenient =>
    match host.places path with
    | .nothing => .error (.badValue ("File '" ++ path ++ "' does not exist."))
    | .folder => .error (.badValue ("File '" ++ path ++ "' is a directory."))
    | .file content => .ok (validate (Path.ofText path) content lenient)
  | .dispatch template trigger payload configuration follow => .ok do
    let settings ← Operation.ofExcept host.settings
    dispatch settings template trigger payload configuration follow
  | .simulate template bindings replies => .ok do
    let settings ← Operation.ofExcept host.settings
    simulate settings template bindings replies host.typed
  | .config => .ok do printSettings (← Operation.ofExcept host.settings)

/-- Run the program on arguments. -/
def run (host : Host) (arguments : List String) : Report :=
  match Command.ofArguments arguments >>= perform host with
  | .error e => .ofUsageError e
  | .ok work => .ofPrinting work

end Workflow.CommandLine
