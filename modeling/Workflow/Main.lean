import Workflow.CommandLine.Program

/-!
# The executable

The arguments are run on the files, the environment and the input of the process, and the report is
written out.
-/

namespace Workflow.CommandLine

/-- What stands at a path. -/
def placeAt (path : String) : IO FileState := do
  match ← (IO.FS.readFile path).toBaseIO with
  | .ok content => return .file content
  | .error (.noFileOrDirectory _ _ _) => return .nothing
  | .error _ => return .folder

/-- The settings in the environment. -/
def environmentEntries : IO (List (String × String)) := do
  let entries ← Settings.names.mapM fun name => do
    let name := Settings.environmentName name
    return (← IO.getEnv name).map fun value => (name, value)
  return entries.filterMap id

/-- Everything that is typed. -/
partial def readTyped (input : IO.FS.Stream) (before : String) : IO String := do
  let line ← input.getLine
  if line.isEmpty then return before else readTyped input (before ++ line)

/-- The host that a command asks for. Only what the command uses is read. -/
def hostFor (arguments : List String) : IO Host := do
  let environment ← environmentEntries
  match Command.ofArguments arguments with
  | .ok (.templates (some path)) =>
    let place ← placeAt (Path.ofText path).toText
    return { environment, places := fun _ => place }
  | .ok (.validate path _) =>
    let place ← placeAt path
    return { environment, places := fun _ => place }
  | .ok (.simulate _ _ _) =>
    return { environment, typed := Host.linesOf (← readTyped (← IO.getStdin) "") }
  | _ => return { environment }

/-- Write out something printed. -/
def writeOut : Printed → IO Unit
  | .text shown => IO.println shown
  | .table shown => shown.drawn.forM IO.println

end Workflow.CommandLine

open Workflow.CommandLine in
/-- Run the program. -/
def main (arguments : List String) : IO UInt32 := do
  let report := run (← hostFor arguments) arguments
  report.printed.forM writeOut
  match report.fault with
  | some fault => IO.eprintln fault.message
  | none => pure ()
  return report.exitCode.toUInt32
