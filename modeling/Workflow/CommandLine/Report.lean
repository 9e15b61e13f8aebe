import Workflow.CommandLine.Arguments
import Workflow.Operation
import Workflow.Terminal.Table

/-!
# Reports

A command prints lines and tables and ends with an exit code: zero for success, one for a failure
and two for arguments that are refused. A fault that nothing was made of ends the command where it
is, and what was printed before it stays.
-/

namespace Workflow.CommandLine

/-- Something printed. -/
inductive Printed where
  /-- A text, which may have several lines. -/
  | text (shown : String)
  | table (shown : ShownTable)
  deriving DecidableEq, Repr

/-- What a command leaves behind. -/
structure Report where
  exitCode : Nat := 0
  printed : List Printed := []
  /-- The fault that ended the command. -/
  fault : Option Fault := none
  deriving DecidableEq, Repr

/-- Work that prints. -/
abbrev Printing (α : Type) := Operation (List Printed) α

namespace Printing

/-- Print a text as it is. -/
def plain (text : String) : Printing Unit := modify (· ++ [.text text])

/-- Print a text that is written with markup. -/
def line (written : String) : Printing Unit := do
  plain (← Operation.ofExcept (Markup.render written))

/-- Print a table that is written with markup. -/
def table (written : Table) : Printing Unit := do
  let shown ← Operation.ofExcept written.render
  modify (· ++ [.table shown])

/-- Work that prints the text of a refusal and fails with it. -/
def refused (work : Printing Nat) : Printing Nat := do
  match ← work.attempt with
  | .ok code => pure code
  | .error fault =>
    if fault.isRefusal then
      line ("[red]" ++ Markup.escape fault.message ++ "[/red]")
      pure 1
    else Operation.fail fault

end Printing

namespace Report

/-- The report of work that ends with an exit code. -/
def ofPrinting (work : Printing Nat) : Report :=
  match work.perform [] with
  | (.ok exitCode, printed) => { exitCode, printed }
  | (.error fault, printed) => { exitCode := 1, printed, fault := some fault }

/-- The report on arguments that are refused. -/
def ofUsageError : UsageError → Report
  | .broken cause => { exitCode := 1, fault := some cause }
  | e => { exitCode := 2, printed := [.text ("Usage error: " ++ e.message)] }

end Report

end Workflow.CommandLine
