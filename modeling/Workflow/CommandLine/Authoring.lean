import Workflow.Catalog.Bundled
import Workflow.Catalog.Document
import Workflow.CommandLine.Report
import Workflow.Graph.Check
import Workflow.Json.Received
import Workflow.Text.Case
import Workflow.Text.Search

/-!
# Commands for authors

The catalogue is listed as a table, and the graphs of a file are checked one by one. A file holds a
document; one whose name does not end like that of a JSON document may also be empty.

The path of a file is a text with slashes between its parts. Repeated slashes, parts that are a
single dot and a slash at the end change nothing, and the empty path is the current folder.
-/

namespace Workflow.CommandLine

/-! ## Paths of files -/

/-- What stands at a path. -/
inductive FileState where
  | nothing
  | folder
  | file (content : String)
  deriving DecidableEq, Repr

/-- A path in its shortest spelling. -/
structure Path where
  absolute : Bool
  parts : List String
  deriving DecidableEq, Repr

namespace Path

/-- Read a path. -/
def ofText (text : String) : Path :=
  { absolute := text.toList.head? = some '/'
    parts := (text.splitOn "/").filter fun part => part ≠ "" && part ≠ "." }

/-- A path as text. -/
def toText (path : Path) : String :=
  let inner := "/".intercalate path.parts
  if path.absolute then "/" ++ inner else if inner = "" then "." else inner

/-- The last part of a path. -/
def name (path : Path) : String := path.parts.getLastD ""

/-- A name cut before its last dot. A dot at the start or at the end is part of the name. -/
def cutName (name : String) : String × String :=
  let behind := name.toList.reverse.takeWhile (· != '.')
  let front := name.toList.take (name.length - behind.length - 1)
  if behind.isEmpty || front.isEmpty then (name, "")
  else (String.ofList front, String.ofList ('.' :: behind.reverse))

/-- The name without its ending. -/
def stem (path : Path) : String := (cutName path.name).1

/-- The ending of the name, with its dot, in small letters. -/
def ending (path : Path) : String := Text.lower (cutName path.name).2

end Path

/-! ## Documents and commands -/

/-- How the document in a file is written. -/
def formatOf (path : Path) : DocumentFormat := if path.ending = ".json" then .json else .yaml

/-- Read a document. Only one in JSON must hold something. -/
def readDocument (format : DocumentFormat) (content : String) : Except Fault Value :=
  if format = .yaml && content.toList.all Text.isBlank then .ok .null
  else (Json.read content).mapError fun e => e.limit?.getD (.unreadableDocument format)

/-- The templates of a document. -/
def templatesOf (document : Value) : Except Fault (List Template) :=
  Fault.check "TemplatesConfig" Template.ofDocument document

/-- What the catalogue says of the trigger of a template. -/
def triggerCell (template : Template) : String :=
  match template.definition.triggers.head? with
  | none => "[red]none[/red]"
  | some step =>
    match step.key with
    | none | some "" => "-"
    | some key => key

/-- A template as a row of the catalogue. -/
def templateRow (template : Template) : List String :=
  [template.key, template.name, template.category, triggerCell template,
    countText template.definition.steps.length]

/-- Print the catalogue. -/
def printTemplates (templates : List Template) : Printing Nat := do
  if templates.isEmpty then Printing.line "[yellow]No templates defined.[/yellow]"
  else
    Printing.table
      { title := "[bold]" ++ countText templates.length ++ " Templates[/bold]"
        columns :=
          [⟨"Key", none, true⟩, ⟨"Name", none, false⟩, ⟨"Category", none, false⟩,
            ⟨"Trigger", none, false⟩, ⟨"Steps", some 6, false⟩]
        rows := (Template.sorted templates).map templateRow }
  pure 0

/-- List the templates of a file, or those that come with the library. A file of templates is always
read in the same way, whatever its name. -/
def listTemplates (places : String → FileState) (file : Option String) : Printing Nat :=
  match file with
  | none => printTemplates Template.bundled
  | some text =>
    let path := Path.ofText text
    match places path.toText with
    | .nothing => do
      Printing.line
        ("[red]" ++ Markup.escape ("Config file not found: " ++ path.toText) ++ "[/red]")
      pure 1
    | .folder => Operation.fail (.folder path.toText)
    | .file content => do
      let document ← Operation.ofExcept (readDocument .yaml content)
      printTemplates (← Operation.ofExcept (templatesOf document))

/-- A document speaks of templates: it is an object with that name, a list with that item, or a text
that contains it. -/
def speaksOfTemplates : Value → Except Fault Bool
  | .object fields => .ok (Dict.has fields "templates")
  | .list items => .ok (items.contains (.text "templates"))
  | .text s => .ok (Text.contains s "templates")
  | v => .error (.misuse (.noItems v.kindName))

/-- A document of templates. One that is a single graph becomes a document with one template, named
after the file unless it has a name. -/
def wrapped (path : Path) (document : Value) : Except Fault Value := do
  if ← speaksOfTemplates document then .ok document
  else
    match document with
    | .object fields =>
      let named : Fields := [("key", .text path.stem), ("name", .text path.stem)]
      .ok (.object [("templates", .list [.object (Dict.merge named fields)])])
    | v => .error (.misuse (.notFields v.kindName))

/-- The templates in a file that is to be checked. -/
def templatesToCheck (path : Path) (content : String) : Except Fault (List Template) := do
  let format := formatOf path
  let document ← readDocument format content
  let document := if format = .json then document else document.orElse (.object [])
  templatesOf (← wrapped path document)

/-- Print what is wrong with one graph. The answer says whether nothing is. -/
def printCheck (rules : Graph.Rules) (template : Template) : Printing Bool := do
  let found := Graph.violations rules template.definition
  let name := "[bold]" ++ template.key ++ "[/bold]"
  if found.isEmpty then
    let count := countText template.definition.steps.length
    Printing.line ("[green]✓[/green] " ++ name ++ " [dim](" ++ count ++ " steps)[/dim]")
    pure true
  else
    Printing.line ("[red]✗[/red] " ++ name)
    let _ ← Operation.each (fun violation =>
      Printing.line ("    [dim]-[/dim] " ++ Markup.escape violation.message)) found
    pure false

/-- Check the graphs of a file. -/
def validate (path : Path) (content : String) (lenient : Bool) : Printing Nat := do
  let templates ← Operation.ofExcept (templatesToCheck path content)
  let rules : Graph.Rules := { strict := !lenient, maxSteps := none }
  let outcomes ← Operation.each (printCheck rules) templates
  let failed := outcomes.count false
  let total := countText templates.length
  if failed = 0 then
    Printing.line ("[green]All " ++ total ++ " graph(s) valid.[/green]")
    pure 0
  else
    Printing.line ("[red]" ++ countText failed ++ " of " ++ total ++ " graph(s) invalid.[/red]")
    pure 1

end Workflow.CommandLine
