import Workflow.Catalog.Bundled
import Workflow.Engine.Basic

/-!
# The catalogue

Templates are published under a key, once. A template is checked when it is published, so its
routines do not fail later for the shape of its graph.
-/

namespace Workflow.Engine

variable {X : Type}

/-- Publish a template under a key that is not taken. -/
def publish (template : Template) : Work X Template := do
  let _ ← Operation.ofExcept
    (Graph.ofDefinition (templateRules (← get).settings) template.definition)
  match ← stored (Store.templateByKey? template.key) with
  | some _ => Operation.fail (.alreadyPublished template.key)
  | none =>
    stored (Store.insertTemplate template)
    pure template

/-- Publish a template unless its key is taken. -/
def publishNew (template : Template) : Work X (Option Template) := do
  match ← stored (Store.templateByKey? template.key) with
  | some _ => pure none
  | none => some <$> publish template

/-- Publish those of the templates that are not published yet, with identifiers of their own. -/
def seedFrom (templates : List Template) : Work X (List Template) := do
  let published ← Operation.each (fun template => do
    publishNew { template with id := ← fresh }) templates
  return published.filterMap id

/-- Publish the templates that come with the library. -/
def seed : Work X (List Template) := seedFrom Template.bundled

/-- The template with a key or, failing that, with an id. -/
def template (key : String) : Work X Template := do
  match ← stored (Store.templateByKey? key) with
  | some template => pure template
  | none =>
    match ← stored (Store.template? key) with
    | some template => pure template
    | none => Operation.fail (.noTemplate key)

/-- The catalogue. -/
def templates : Work X (List Template) := stored Store.listTemplates

end Workflow.Engine
