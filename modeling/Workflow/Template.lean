import Workflow.Graph.Step
import Workflow.Moment

/-!
# Templates

A template is a definition with a key and a description. Routines are made from templates.
-/

namespace Workflow

/-- A definition that routines are made from. -/
structure Template where
  id : String
  key : String
  name : String
  description : String := ""
  category : String := "general"
  tags : List String := []
  definition : Definition
  deriving DecidableEq, Repr

namespace Template

/-- The category of a template that names none. -/
def standardCategory : String := "general"

/-- Read a template; `fresh` is the id of one without an id. -/
def decode (fresh : String) : Decoder Template :=
  Shape.record "Template" fun fields =>
    (fun id key name description category tags definition _ =>
        Template.mk id key name description category tags definition)
      <$> Shape.withDefault "id" Shape.text fresh fields
      <*> Shape.required "key" Shape.text fields
      <*> Shape.required "name" Shape.text fields
      <*> Shape.withDefault "description" Shape.text "" fields
      <*> Shape.withDefault "category" Shape.text standardCategory fields
      <*> Shape.withDefault "tags" (Shape.list Shape.text) [] fields
      <*> Shape.required "definition" Definition.decode fields
      <*> Shape.withDefault "created_at" Moment.decode default fields

/-- A template as a value. -/
def encode (template : Template) : Value :=
  .object [("id", .text template.id), ("key", .text template.key), ("name", .text template.name),
    ("description", .text template.description), ("category", .text template.category),
    ("tags", .list (template.tags.map .text)), ("definition", template.definition.encode)]

/-- The order of the catalogue: by category, then by key. -/
def before (a b : Template) : Bool :=
  a.category < b.category || (a.category = b.category && !(b.key < a.key))

/-- Templates in the order of the catalogue. Templates that are equal in it keep their places. -/
def sorted (templates : List Template) : List Template := templates.mergeSort before

end Template

end Workflow
