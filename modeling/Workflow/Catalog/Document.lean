import Workflow.Template
import Workflow.Text.Blank
import Workflow.Text.Case

/-!
# Documents of templates

Templates are written by hand in a document with a list of entries. An entry holds steps and edges
itself. Types of steps are written in any case and with blanks around them, and the ends of an edge
go by short names too.
-/

namespace Workflow

namespace Step

/-- Read a step written by hand. -/
def decodeEntry : Decoder Step :=
  let type : Decoder String := fun v => (Shape.text v).map fun s => Text.lower (Text.trim s)
  Shape.record "StepYAML" fun fields =>
    Step.mk <$> Shape.required "id" Shape.text fields
      <*> Shape.required "type" type fields
      <*> Shape.withDefault "key" (Shape.optional Shape.text) none fields
      <*> Shape.withDefault "label" Shape.text "" fields
      <*> Shape.withDefault "config" Shape.object [] fields

end Step

namespace Edge

/-- Read an edge written by hand. -/
def decodeEntry : Decoder Edge :=
  Shape.record "EdgeYAML" fun fields =>
    Edge.mk <$> Shape.requiredAs ["source_step_id", "source"] Shape.text fields
      <*> Shape.requiredAs ["target_step_id", "target"] Shape.text fields
      <*> Shape.withDefaultAs ["handle", "source_handle"] (Shape.optional Shape.text) none fields

end Edge

namespace Template

/-- Read an entry of a document. The template has no id yet. -/
def decodeEntry : Decoder Template :=
  Shape.record "TemplateYAML" fun fields =>
    (fun key name description category tags steps edges =>
        Template.mk "" key name description category tags ⟨steps, edges⟩)
      <$> Shape.required "key" Shape.text fields
      <*> Shape.required "name" Shape.text fields
      <*> Shape.withDefault "description" Shape.text "" fields
      <*> Shape.withDefault "category" Shape.text standardCategory fields
      <*> Shape.withDefault "tags" (Shape.list Shape.text) [] fields
      <*> Shape.withDefault "steps" (Shape.list Step.decodeEntry) [] fields
      <*> Shape.withDefault "edges" (Shape.list Edge.decodeEntry) [] fields

/-- The templates of a document. An absent document has none. -/
def ofDocument : Decoder (List Template) := fun document =>
  if document.truthy then
    Shape.record "TemplatesConfig" (Shape.withDefault "templates" (Shape.list decodeEntry) [])
      document
  else .good []

end Template

end Workflow
