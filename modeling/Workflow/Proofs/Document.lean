import Workflow.Catalog.Document
import Workflow.Proofs.Store.Row

/-!
# Documents are read as they were written

An entry of a document says a template over again: its key and description, its steps, and its
edges under their own names or under short ones. Reading the document gives the templates back, in
their order and without their ids, with one change: the type of a step is read in lower case and
without blanks around it. Templates whose types are written so already come back unchanged.
-/

namespace Workflow

/-- A step as it is read from a document. -/
def Step.normal (step : Step) : Step := { step with type := Text.lower (Text.trim step.type) }

theorem Step.decodeEntry_encode (step : Step) :
    Step.decodeEntry step.encode = .good step.normal := by
  simp [Step.decodeEntry, Step.encode, Step.normal, Shape.record, Shape.required,
    Shape.withDefault, Dict.get?, Shape.text, Shape.object, Shape.optional_text]

namespace Edge

/-- An edge as it is written in a document. Each of its parts goes by a name of its own or by a
short one. -/
def Written (edge : Edge) (v : Value) : Prop :=
  ∃ source ∈ ["source_step_id", "source"], ∃ target ∈ ["target_step_id", "target"],
    ∃ handle ∈ ["handle", "source_handle"],
      v = .object [(source, .text edge.source), (target, .text edge.target),
        (handle, Value.ofText? edge.handle)]

theorem written_encode (edge : Edge) : edge.Written edge.encode :=
  ⟨_, List.mem_cons_self, _, List.mem_cons_self, _, List.mem_cons_self, rfl⟩

/-- Whichever names the parts go by, each is found under the first of its names that is there. -/
theorem decodeEntry_of_written {edge : Edge} {v : Value} (h : edge.Written v) :
    Edge.decodeEntry v = .good edge := by
  obtain ⟨source, hsource, target, htarget, handle, hhandle, rfl⟩ := h
  let fields : Fields := [(source, .text edge.source), (target, .text edge.target),
    (handle, Value.ofText? edge.handle)]
  obtain ⟨hs, ht, hh⟩ :
      Shape.requiredAs ["source_step_id", "source"] Shape.text fields = .good edge.source ∧
      Shape.requiredAs ["target_step_id", "target"] Shape.text fields = .good edge.target ∧
      Shape.withDefaultAs ["handle", "source_handle"] (Shape.optional Shape.text) none fields =
        .good edge.handle := by
    simp only [List.mem_cons, List.not_mem_nil, or_false] at hsource htarget hhandle
    rcases hsource with rfl | rfl <;> rcases htarget with rfl | rfl <;>
      rcases hhandle with rfl | rfl <;>
      exact ⟨rfl, rfl, congrArg (Checked.within _) (Shape.optional_text edge.handle)⟩
  change (Edge.mk <$> Shape.requiredAs ["source_step_id", "source"] Shape.text fields
    <*> Shape.requiredAs ["target_step_id", "target"] Shape.text fields
    <*> Shape.withDefaultAs ["handle", "source_handle"] (Shape.optional Shape.text) none fields) = _
  rw [hs, ht, hh]
  rfl

end Edge

namespace Template

/-- A template as it is written in a document, without its id. -/
def Written (template : Template) (v : Value) : Prop :=
  ∃ edges, List.Forall₂ Edge.Written template.definition.edges edges ∧
    v = .object [("key", .text template.key), ("name", .text template.name),
      ("description", .text template.description), ("category", .text template.category),
      ("tags", .list (template.tags.map .text)),
      ("steps", .list (template.definition.steps.map Step.encode)), ("edges", .list edges)]

/-- A template as it is read from a document. -/
def normal (template : Template) : Template :=
  { template with
    id := ""
    definition := { template.definition with steps := template.definition.steps.map Step.normal } }

theorem decodeEntry_of_written {template : Template} {v : Value} (h : template.Written v) :
    Template.decodeEntry v = .good template.normal := by
  obtain ⟨edges, hedges, rfl⟩ := h
  have htags : Shape.list Shape.text (.list (template.tags.map .text)) = .good template.tags :=
    Shape.list_map (fun s => (rfl : Shape.text (.text s) = .good s)) template.tags
  have hsteps : Shape.list Step.decodeEntry (.list (template.definition.steps.map Step.encode)) =
      .good (template.definition.steps.map Step.normal) :=
    Shape.list_of_forall₂ (List.forall₂_map_left_iff.mpr (List.forall₂_map_right_iff.mpr
      (List.forall₂_same.mpr fun step _ => step.decodeEntry_encode)))
  have hedges' : Shape.list Edge.decodeEntry (.list edges) = .good template.definition.edges :=
    Shape.list_of_forall₂ (hedges.imp fun _ _ => Edge.decodeEntry_of_written)
  simp [Template.decodeEntry, normal, Shape.record, Shape.required, Shape.withDefault, Dict.get?,
    Shape.text, htags, hsteps, hedges']

/-- A document is read entry by entry. -/
theorem ofDocument_eq_normal {templates : List Template} {entries : List Value}
    (h : List.Forall₂ Written templates entries) :
    ofDocument (.object [("templates", .list entries)]) = .good (templates.map normal) := by
  have hentries : Shape.list decodeEntry (.list entries) = .good (templates.map normal) :=
    Shape.list_of_forall₂ (List.forall₂_map_left_iff.mpr
      (h.imp fun _ _ => decodeEntry_of_written))
  simp [ofDocument, Shape.record, Shape.withDefault, Dict.get?, hentries]

theorem normal_eq_of_plain {template : Template} (h : ∀ step ∈ template.definition.steps,
    Text.trim step.type = step.type ∧ Text.lower step.type = step.type) :
    template.normal = { template with id := "" } := by
  have hsteps : ∀ step ∈ template.definition.steps, step.normal = step := by
    intro step hstep
    obtain ⟨htrim, hlower⟩ := h step hstep
    rw [Step.normal, htrim, hlower]
  rw [normal, List.map_congr_left hsteps, List.map_id']

/-- Templates that were written as entries of a document are read back in their order, and each is
as it was but for its id, when the types of all steps are in lower case and have no blanks around
them. -/
theorem ofDocument_of_written {templates : List Template} {entries : List Value}
    (hwritten : List.Forall₂ Written templates entries)
    (hplain : ∀ template ∈ templates, ∀ step ∈ template.definition.steps,
      Text.trim step.type = step.type ∧ Text.lower step.type = step.type) :
    ofDocument (.object [("templates", .list entries)]) =
      .good (templates.map fun template => { template with id := "" }) := by
  rw [ofDocument_eq_normal hwritten]
  exact congrArg Checked.good (List.map_congr_left fun template htemplate =>
    normal_eq_of_plain (hplain template htemplate))

/-- A template whose edges are written under either kind of names, with a type of step that is not
known and a configuration that is nested, and one without steps. -/
theorem ofDocument_of_written_at_menu :
    let menu : Step :=
      { id := "menu", type := "buttons", label := "Menu"
        config := [("buttons", .list [.object [("id", .text "yes"), ("title", .text "Yes")]])] }
    let full : Template :=
      { id := "t1", key := "menu", name := "Menu", category := "", tags := ["chat"]
        definition :=
          { steps := [{ id := "t", type := "trigger", key := some "go" }, menu,
              { id := "odd", type := "sms-2" }]
            edges := [{ source := "t", target := "menu", handle := some "" },
              { source := "menu", target := "odd", handle := some "yes" },
              { source := "menu", target := "odd" }] } }
    let empty : Template := { id := "t2", key := "none", name := "", definition := {} }
    let entry (template : Template) (edges : List Value) : Value :=
      .object [("key", .text template.key), ("name", .text template.name),
        ("description", .text template.description), ("category", .text template.category),
        ("tags", .list (template.tags.map .text)),
        ("steps", .list (template.definition.steps.map Step.encode)), ("edges", .list edges)]
    let edges : List Value :=
      [.object [("source_step_id", .text "t"), ("target_step_id", .text "menu"),
          ("handle", .text "")],
        .object [("source", .text "menu"), ("target", .text "odd"), ("source_handle", .text "yes")],
        .object [("source", .text "menu"), ("target", .text "odd"), ("source_handle", .null)]]
    let entries : List Value := [entry full edges, entry empty []]
    List.Forall₂ Written [full, empty] entries ∧
      (∀ template ∈ [full, empty], ∀ step ∈ template.definition.steps,
        Text.trim step.type = step.type ∧ Text.lower step.type = step.type) ∧
      ofDocument (.object [("templates", .list entries)]) =
        .good [{ full with id := "" }, { empty with id := "" }] := by
  intro menu full empty entry edges entries
  have hfull : full.Written (entry full edges) := by
    refine ⟨edges, .cons ?_ (.cons ?_ (.cons ?_ .nil)), rfl⟩
    · exact Edge.written_encode { source := "t", target := "menu", handle := some "" }
    · exact ⟨"source", by decide, "target", by decide, "source_handle", by decide, rfl⟩
    · exact ⟨"source", by decide, "target", by decide, "source_handle", by decide, rfl⟩
  have hempty : empty.Written (entry empty []) := ⟨[], .nil, rfl⟩
  have hwritten : List.Forall₂ Written [full, empty] entries :=
    .cons hfull (.cons hempty .nil)
  have hplain : ∀ template ∈ [full, empty], ∀ step ∈ template.definition.steps,
      Text.trim step.type = step.type ∧ Text.lower step.type = step.type := by decide +kernel
  exact ⟨hwritten, hplain, ofDocument_of_written hwritten hplain⟩

end Template

end Workflow
