import Mathlib.Data.List.Forall2
import Workflow.Store.Relational

/-!
# Rows are read as they were written

A row keeps the parts with structure of their own as documents, and reading the row checks the
documents again. A document that was written from a definition always passes the check, so reading a
row that was written from a record gives the record back, a template without a category apart.
-/

namespace Workflow

namespace Shape

variable {α : Type}

theorem items_of_forall₂ {decode : Decoder α} {as : List α} {vs : List Value}
    (h : List.Forall₂ (fun a v => decode v = .good a) as vs) (i : Nat) :
    items decode i vs = .good as := by
  induction h generalizing i with
  | nil => rfl
  | cons hfirst _ ih =>
      rw [items, hfirst, ih]
      rfl

/-- A list whose items are read as they should be is read as it should be. -/
theorem list_of_forall₂ {decode : Decoder α} {as : List α} {vs : List Value}
    (h : List.Forall₂ (fun a v => decode v = .good a) as vs) :
    list decode (.list vs) = .good as := items_of_forall₂ h 0

theorem list_map {decode : Decoder α} {encode : α → Value}
    (h : ∀ a, decode (encode a) = .good a) (as : List α) :
    list decode (.list (as.map encode)) = .good as :=
  list_of_forall₂ (List.forall₂_map_right_iff.mpr (List.forall₂_same.mpr fun a _ => h a))

theorem optional_text (s : Option String) :
    optional text (Value.ofText? s) = .good s := by
  cases s <;> rfl

end Shape

theorem Step.decode_encode (step : Step) : Step.decode step.encode = .good step := by
  simp [Step.decode, Step.encode, Shape.record, Shape.required, Shape.withDefault, Dict.get?,
    Shape.text, Shape.object, Shape.optional_text]

theorem Edge.decode_encode (edge : Edge) : Edge.decode edge.encode = .good edge := by
  simp [Edge.decode, Edge.encode, Shape.record, Shape.required, Shape.withDefault, Dict.get?,
    Shape.text, Shape.optional_text]

theorem Definition.decode_encode (d : Definition) : Definition.decode d.encode = .good d := by
  simp [Definition.decode, Definition.encode, Shape.record, Shape.withDefault, Dict.get?,
    Shape.list_map Step.decode_encode, Shape.list_map Edge.decode_encode]

/-- An empty category is read as the standard one. -/
theorem TemplateRow.read_ofTemplate (template : Template) :
    (TemplateRow.ofTemplate template).read = .ok { template with
      category :=
        if template.category = "" then Template.standardCategory else template.category } := by
  by_cases h : template.category = "" <;>
    simp [TemplateRow.read, TemplateRow.ofTemplate, Fault.check, Definition.decode_encode, h, bind,
      Except.bind]

theorem RoutineRow.read_ofRoutine (routine : Routine) (h : 1 ≤ routine.version) :
    (RoutineRow.ofRoutine routine).read = .ok routine := by
  have hversion : ¬ routine.version < 1 := by omega
  simp [RoutineRow.read, RoutineRow.ofRoutine, Fault.statusNamed, Fault.check,
    Definition.decode_encode, hversion, bind, Except.bind]

theorem VersionRow.read_ofSnapshot (snapshot : Snapshot) :
    (VersionRow.ofSnapshot snapshot).read = .ok snapshot := by
  simp [VersionRow.read, VersionRow.ofSnapshot, Fault.check, Definition.decode_encode, bind,
    Except.bind]

theorem StepResult.decode_encode (result : StepResult) :
    StepResult.decode result.encode = .good result := by
  obtain ⟨success, status, narrative, output, continues⟩ := result
  have hstatus : ResultStatus.decode (.text status.name) = .good status := by
    cases status <;> rfl
  cases output <;>
    simp [StepResult.decode, StepResult.encode, Shape.record, Shape.required, Shape.withDefault,
      Dict.get?, Shape.boolean, Shape.text, Shape.optional, Shape.object, Answer.encodeFields?,
      hstatus]

theorem EntryRow.read_ofEntry (entry : Entry) : (EntryRow.ofEntry entry).read = .ok entry := by
  simp [EntryRow.read, EntryRow.ofEntry, Fault.check, StepResult.decode_encode, bind, Except.bind]

end Workflow
