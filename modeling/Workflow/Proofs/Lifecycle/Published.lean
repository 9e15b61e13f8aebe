import Workflow.Engine.Catalog
import Workflow.Proofs.Lifecycle.Accepted
import Workflow.Proofs.Placeholder.Filled

/-!
# From templates to routines

A template is checked when it is published, and what is made of it is checked once more with the
texts of its configurations filled. Filling changes no verdict, since the checks look at steps only
for their ids and types. But the two checks keep different rules: the number of steps is limited for
routines and not for templates. So a template that was published gives routines exactly if it has no
more steps than a routine may have.
-/

namespace Workflow

namespace Graph

variable {f : Step → Step}

section Map

variable (hid : ∀ step, (f step).id = step.id) (htype : ∀ step, (f step).type = step.type)

include htype in
theorem triggers_map (d : Definition) :
    Definition.triggers { d with steps := d.steps.map f } = d.triggers.map f := by
  have htrigger : Step.isTrigger ∘ f = Step.isTrigger := by
    funext step
    rw [Function.comp, Step.isTrigger, Step.kind, htype]
    rfl
  rw [Definition.triggers, List.filter_map, htrigger, Definition.triggers]

include hid in
theorem map_id_map (steps : List Step) : (steps.map f).map Step.id = steps.map Step.id := by
  rw [List.map_map]
  exact List.map_congr_left fun step _ => hid step

include hid htype in
theorem triggerCount_map (d : Definition) :
    triggerCount { d with steps := d.steps.map f } = triggerCount d := by
  unfold triggerCount
  rw [triggers_map htype]
  match d.triggers with
  | [] | [_] => rfl
  | first :: second :: rest =>
      exact congrArg (fun ids => [Violation.manyTriggers ids])
        (map_id_map hid (first :: second :: rest))

include hid htype in
theorem triggerIds_map (d : Definition) :
    triggerIds { d with steps := d.steps.map f } = triggerIds d := by
  rw [triggerIds, triggers_map htype, map_id_map hid, triggerIds]

include hid htype in
theorem stuckSteps_map (steps : List Step) (edges : List Edge) :
    stuckSteps (steps.map f) edges = stuckSteps steps edges := by
  have hinteractive : Step.interactive ∘ f = Step.interactive := by
    funext step
    rw [Function.comp, Step.interactive, Step.kind, htype]
    rfl
  have hwaiting : waitingIds (steps.map f) = waitingIds steps := by
    rw [waitingIds, List.filter_map, hinteractive, map_id_map hid, waitingIds]
  rw [stuckSteps, map_id_map hid, flowing, hwaiting, stuckSteps, flowing]

include hid htype in
/-- The checks look at steps only for their ids and types. -/
theorem violations_map (rules : Rules) (d : Definition) :
    violations rules { d with steps := d.steps.map f } = violations rules d := by
  have hids : Definition.ids { d with steps := d.steps.map f } = d.ids := map_id_map hid d.steps
  simp only [violations, tooLarge, enteredTriggers, unreachableSteps, List.length_map, hids,
    triggerCount_map hid htype, triggerIds_map hid htype, stuckSteps_map hid htype]

end Map

/-- Other texts in the configurations change no verdict. -/
theorem violations_mapConfigTexts (rules : Rules) (d : Definition) (f : String → String) :
    violations rules (d.mapConfigTexts f) = violations rules d :=
  violations_map (by exact fun _ => rfl) (by exact fun _ => rfl) rules d

/-- A limit adds at most the violation that there are too many steps. -/
theorem violations_eq_tooLarge_append (rules : Rules) (d : Definition) :
    violations rules d = tooLarge rules d ++ violations { rules with maxSteps := none } d := by
  simp only [violations, tooLarge, List.nil_append, List.append_assoc]

end Graph

namespace Engine

variable {X : Type} {publisher engine : Engine X} {kind : StoreKind} {records : Memory}
variable {template published : Template} {configuration : Fields} {definition : Definition}

/-- Only a template without violations is published. -/
theorem accepted_of_publish (h : ((publish template).perform publisher).1 = .ok published) :
    Graph.violations (templateRules publisher.settings) template.definition = [] := by
  cases hgraph : Graph.ofDefinition (templateRules publisher.settings) template.definition with
  | error fault =>
      rw [publish, Operation.perform_bind_ok (Operation.perform_get publisher), hgraph,
        Operation.perform_bind_error (Operation.perform_ofExcept _ publisher)] at h
      cases h
  | ok graph => exact (Graph.of_ofDefinition hgraph).1

/-- What is made of a published template has at most one violation, that there are too many
steps. -/
theorem violations_of_published
    (h : ((publish template).perform publisher).1 = .ok published) (f : String → String) :
    Graph.violations (rules publisher.settings) (template.definition.mapConfigTexts f) =
      Graph.tooLarge (rules publisher.settings) template.definition := by
  have haccepted : Graph.violations { rules publisher.settings with maxSteps := none }
      template.definition = [] := accepted_of_publish h
  rw [Graph.violations_mapConfigTexts, Graph.violations_eq_tooLarge_append, haccepted,
    List.append_nil]

/-- A routine that was made with its first version is found. -/
theorem Keeps.finds_madeFrom (h : engine.Keeps kind records) (template : Template)
    (scope : String) (configuration : Fields) (name createdBy : String) (definition : Definition) :
    let routine := engine.madeFrom template scope configuration name createdBy definition
    let snapshot : Snapshot := ⟨routine.id, 1, routine.definition, routine.createdBy⟩
    (engine.changed kind (engine.made + 2)
      ({ records with routines := records.routines ++ [routine] }.insertSnapshot snapshot)
      [Memory.recordedNotice snapshot]).store.Finds routine := by
  intro routine snapshot
  have hafter : (engine.changed kind (engine.made + 2)
      ({ records with routines := records.routines ++ [routine] }.insertSnapshot snapshot)
      [Memory.recordedNotice snapshot]).Keeps kind _ :=
    ⟨rfl, h.chronicled.create (Nat.le_succ engine.made) rfl rfl rfl⟩
  have hnew : records.routine? routine.id = none := by
    have hfresh : ∀ r ∈ records.routines, r.id ≠ routine.id :=
      h.chronicled.ne_of_fresh (Nat.le_succ engine.made) rfl
    simpa [Memory.routine?, Keyed.find?] using hfresh
  apply hafter.finds_iff.mpr
  have hadded := Memory.routine?_addRoutine hnew routine.id
  rwa [if_pos rfl] at hadded

/-- A template that was published, whatever there was in the catalogue, gives a routine wherever its
placeholders can be filled, as long as it has no more steps than a routine may have. The steps of
the routine are those of the template with other texts at the top of their configurations at most,
and the edges are the same. A template with more steps is refused for their number alone, and
nothing is stored. -/
theorem instantiates_iff_within_limit
    (accepted : ((publish template).perform publisher).1 = .ok published)
    (h : engine.Keeps kind records) (same : engine.settings = publisher.settings)
    (hydrated : template.definition.hydrate configuration = .ok definition)
    (scope name createdBy : String) :
    let size := template.definition.steps.length
    let limit := publisher.settings.maxGraphSteps
    let made := (instantiate template scope configuration name createdBy).perform engine
    definition = template.definition.mapConfigTexts (filled (hydration configuration)) ∧
    (size ≤ limit → ∃ routine, made.1 = .ok routine ∧ routine.definition = definition ∧
      routine.scope = scope ∧ routine.status = .active ∧ made.2.store.Finds routine) ∧
    (limit < size → made = (.error (.invalidGraph [.tooManySteps size limit]), engine)) := by
  intro size limit made
  have hdefinition :=
    ((hydrate_hinges template.definition configuration).ok_iff.mp hydrated).2
  have hviolations : Graph.violations (rules engine.settings) definition =
      Graph.tooLarge (rules publisher.settings) template.definition := by
    rw [same, hdefinition]
    exact violations_of_published accepted _
  refine ⟨hdefinition, fun hfits => ?_, fun hlarge => ?_⟩
  · have hnone : Graph.violations (rules engine.settings) definition = [] :=
      hviolations.trans (if_neg (Int.not_lt.mpr hfits))
    obtain ⟨graph, hcheck⟩ := exists_perform_check hnone
    let routine := engine.madeFrom template scope configuration name createdBy definition
    have hmade : made = (.ok routine, _) :=
      h.perform_instantiate hydrated hcheck scope name createdBy
    rw [hmade]
    exact ⟨routine, rfl, rfl, rfl, rfl, h.finds_madeFrom template scope configuration name createdBy
      definition⟩
  · have hone : Graph.violations (rules engine.settings) definition = [.tooManySteps size limit] :=
      hviolations.trans (if_pos hlarge)
    have hrefused : (check definition).perform engine =
        (.error (.invalidGraph [.tooManySteps size limit]), engine) := by
      rw [perform_check_of_violations (by simp [hone]), hone]
    show (instantiate template scope configuration name createdBy).perform engine = _
    rw [instantiate, Operation.perform_bind_ok (perform_hydrate hydrated)]
    exact Operation.perform_bind_error hrefused

/-- A template whose routines add a tag that is named for a company. -/
def companyTemplate : Template where
  id := "t"
  key := "k"
  name := "n"
  definition :=
    { steps := [{ id := "go", type := "trigger" },
        { id := "mark", type := "tag", config := [("tag_name", .text "for {{company}}")] }]
      edges := [{ source := "go", target := "mark" }] }

/-- The template may be published, and it gives a routine with the company's name filled in. -/
theorem instantiates_iff_within_limit_at_two :
    let engine : Engine Empty := ofSettings { maxGraphSteps := 2 } .inMemory
    ((publish companyTemplate).perform engine).1 = .ok companyTemplate ∧
      ∃ routine : Routine,
        ((instantiate companyTemplate "s" [("company", .text "Acme")] "" "").perform engine).1 =
          .ok routine ∧
        routine.definition.steps.map Step.config = [[], [("tag_name", .text "for Acme")]] := by
  intro engine
  have hpublished : ((publish companyTemplate).perform engine).1 = .ok companyTemplate := by
    decide +kernel
  have hydrated : companyTemplate.definition.hydrate [("company", .text "Acme")] =
      .ok { companyTemplate.definition with
        steps := [{ id := "go", type := "trigger" },
          { id := "mark", type := "tag", config := [("tag_name", .text "for Acme")] }] } := by
    decide +kernel
  have hkeeps : engine.Keeps .memory {} := ⟨rfl, .empty⟩
  obtain ⟨-, hmade, -⟩ := instantiates_iff_within_limit hpublished hkeeps rfl hydrated "s" "" ""
  obtain ⟨routine, hroutine, hdefinition, -⟩ := hmade (by decide)
  exact ⟨hpublished, routine, hroutine, by rw [hdefinition]; rfl⟩

/-- A template with more steps than a routine may have is published, and its placeholders can be
filled, but no routine can be made of it. -/
theorem published_beyond_limit :
    let engine : Engine Empty := ofSettings { maxGraphSteps := 1 } .inMemory
    let after := ((publish tagging).perform engine).2
    ((publish tagging).perform engine).1 = .ok tagging ∧
      tagging.definition.hydrate [] = .ok tagging.definition ∧
      ((instantiate tagging "s" [] "" "").perform after).1 =
        .error (.invalidGraph [.tooManySteps 2 1]) := by
  decide +kernel

end Engine

end Workflow
