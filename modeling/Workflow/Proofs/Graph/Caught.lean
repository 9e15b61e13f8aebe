import Workflow.Proofs.Graph.WellFormed

/-!
# Which steps are named with a cycle

A definition in which a routine could go around without waiting is refused, and the report names the
steps that are left over when all others have been taken away. Every step on a cycle is among them.
So is every step that a cycle leads to, because there is always a step left that leads to it, and a
step that waits for a person may be one of these although it lies on no such cycle. The report names
the cycles alone exactly where no flowing edge leads away from them.
-/

namespace Workflow

namespace Graph

variable {R : String → String → Prop} {rules : Rules} {d : Definition} {names : List String}

/-- Where cycles lead to nothing but cycles, what a cycle leads to lies on one. -/
theorem TrailsCycle.cyclic {id : String} (h : TrailsCycle R id)
    (hclosed : ∀ source target, Relation.TransGen R source source → R source target →
      Relation.TransGen R target target) : Relation.TransGen R id id := by
  obtain ⟨around, hcycle, hto⟩ := h
  induction hto with
  | refl => exact hcycle
  | tail _ hlast ih => exact hclosed _ _ ih hlast

/-- The report of a cycle names the steps left over, if there are any. -/
theorem cycle_mem_violations_iff (hdistinct : d.ids.Nodup)
    (hends : ∀ edge ∈ d.edges, edge.source ∈ d.ids ∧ edge.target ∈ d.ids) :
    .cycle names ∈ violations rules d ↔ names = stuckSteps d.steps d.edges ∧ names ≠ [] := by
  have hrepeated : repeatedIds [] d.ids = [] :=
    repeatedIds_eq_nil_iff.mpr ⟨hdistinct, fun _ _ => List.not_mem_nil⟩
  -- None of the other checks reports a cycle.
  have hsize : .cycle names ∉ tooLarge rules d := by
    unfold tooLarge
    split <;> simp
  have htrigger : .cycle names ∉ triggerCount d := by
    unfold triggerCount
    split <;> simp
  have hdangling : ∀ edge, .cycle names ∉ danglingEnds d.ids edge := by simp [danglingEnds]
  have hexit : ∀ id, .cycle names ∉ triggerExit d.edges id := by simp [triggerExit]
  have hdefault : ∀ id, .cycle names ∉ ambiguousDefault d.edges id := by simp [ambiguousDefault]
  have hstrict : .cycle names ∉ (if rules.strict then
      (d.edges.map Edge.source).eraseDups.flatMap (ambiguousDefault d.edges) else []) := by
    split <;> simp [hdefault]
  rw [violations, filter_connects_eq hends, hrepeated]
  simp only [List.mem_append, hsize, htrigger, hstrict, List.mem_flatMap, hdangling, hexit,
    List.mem_map, reduceCtorEq, and_false, exists_false, List.map_nil, List.not_mem_nil, false_or,
    List.isEmpty_nil, if_true, List.isEmpty_iff]
  by_cases hstuck : stuckSteps d.steps d.edges = []
  · rw [if_pos hstuck, hstuck]
    simp
  · rw [if_neg hstuck, List.mem_singleton, Violation.cycle.injEq]
    exact ⟨fun h => ⟨h, h ▸ hstuck⟩, And.left⟩

end Graph

namespace Definition

open Relation (TransGen)
open Workflow.Graph (stuckSteps TrailsCycle violations)

/-- What lies on a cycle is a step that waits for nobody. -/
theorem exists_step_of_cycle {d : Definition} {id : String} (hcycle : TransGen d.Flows id id) :
    ∃ step ∈ d.steps, step.id = id ∧ step.interactive = false := by
  obtain ⟨_, hflows, _⟩ := TransGen.head'_iff.mp hcycle
  exact hflows.1

theorem not_cyclic_of_interactive {d : Definition} (hdistinct : d.ids.Nodup) {step : Step}
    (hstep : step ∈ d.steps) (waits : step.interactive = true) :
    ¬ TransGen d.Flows step.id step.id := by
  intro hcycle
  obtain ⟨other, hother, hid, hflows⟩ := exists_step_of_cycle hcycle
  rw [eq_of_id_eq hdistinct hother hstep hid, waits] at hflows
  exact Bool.noConfusion hflows

open Classical in
/-- The steps that are left over are, in the order of their declaration, exactly the steps that a
cycle without waiting leads to. All steps on such a cycle are among them. They are the only ones
exactly if no edge that is followed without waiting leads away from the cycles; a step that waits is
never one of them, and it is left over as soon as a cycle leads to it. The report of a cycle names
what is left over. -/
theorem stuckSteps_eq_filter_trailsCycle (d : Definition) (hdistinct : d.ids.Nodup)
    (hends : ∀ edge ∈ d.edges, edge.source ∈ d.ids ∧ edge.target ∈ d.ids) :
    stuckSteps d.steps d.edges = d.ids.filter (fun id => decide (TrailsCycle d.Flows id)) ∧
    (∀ id, TransGen d.Flows id id → id ∈ stuckSteps d.steps d.edges) ∧
    ((∀ id ∈ stuckSteps d.steps d.edges, TransGen d.Flows id id) ↔
      ∀ source target, TransGen d.Flows source source → d.Flows source target →
        TransGen d.Flows target target) ∧
    (∀ step ∈ d.steps, step.interactive = true → ¬ TransGen d.Flows step.id step.id ∧
      (step.id ∈ stuckSteps d.steps d.edges ↔ TrailsCycle d.Flows step.id)) ∧
    ∀ rules names, .cycle names ∈ violations rules d ↔
      names = stuckSteps d.steps d.edges ∧ names ≠ [] := by
  have hstuck : ∀ {id}, id ∈ stuckSteps d.steps d.edges ↔ id ∈ d.ids ∧ TrailsCycle d.Flows id :=
    mem_stuckSteps_iff hdistinct hends
  have hcyclic : ∀ id, TransGen d.Flows id id → id ∈ stuckSteps d.steps d.edges := by
    intro id hcycle
    obtain ⟨step, hstep, rfl, -⟩ := exists_step_of_cycle hcycle
    exact hstuck.mpr ⟨List.mem_map_of_mem hstep, step.id, hcycle, .refl⟩
  refine ⟨?order, hcyclic, ⟨?away, ?only⟩, ?waiting, fun rules names => ?report⟩
  case order =>
    rw [Graph.stuckSteps_eq_filter hdistinct hends]
    refine List.filter_congr fun id hid => decide_eq_decide.mpr ?_
    exact hstuck.trans (and_iff_right hid)
  case away =>
    intro hall source target hcycle hflows
    obtain ⟨edge, hedge, -, rfl⟩ := hflows.2
    exact hall edge.target (hstuck.mpr ⟨(hends edge hedge).2, source, hcycle, .single hflows⟩)
  case only => exact fun hclosed id hid => (hstuck.mp hid).2.cyclic hclosed
  case waiting =>
    intro step hstep waits
    exact ⟨not_cyclic_of_interactive hdistinct hstep waits,
      hstuck.trans (and_iff_right (List.mem_map_of_mem hstep))⟩
  case report => exact Graph.cycle_mem_violations_iff hdistinct hends

/-- A menu that a cycle of two tags leads to trails the cycle and is named with it. -/
theorem stuckSteps_eq_filter_trailsCycle_at_menu :
    let d : Definition :=
      { steps := [{ id := "menu", type := "buttons" }, { id := "a", type := "tag" },
          { id := "b", type := "tag" }, { id := "end", type := "tag" }]
        edges := [{ source := "a", target := "b" }, { source := "b", target := "a" },
          { source := "b", target := "menu", handle := some "ask" },
          { source := "menu", target := "end" }] }
    d.ids.Nodup ∧ (∀ edge ∈ d.edges, edge.source ∈ d.ids ∧ edge.target ∈ d.ids) ∧
      stuckSteps d.steps d.edges = ["menu", "a", "b"] ∧ TrailsCycle d.Flows "menu" ∧
      ¬ TransGen d.Flows "menu" "menu" := by
  intro d
  have hdistinct : d.ids.Nodup := by decide
  have hends : ∀ edge ∈ d.edges, edge.source ∈ d.ids ∧ edge.target ∈ d.ids := by decide
  have hnamed : stuckSteps d.steps d.edges = ["menu", "a", "b"] := by decide +kernel
  obtain ⟨-, -, -, hwaiting, -⟩ := stuckSteps_eq_filter_trailsCycle d hdistinct hends
  obtain ⟨hacyclic, hiff⟩ := hwaiting { id := "menu", type := "buttons" } (by decide) (by decide)
  exact ⟨hdistinct, hends, hnamed, hiff.mp (hnamed ▸ List.mem_cons_self), hacyclic⟩

/-- The buttons behind a cycle of two tags are named in its report, though they wait for a person and
lie on no cycle. -/
theorem cycle_report_names_buttons :
    let buttons : Step := { id := "m", type := "buttons" }
    let d : Definition :=
      { steps := [{ id := "t", type := "trigger" }, { id := "a", type := "tag" },
          { id := "b", type := "tag" }, buttons]
        edges := [{ source := "t", target := "a" }, { source := "a", target := "b" },
          { source := "b", target := "a" }, { source := "b", target := "m", handle := some "x" }] }
    (d.ids.Nodup ∧ ∀ edge ∈ d.edges, edge.source ∈ d.ids ∧ edge.target ∈ d.ids) ∧
      stuckSteps d.steps d.edges = ["a", "b", "m"] ∧
      violations {} d = [.cycle ["a", "b", "m"]] ∧
      buttons.interactive = true ∧ ¬ TransGen d.Flows "m" "m" := by
  intro buttons d
  have hdistinct : d.ids.Nodup := by decide
  have hbuttons : buttons ∈ d.steps := by decide
  exact ⟨⟨hdistinct, by decide⟩, by decide +kernel, by decide +kernel, by decide,
    not_cyclic_of_interactive hdistinct hbuttons (by decide)⟩

end Definition

end Workflow
