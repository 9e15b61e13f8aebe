import Workflow.Proofs.Accord
import Workflow.Proofs.Graph.Reach

/-!
# Where a graph is entered

An event enters a graph at the first declared step that is not the trigger, and a conversation at
the step to which the edge of the trigger leads. The first is a matter of the order of the steps and
the second of the edges, and the checks do not bind one to the other. They come to the same where
the steps are declared along the edges.
-/

namespace Workflow

namespace Graph

variable {graph : Graph} {step : Step}

/-- A declared step is an edge away from the trigger exactly if it comes after the trigger. -/
theorem leads_trigger_iff (hstep : step ∈ graph.steps) :
    Leads graph.definition.edges graph.trigger.id step.id ↔
      graph.stepAfter? graph.trigger.id = some step := by
  have htype : graph.trigger.type = "trigger" :=
    Step.isTrigger_iff.mp (List.mem_filter.mp (List.head_mem graph.triggers_ne_nil)).2
  obtain ⟨hcount, hneedless⟩ := graph.wellFormed.leaving _ graph.trigger_mem_steps htype
  constructor
  · rintro ⟨edge, hedge, hsource, htarget⟩
    have hleaves : edge ∈ graph.outgoing graph.trigger.id :=
      List.mem_filter.mpr ⟨hedge, decide_eq_true hsource⟩
    have hdefault : edge.isDefault = true := Edge.isDefault_iff.mpr (hneedless edge hedge hsource)
    have hone : (graph.outgoing graph.trigger.id).length ≤ 1 := by
      rwa [outgoing, edgesFrom, ← List.countP_eq_length_filter]
    -- there is no other edge that leaves the trigger
    obtain ⟨only, honly⟩ :=
      List.length_eq_one_iff.mp (Nat.le_antisymm hone (List.length_pos_of_mem hleaves))
    obtain rfl : edge = only := List.mem_singleton.mp (honly ▸ hleaves)
    have hfirst : graph.defaultEdge? graph.trigger.id = some edge := by
      rw [defaultEdge?, honly, List.find?_cons_of_pos hdefault]
    obtain ⟨target, hnode⟩ := exists_node? (graph.wellFormed.ends edge hedge).2
    obtain ⟨hmem, hid⟩ := mem_steps_of_node? hnode
    obtain rfl := Definition.eq_of_id_eq graph.wellFormed.distinct hmem hstep (hid.trans htarget)
    rw [stepAfter?, hfirst, Option.bind_some, hnode]
  · intro hafter
    obtain ⟨edge, hedge, hnode⟩ := Option.bind_eq_some_iff.mp hafter
    obtain ⟨hmem, hsource⟩ := mem_edges_of_defaultEdge? hedge
    exact ⟨edge, hmem, hsource, (mem_steps_of_node? hnode).2.symm⟩

/-- No edge leads to the trigger. -/
theorem not_leads_trigger (graph : Graph) (id : String) :
    ¬ Leads graph.definition.edges id graph.trigger.id := by
  rintro ⟨edge, hedge, -, htarget⟩
  have htype : graph.trigger.type = "trigger" :=
    Step.isTrigger_iff.mp (List.mem_filter.mp (List.head_mem graph.triggers_ne_nil)).2
  exact graph.wellFormed.start _ graph.trigger_mem_steps htype edge hedge htarget

theorem firstActionable?_eq_none_iff :
    graph.firstActionable? = none ↔ ∀ step ∈ graph.steps, step = graph.trigger := by
  have htrigger (step : Step) (hstep : step ∈ graph.steps) :
      step.id = graph.trigger.id ↔ step = graph.trigger :=
    ⟨Definition.eq_of_id_eq graph.wellFormed.distinct hstep graph.trigger_mem_steps,
      fun h => congrArg Step.id h⟩
  simp only [firstActionable?, List.find?_eq_none, decide_eq_true_eq, not_not]
  exact forall₂_congr htrigger

theorem mem_steps_of_firstActionable? (h : graph.firstActionable? = some step) :
    step ∈ graph.steps := List.mem_of_find?_eq_some h

/-- Where no step comes first there is none after the trigger. -/
theorem stepAfter?_trigger_of_firstActionable? (h : graph.firstActionable? = none) :
    graph.stepAfter? graph.trigger.id = none := by
  by_contra hafter
  obtain ⟨next, hnext⟩ := Option.ne_none_iff_exists'.mp hafter
  have hmem := mem_steps_of_stepAfter? hnext
  obtain rfl := firstActionable?_eq_none_iff.mp h next hmem
  exact not_leads_trigger graph _ ((leads_trigger_iff hmem).mpr hnext)

/-- The first step is the one after the trigger exactly if the trigger leads to it. -/
theorem firstActionable?_eq_stepAfter?_iff :
    graph.firstActionable? = graph.stepAfter? graph.trigger.id ↔
      ∀ first, graph.firstActionable? = some first →
        Leads graph.definition.edges graph.trigger.id first.id := by
  constructor
  · intro hsame first hfirst
    exact (leads_trigger_iff (mem_steps_of_firstActionable? hfirst)).mpr (hsame ▸ hfirst)
  · intro hleads
    cases hfirst : graph.firstActionable? with
    | none => exact (stepAfter?_trigger_of_firstActionable? hfirst).symm
    | some first =>
        exact ((leads_trigger_iff (mem_steps_of_firstActionable? hfirst)).mp
          (hleads first hfirst)).symm

/-- Every step but the trigger is entered from the trigger or from a step declared before it. -/
def DeclaredAlong (graph : Graph) : Prop :=
  ∀ before step after, graph.steps = before ++ step :: after → step ≠ graph.trigger →
    ∃ source ∈ graph.trigger :: before, Leads graph.definition.edges source.id step.id

/-- What is declared before the first step is the trigger at most. -/
theorem DeclaredAlong.firstActionable?_eq (h : graph.DeclaredAlong) :
    graph.firstActionable? = graph.stepAfter? graph.trigger.id := by
  refine firstActionable?_eq_stepAfter?_iff.mpr fun first hfirst => ?_
  obtain ⟨hother, before, after, hsteps, hbefore⟩ := List.find?_eq_some_iff_append.mp hfirst
  obtain ⟨source, hsource, hleads⟩ := h before first after hsteps fun heq => by
    rw [heq] at hother
    simp at hother
  have hid : source.id = graph.trigger.id := by
    rcases List.mem_cons.mp hsource with rfl | hsource
    · rfl
    · simpa using hbefore source hsource
  exact hid ▸ hleads

/-- A trigger that leads to every step leads to the first one, if there is one. -/
theorem firstActionable?_of_reaches (hall : ∀ step ∈ graph.steps, graph.Reaches graph.trigger step)
    (hlast : graph.stepAfter? graph.trigger.id = none) : graph.firstActionable? = none := by
  refine firstActionable?_eq_none_iff.mpr fun step hstep => ?_
  rcases (hall step hstep).cases_head with hid | ⟨next, hleads, -⟩
  · exact (Definition.eq_of_id_eq graph.wellFormed.distinct graph.trigger_mem_steps hstep hid).symm
  · have hnext : next ∈ graph.definition.ids := by
      obtain ⟨edge, hedge, -, rfl⟩ := hleads
      exact (graph.wellFormed.ends edge hedge).2
    obtain ⟨target, htarget, rfl⟩ := List.mem_map.mp hnext
    exact nomatch hlast.symm.trans ((leads_trigger_iff htarget).mp hleads)

end Graph

/-- An event that fires the trigger of an active routine enters its graph at the first declared step
that is not the trigger, unless the keyword of the trigger has no words. A conversation that starts
without a fault passes the trigger and then the step to which its edge leads. These are the same
exactly if the trigger leads to the first step when there is one, as it does where the steps are
declared along the edges. Without a first step there is none after the trigger either, and the other
way around where the trigger leads to all steps. -/
theorem Graph.entered_alike_iff (graph : Graph) :
    (∀ key payload, Engine.verdictOn graph .active key payload =
      if graph.trigger.wordless (some key) then .wordless
      else if graph.trigger.fires (some key) payload then graph.firstActionable?.elim .stepless .due
      else .silent) ∧
    (∀ (c : Conversation) (observer : Observer), c.graph = graph → c.routine ≠ "" →
      c.state = .idle →
      (∀ fault, (c.meet ⟨.start, .keeping, observer⟩).response ≠ .error fault) →
      ∃ rest, (resultsOf (c.meet ⟨.start, .keeping, observer⟩).effects).map Prod.fst =
          graph.trigger :: rest ∧ rest.head? = graph.stepAfter? graph.trigger.id) ∧
    (graph.firstActionable? = graph.stepAfter? graph.trigger.id ↔
      ∀ first, graph.firstActionable? = some first →
        Leads graph.definition.edges graph.trigger.id first.id) ∧
    (graph.DeclaredAlong → graph.firstActionable? = graph.stepAfter? graph.trigger.id) ∧
    (graph.firstActionable? = none → graph.stepAfter? graph.trigger.id = none) ∧
    ((∀ step ∈ graph.steps, graph.Reaches graph.trigger step) →
      (graph.firstActionable? = none ↔ graph.stepAfter? graph.trigger.id = none)) := by
  refine ⟨fun key payload => ?_, ?_, firstActionable?_eq_stepAfter?_iff,
    DeclaredAlong.firstActionable?_eq, stepAfter?_trigger_of_firstActionable?,
    fun hall => ⟨stepAfter?_trigger_of_firstActionable?, firstActionable?_of_reaches hall⟩⟩
  · rw [Engine.verdictOn]
    cases graph.trigger.wordless (some key) with
    | true => rfl
    | false =>
        cases graph.trigger.fires (some key) payload with
        | false => rfl
        | true => cases graph.firstActionable? <;> rfl
  · rintro c observer rfl hroutine hidle hsmooth
    obtain ⟨accounts, ⟨hroute, -⟩, hresults⟩ := Conversation.walked_start hroutine hidle hsmooth
    obtain ⟨rest, hrest⟩ := hroute.exists_cons
    refine ⟨rest, ?_, ?_⟩
    · rw [hresults, List.map_map]
      exact hrest
    · rw [hrest] at hroute
      rcases hroute.of_trigger with ⟨rfl, hlast⟩ | ⟨next, hnext, hroute⟩
      · exact hlast.symm
      · obtain ⟨others, rfl⟩ := hroute.exists_cons
        exact hnext.symm

/-- Two tags that are declared against their edges, whatever the rules, and a trigger that leads to
nothing beside buttons that lead to themselves. -/
theorem Graph.entered_apart :
    let backwards : Definition :=
      { steps := [{ id := "t", type := "trigger" }, { id := "b", type := "tag" },
          { id := "a", type := "tag" }]
        edges := [{ source := "t", target := "a" }, { source := "a", target := "b" }] }
    let strict : Graph := ⟨{}, backwards, by decide +kernel⟩
    let lenient : Graph := ⟨{ strict := false }, backwards, by decide +kernel⟩
    let island : Graph :=
      ⟨{}, { steps := [{ id := "t", type := "trigger" }, { id := "b", type := "buttons" }]
             edges := [{ source := "b", target := "b" }] }, by decide +kernel⟩
    strict.firstActionable? = some { id := "b", type := "tag" } ∧
      strict.stepAfter? strict.trigger.id = some { id := "a", type := "tag" } ∧
      lenient.firstActionable? = some { id := "b", type := "tag" } ∧
      lenient.stepAfter? lenient.trigger.id = some { id := "a", type := "tag" } ∧
      island.firstActionable? = some { id := "b", type := "buttons" } ∧
      island.stepAfter? island.trigger.id = none := by
  decide +kernel

end Workflow
