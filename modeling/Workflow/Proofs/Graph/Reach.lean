import Workflow.Proofs.Graph.Route

/-!
# What the trigger leads to

The checks ask of every step but the trigger that some edge leads to it. Followed back from a step
the trigger does not lead to, such edges never come to an end, so they go around somewhere; and
because a graph never goes around without waiting, they go around through a step that waits. Cycles
of this kind are all that can be cut off from the trigger, together with what they lead to.
-/

namespace Workflow

namespace Graph

variable {graph : Graph} {step : Step}

/-- A relation that comes back to where it began does so from every place it passes. -/
theorem transGen_around {α : Type} {R : α → α → Prop} {a : α}
    (h : Relation.TransGen R a a) :
    Relation.TransGen (fun b c => R b c ∧ Relation.TransGen R b b) a a := by
  have hall : ∀ c, Relation.TransGen R a c → Relation.ReflTransGen R c a →
      Relation.TransGen (fun b c => R b c ∧ Relation.TransGen R b b) a c := by
    intro c hto
    induction hto with
    | single hfirst => exact fun hback => .single ⟨hfirst, .head' hfirst hback⟩
    | tail hto hlast ih =>
        intro hback
        exact .tail (ih (.head hlast hback)) ⟨hlast, .trans (.head' hlast hback) hto⟩
  exact hall a h .refl

/-- Edges lead from one step to another, whatever choices they need. -/
def Reaches (graph : Graph) (source target : Step) : Prop :=
  Relation.ReflTransGen (Leads graph.definition.edges) source.id target.id

/-- Edges lead from the step back to it. -/
def GoesAround (graph : Graph) (step : Step) : Prop :=
  Relation.TransGen (Leads graph.definition.edges) step.id step.id

theorem eq_trigger_of_type (hstep : step ∈ graph.steps) (htype : step.type = "trigger") :
    step = graph.trigger := by
  have htrigger : graph.trigger.type = "trigger" :=
    Step.isTrigger_iff.mp (List.mem_filter.mp (List.head_mem graph.triggers_ne_nil)).2
  exact graph.wellFormed.trigger.unique ⟨hstep, htype⟩ ⟨graph.trigger_mem_steps, htrigger⟩

/-- A step that the trigger does not lead to is entered from another such step. -/
theorem exists_leads_of_not_reaches (hstep : step ∈ graph.steps)
    (hcut : ¬ graph.Reaches graph.trigger step) :
    ∃ source ∈ graph.steps, Leads graph.definition.edges source.id step.id ∧
      ¬ graph.Reaches graph.trigger source := by
  have htype : step.type ≠ "trigger" := by
    intro htype
    obtain rfl := eq_trigger_of_type hstep htype
    exact hcut .refl
  obtain ⟨edge, hedge, htarget⟩ := graph.wellFormed.entered step hstep htype
  obtain ⟨source, hsource, hid⟩ := List.mem_map.mp (graph.wellFormed.ends edge hedge).1
  have hleads : Leads graph.definition.edges source.id step.id :=
    ⟨edge, hedge, hid.symm, htarget⟩
  exact ⟨source, hsource, hleads, fun hreached => hcut (hreached.tail hleads)⟩

/-- An edge from a step that the trigger does not lead to and that leads to the target. -/
def CutOff (graph : Graph) (target : Step) (source next : String) : Prop :=
  Leads graph.definition.edges source next ∧
    ∃ step ∈ graph.steps, step.id = source ∧ ¬ graph.Reaches graph.trigger step ∧
      graph.Reaches step target

/-- Following edges back from a step that is cut off comes back to where it has been. -/
theorem exists_cutOff_cycle (hstep : step ∈ graph.steps)
    (hcut : ¬ graph.Reaches graph.trigger step) :
    ∃ id, Relation.TransGen (graph.CutOff step) id id := by
  refine exists_cycle_of_preceded
    ⟨step.id, List.mem_map_of_mem hstep, step, hstep, rfl, hcut, .refl⟩ ?_
  rintro _ - ⟨other, hother, rfl, hother', hto⟩
  obtain ⟨source, hsource, hleads, hsource'⟩ := exists_leads_of_not_reaches hother hother'
  exact ⟨source.id, List.mem_map_of_mem hsource,
    ⟨source, hsource, rfl, hsource', .head hleads hto⟩, hleads⟩

/-- A step that the trigger does not lead to is led to from a cycle through a step that waits. -/
theorem exists_waiting_cycle (hstep : step ∈ graph.steps)
    (hcut : ¬ graph.Reaches graph.trigger step) :
    ∃ waits ∈ graph.steps, waits.interactive = true ∧ graph.GoesAround waits ∧
      ¬ graph.Reaches graph.trigger waits ∧ graph.Reaches waits step := by
  obtain ⟨passed, hcycle⟩ := exists_cutOff_cycle hstep hcut
  by_contra hnone
  -- Otherwise no step on the cycle waits, and the graph would go around without waiting.
  refine graph.wellFormed.acyclic passed ((transGen_around hcycle).lift id ?_)
  rintro source next ⟨⟨hleads, other, hother, rfl, hother', hto⟩, haround⟩
  refine ⟨⟨other, hother, rfl, Bool.eq_false_iff.mpr fun waits => hnone ?_⟩, hleads⟩
  exact ⟨other, hother, waits, haround.lift id fun _ _ => And.left, hother', hto⟩

/-- Every step of a graph is led to by its trigger, or from a cycle through a step that waits and
that the trigger does not lead to. The trigger leads to all steps exactly if it leads to all steps
that wait on a cycle. -/
theorem reached_or_behind_cycle (graph : Graph) :
    (∀ step ∈ graph.steps, graph.Reaches graph.trigger step ∨
      ∃ waits ∈ graph.steps, waits.interactive = true ∧ graph.GoesAround waits ∧
        ¬ graph.Reaches graph.trigger waits ∧ graph.Reaches waits step) ∧
    ((∀ step ∈ graph.steps, graph.Reaches graph.trigger step) ↔
      ∀ waits ∈ graph.steps, waits.interactive = true → graph.GoesAround waits →
        graph.Reaches graph.trigger waits) := by
  refine ⟨fun step hstep => ?_, fun hall waits hwaits _ _ => hall waits hwaits,
    fun hcycles step hstep => ?_⟩
  · by_cases hreached : graph.Reaches graph.trigger step
    · exact .inl hreached
    · exact .inr (exists_waiting_cycle hstep hreached)
  · by_contra hcut
    obtain ⟨waits, hwaits, hinteractive, haround, hcut', -⟩ := exists_waiting_cycle hstep hcut
    exact hcut' (hcycles waits hwaits hinteractive haround)

/-- A definition whose buttons and tag lead to each other and to nothing else. Nothing is found
wrong with it, and its trigger leads to neither of them. -/
theorem accepted_with_island :
    let definition : Definition :=
      { steps := [{ id := "t", type := "trigger" }, { id := "a", type := "tag" },
          { id := "b", type := "buttons" }, { id := "c", type := "tag" }]
        edges := [{ source := "t", target := "a" }, { source := "b", target := "c" },
          { source := "c", target := "b" }] }
    violations {} definition = [] ∧ violations { strict := false } definition = [] ∧
      ∀ id ∈ ["b", "c"],
        ¬ Relation.ReflTransGen (Leads definition.edges) "t" id := by
  intro definition
  refine ⟨by decide +kernel, by decide +kernel, fun id hid hreached => ?_⟩
  have hmainland : ∀ id, Relation.ReflTransGen (Leads definition.edges) "t" id →
      id = "t" ∨ id = "a" := by
    intro id h
    induction h with
    | refl => exact .inl rfl
    | tail _ hlast ih =>
        obtain ⟨edge, hedge, rfl, rfl⟩ := hlast
        simp only [definition, List.mem_cons, List.not_mem_nil, or_false] at hedge
        rcases hedge with rfl | rfl | rfl <;> simp_all
  rcases hmainland id hreached with rfl | rfl <;> simp at hid

end Graph

end Workflow
