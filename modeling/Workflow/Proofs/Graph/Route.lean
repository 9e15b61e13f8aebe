import Workflow.Proofs.Graph.WellFormed

/-!
# Routes through a graph

A route is what a routine passes from a step on without a choice: it goes on along default edges and
is over at a step that waits for a person or has no default edge. Every step of a graph has one,
because going on without waiting cannot go around, and for the same reason no step is passed twice.
-/

namespace Workflow.Graph

variable {graph : Graph} {step next : Step} {route : List Step} {id : String}

theorem wellFormed (graph : Graph) : graph.definition.WellFormed graph.rules :=
  Definition.wellFormed_of_violations_eq_nil graph.accepted

/-- The steps passed from a step on. -/
inductive Route (graph : Graph) : Step → List Step → Prop
  /-- The step waits for a person. -/
  | waits {step : Step} (waiting : step.interactive = true) : Route graph step [step]
  /-- No default edge leaves the step. -/
  | ends {step : Step} (flowing : step.interactive = false)
      (last : graph.defaultEdge? step.id = none) : Route graph step [step]
  /-- The default edge leads on. -/
  | goes {step next : Step} {route : List Step} (flowing : step.interactive = false)
      (follows : graph.stepAfter? step.id = some next) (rest : Route graph next route) :
      Route graph step (step :: route)

theorem mem_edges_of_defaultEdge? {edge : Edge} (h : graph.defaultEdge? id = some edge) :
    edge ∈ graph.definition.edges ∧ edge.source = id := by
  have hmem := List.mem_filter.mp (List.mem_of_find?_eq_some h)
  exact ⟨hmem.1, by simpa using hmem.2⟩

theorem mem_steps_of_node? (h : graph.node? id = some step) : step ∈ graph.steps ∧ step.id = id :=
  ⟨List.mem_of_find?_eq_some h, by simpa using List.find?_some h⟩

theorem trigger_mem_steps (graph : Graph) : graph.trigger ∈ graph.steps :=
  (List.mem_filter.mp (List.head_mem graph.triggers_ne_nil)).1

theorem mem_steps_of_node (h : graph.node id = .ok step) : step ∈ graph.steps ∧ step.id = id := by
  unfold node at h
  split at h
  · cases h
    exact mem_steps_of_node? ‹_›
  · cases h

theorem exists_node? (h : id ∈ graph.definition.ids) : ∃ step, graph.node? id = some step := by
  obtain ⟨step, hstep, rfl⟩ := List.mem_map.mp h
  exact Option.isSome_iff_exists.mp (List.find?_isSome.mpr ⟨step, hstep, by simp⟩)

/-- A step of the graph is found by its id. -/
theorem node?_of_mem_steps (h : step ∈ graph.steps) : graph.node? step.id = some step := by
  obtain ⟨found, hfound⟩ := exists_node? (List.mem_map_of_mem h)
  obtain ⟨hmem, hid⟩ := mem_steps_of_node? hfound
  rw [hfound, Definition.eq_of_id_eq graph.wellFormed.distinct hmem h hid]

/-- A graph has the step an edge of it leads to. -/
theorem exists_node_target {edge : Edge} (h : edge ∈ graph.definition.edges) :
    ∃ target, graph.node edge.target = .ok target := by
  obtain ⟨target, htarget⟩ := exists_node? (graph.wellFormed.ends edge h).2
  exact ⟨target, by rw [node, htarget]⟩

/-- A default edge leads to a step. -/
theorem exists_stepAfter? {edge : Edge} (h : graph.defaultEdge? id = some edge) :
    ∃ next, graph.stepAfter? id = some next := by
  obtain ⟨next, hnext⟩ :=
    exists_node? (graph.wellFormed.ends edge (mem_edges_of_defaultEdge? h).1).2
  exact ⟨next, by rw [stepAfter?, h, Option.bind_some, hnext]⟩

theorem stepAfter?_eq_none_iff : graph.stepAfter? id = none ↔ graph.defaultEdge? id = none := by
  constructor
  · intro hnone
    by_contra hne
    obtain ⟨edge, hedge⟩ := Option.ne_none_iff_exists'.mp hne
    obtain ⟨next, hnext⟩ := exists_stepAfter? hedge
    exact nomatch hnone.symm.trans hnext
  · intro hnone
    rw [stepAfter?, hnone, Option.bind_none]

theorem mem_steps_of_stepAfter? (h : graph.stepAfter? id = some next) : next ∈ graph.steps := by
  obtain ⟨edge, -, hnode⟩ := Option.bind_eq_some_iff.mp h
  exact (mem_steps_of_node? hnode).1

theorem flows_of_stepAfter? (hstep : step ∈ graph.steps) (flowing : step.interactive = false)
    (h : graph.stepAfter? step.id = some next) : graph.definition.Flows step.id next.id := by
  obtain ⟨edge, hedge, hnode⟩ := Option.bind_eq_some_iff.mp h
  obtain ⟨hmem, hsource⟩ := mem_edges_of_defaultEdge? hedge
  exact ⟨⟨step, hstep, rfl, flowing⟩, edge, hmem, hsource, (mem_steps_of_node? hnode).2.symm⟩

/-- Where a routine goes on to is a matter of its definition alone. -/
theorem stepAfter?_congr {graph' : Graph} (h : graph'.definition = graph.definition) :
    graph'.stepAfter? id = graph.stepAfter? id := by
  simp only [stepAfter?, defaultEdge?, outgoing, node?, steps, h]

theorem eq_of_ask {α : Type} {answer a : α} (h : graph.ask id answer = .ok a) : a = answer := by
  unfold ask at h
  cases hnode : graph.node id with
  | error fault =>
      rw [hnode] at h
      cases h
  | ok step =>
      rw [hnode] at h
      cases h
      rfl

/-- Going on without waiting comes to an end: the induction is on the ids, against the flow. -/
theorem exists_route (hstep : step ∈ graph.steps) : ∃ route, graph.Route step route := by
  have hacyclic : ∀ id, ¬ Relation.TransGen (Function.swap graph.definition.Flows) id id :=
    fun id hcycle => graph.wellFormed.acyclic id (Relation.transGen_swap.mp hcycle)
  have hall : ∀ start : { id // id ∈ graph.definition.ids }, ∀ step ∈ graph.steps,
      step.id = start.1 → ∃ route, graph.Route step route := by
    intro start
    induction start using (wellFounded_of_acyclic hacyclic graph.definition.ids).induction with
    | _ start ih =>
        intro step hstep hid
        cases waiting : step.interactive with
        | true => exact ⟨[step], .waits waiting⟩
        | false =>
            cases follows : graph.stepAfter? step.id with
            | none => exact ⟨[step], .ends waiting (stepAfter?_eq_none_iff.mp follows)⟩
            | some next =>
                have hnext := mem_steps_of_stepAfter? follows
                have hflows := flows_of_stepAfter? hstep waiting follows
                obtain ⟨route, hroute⟩ := ih ⟨next.id, List.mem_map_of_mem hnext⟩
                  (.single (hid ▸ hflows)) next hnext rfl
                exact ⟨step :: route, .goes waiting follows hroute⟩
  exact hall ⟨step.id, List.mem_map_of_mem hstep⟩ step hstep rfl

namespace Route

theorem exists_cons (h : graph.Route step route) : ∃ rest, route = step :: rest := by
  cases h with
  | waits _ => exact ⟨[], rfl⟩
  | ends _ _ => exact ⟨[], rfl⟩
  | goes _ _ _ => exact ⟨_, rfl⟩

theorem ne_nil (h : graph.Route step route) : route ≠ [] := by
  obtain ⟨rest, rfl⟩ := h.exists_cons
  exact List.cons_ne_nil step rest

theorem subset (h : graph.Route step route) (hstep : step ∈ graph.steps) : route ⊆ graph.steps := by
  induction h with
  | waits _ => simpa using hstep
  | ends _ _ => simpa using hstep
  | goes _ follows _ ih =>
      exact List.cons_subset.mpr ⟨hstep, ih (mem_steps_of_stepAfter? follows)⟩

/-- Every other step of a route is reached by flowing edges. -/
theorem flows (h : graph.Route step route) (hstep : step ∈ graph.steps) {other : Step}
    (hother : other ∈ route) :
    other = step ∨ Relation.TransGen graph.definition.Flows step.id other.id := by
  induction h with
  | waits _ => exact .inl (List.mem_singleton.mp hother)
  | ends _ _ => exact .inl (List.mem_singleton.mp hother)
  | goes flowing follows _ ih =>
      rcases List.mem_cons.mp hother with rfl | hother
      · exact .inl rfl
      · have hfirst := flows_of_stepAfter? hstep flowing follows
        rcases ih (mem_steps_of_stepAfter? follows) hother with rfl | hrest
        · exact .inr (.single hfirst)
        · exact .inr (.head hfirst hrest)

theorem nodup (h : graph.Route step route) (hstep : step ∈ graph.steps) :
    (route.map Step.id).Nodup := by
  induction h with
  | waits _ => exact List.nodup_singleton _
  | ends _ _ => exact List.nodup_singleton _
  | goes flowing follows rest ih =>
      have hnext := mem_steps_of_stepAfter? follows
      refine List.nodup_cons.mpr ⟨fun hmem => ?_, ih hnext⟩
      obtain ⟨other, hother, hsame⟩ := List.mem_map.mp hmem
      have hfirst := flows_of_stepAfter? hstep flowing follows
      rcases rest.flows hnext hother with rfl | hrest
      · rw [hsame] at hfirst
        exact graph.wellFormed.acyclic _ (.single hfirst)
      · rw [hsame] at hrest
        exact graph.wellFormed.acyclic _ (.head hfirst hrest)

theorem length_le (h : graph.Route step route) (hstep : step ∈ graph.steps) :
    route.length ≤ graph.size :=
  (List.subperm_of_subset (.of_map _ (h.nodup hstep)) (h.subset hstep)).length_le

end Route

end Workflow.Graph
