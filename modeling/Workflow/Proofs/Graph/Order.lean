import Workflow.Proofs.Graph.Route
import Workflow.Reply.Choice

/-!
# The order of the edges

Where a routine goes next is looked up among the edges of a step, and the first edge that fits is
taken. Under strict rules at most one edge of a step can be followed without a choice, so going on
without one does not depend on the order in which the edges were declared. Handles are not checked
in this way: where two edges of a step carry the same choice to different steps, the one declared
first is followed, and only there does the order count.
-/

namespace Workflow

/-- What is found first does not depend on the order of a list where everything that could be found
looks the same. -/
theorem map_find?_of_perm {α β : Type} {p : α → Bool} {f : α → β} {l l' : List α}
    (hperm : l'.Perm l) (hsame : ∀ a ∈ l, ∀ b ∈ l, p a = true → p b = true → f a = f b) :
    (l'.find? p).map f = (l.find? p).map f := by
  cases hfind : l.find? p with
  | none =>
      have hnone : l'.find? p = none := List.find?_eq_none.mpr fun a ha =>
        List.find?_eq_none.mp hfind a (hperm.mem_iff.mp ha)
      rw [hnone]
  | some a =>
      have hmem := List.mem_of_find?_eq_some hfind
      have hfits := List.find?_some hfind
      obtain ⟨b, hfind'⟩ : ∃ b, l'.find? p = some b := Option.isSome_iff_exists.mp
        (List.find?_isSome.mpr ⟨a, hperm.mem_iff.mpr hmem, hfits⟩)
      have hmem' := hperm.mem_iff.mp (List.mem_of_find?_eq_some hfind')
      rw [hfind', Option.map_some, Option.map_some,
        hsame b hmem' a hmem (List.find?_some hfind') hfits]

namespace Definition.WellFormed

variable {rules : Graph.Rules} {d : Definition} {edges : List Edge}

/-- A definition stays well-formed when its edges are declared in another order. -/
theorem reorder (h : d.WellFormed rules) (hperm : edges.Perm d.edges) :
    ({ d with edges } : Definition).WellFormed rules where
  size := h.size
  distinct := h.distinct
  trigger := h.trigger
  ends edge hedge := h.ends edge (hperm.mem_iff.mp hedge)
  start step hstep htype edge hedge := h.start step hstep htype edge (hperm.mem_iff.mp hedge)
  entered step hstep htype := by
    obtain ⟨edge, hedge, htarget⟩ := h.entered step hstep htype
    exact ⟨edge, hperm.mem_iff.mpr hedge, htarget⟩
  leaving step hstep htype := by
    obtain ⟨hcount, hdefault⟩ := h.leaving step hstep htype
    exact ⟨(hperm.countP_eq _).trans_le hcount,
      fun edge hedge => hdefault edge (hperm.mem_iff.mp hedge)⟩
  unambiguous hstrict step hstep := (hperm.countP_eq _).trans_le (h.unambiguous hstrict step hstep)
  acyclic id hcycle := by
    refine h.acyclic id (hcycle.lift (fun a => a) ?_)
    rintro source target ⟨hflows, edge, hedge, hleads⟩
    exact ⟨hflows, edge, hperm.mem_iff.mp hedge, hleads⟩

/-- Under strict rules a step has one edge at most that needs no choice. -/
theorem eq_of_isDefault (h : d.WellFormed rules) (hstrict : rules.strict = true) {first second : Edge}
    (hfirst : first ∈ d.edges) (hsecond : second ∈ d.edges) (hsource : first.source = second.source)
    (hdefault : first.isDefault = true) (hdefault' : second.isDefault = true) : first = second := by
  obtain ⟨step, hstep, hid⟩ := List.mem_map.mp (h.ends first hfirst).1
  have hcount := h.unambiguous hstrict step hstep
  have hmem : first ∈ d.edges.filter fun edge => edge.source = step.id && edge.isDefault :=
    List.mem_filter.mpr ⟨hfirst, by simp [hid, hdefault]⟩
  have hmem' : second ∈ d.edges.filter fun edge => edge.source = step.id && edge.isDefault :=
    List.mem_filter.mpr ⟨hsecond, by simp [hid, ← hsource, hdefault']⟩
  rw [List.countP_eq_length_filter] at hcount
  match hlist : d.edges.filter fun edge => edge.source = step.id && edge.isDefault with
  | [] => exact absurd (hlist ▸ hmem) List.not_mem_nil
  | [only] =>
      rw [hlist, List.mem_singleton] at hmem hmem'
      exact hmem.trans hmem'.symm
  | _ :: _ :: _ =>
      rw [hlist] at hcount
      simp at hcount

end Definition.WellFormed

namespace Graph

variable {graph other : Graph} {step : Step} {choice : Value} {id : String}

/-- The same graph with its edges declared in another order. -/
structure Reordered (graph other : Graph) : Prop where
  rules : other.rules = graph.rules
  steps : other.definition.steps = graph.definition.steps
  edges : other.definition.edges.Perm graph.definition.edges

/-- The step a conversation goes on to from a step when a choice was made there. -/
def resumeStep (graph : Graph) (step : Step) (choice : Value) : Except Fault Step := do
  graph.node (← graph.resumeEdge step choice).target

/-- The edges of a step that carry a choice lead to one step. -/
def Settles (graph : Graph) (step : Step) (choice : Value) : Prop :=
  ∀ first ∈ graph.outgoing step.id, ∀ second ∈ graph.outgoing step.id, ∀ handle,
    choice = .text handle → first.handle = some handle → second.handle = some handle →
      first.target = second.target

theorem mem_outgoing {edge : Edge} :
    edge ∈ graph.outgoing id ↔ edge ∈ graph.definition.edges ∧ edge.source = id := by
  simp [outgoing, edgesFrom]

/-- What an edge that a choice selects leads to, and without such an edge the default edge. -/
def resumeTarget? (graph : Graph) (step : Step) (choice : Value) : Option String :=
  let chosen := if choice.truthy then
      choice.text?.bind fun handle => graph.edgeForHandle? step.id (some handle)
    else none
  (chosen.map Edge.target).or ((graph.defaultEdge? step.id).map Edge.target)

theorem resumeStep_eq (graph : Graph) (step : Step) (choice : Value) :
    graph.resumeStep step choice =
      match graph.resumeTarget? step choice with
      | some target => graph.node target
      | none => .error (.naming choice (.noPath step.id choice)) := by
  unfold resumeStep resumeEdge resumeTarget?
  dsimp only
  split
  · rename_i hchosen
    rw [hchosen]
    rfl
  · rename_i hchosen
    rw [hchosen]
    cases graph.defaultEdge? step.id <;> rfl

namespace Reordered

theorem node?_eq (h : graph.Reordered other) (id : String) : other.node? id = graph.node? id := by
  rw [Graph.node?, Graph.node?, Graph.steps, Graph.steps, h.steps]

theorem node_eq (h : graph.Reordered other) (id : String) : other.node id = graph.node id := by
  rw [Graph.node, Graph.node, h.node?_eq]

theorem outgoing (h : graph.Reordered other) (id : String) :
    (other.outgoing id).Perm (graph.outgoing id) := h.edges.filter _

/-- The default edge leads to the same step, because it is the only one. -/
theorem map_defaultEdge? (h : graph.Reordered other) (hstrict : graph.rules.strict = true)
    (id : String) :
    (other.defaultEdge? id).map Edge.target = (graph.defaultEdge? id).map Edge.target := by
  refine map_find?_of_perm (h.outgoing id) fun first hfirst second hsecond hdefault hdefault' => ?_
  obtain ⟨hfirst, hsource⟩ := mem_outgoing.mp hfirst
  obtain ⟨hsecond, hsource'⟩ := mem_outgoing.mp hsecond
  rw [graph.wellFormed.eq_of_isDefault hstrict hfirst hsecond (hsource.trans hsource'.symm)
    hdefault hdefault']

/-- Going on without a choice leads to the same step. -/
theorem stepAfter?_eq (h : graph.Reordered other) (hstrict : graph.rules.strict = true)
    (id : String) : other.stepAfter? id = graph.stepAfter? id := by
  have hnext (graph : Graph) : graph.stepAfter? id =
      ((graph.defaultEdge? id).map Edge.target).bind graph.node? := by
    rw [stepAfter?, Option.bind_map]
    rfl
  rw [hnext, hnext, h.map_defaultEdge? hstrict, funext h.node?_eq]

/-- The edges that carry a choice lead to the same step where they lead to one only. -/
theorem resumeTarget?_eq (h : graph.Reordered other) (hstrict : graph.rules.strict = true)
    (hsettles : graph.Settles step choice) :
    other.resumeTarget? step choice = graph.resumeTarget? step choice := by
  have hchosen (handle : String) (hchoice : choice = .text handle) :
      (other.edgeForHandle? step.id (some handle)).map Edge.target =
        (graph.edgeForHandle? step.id (some handle)).map Edge.target := by
    refine map_find?_of_perm (h.outgoing step.id) fun first hfirst second hsecond hhandle hhandle' => ?_
    exact hsettles first hfirst second hsecond handle hchoice (of_decide_eq_true hhandle)
      (of_decide_eq_true hhandle')
  unfold resumeTarget?
  dsimp only
  rw [h.map_defaultEdge? hstrict]
  congr 1
  split
  · cases choice with
    | text handle => exact hchosen handle rfl
    | _ => rfl
  · rfl

theorem resumeStep_eq (h : graph.Reordered other) (hstrict : graph.rules.strict = true)
    (hsettles : graph.Settles step choice) :
    other.resumeStep step choice = graph.resumeStep step choice := by
  rw [Graph.resumeStep_eq, Graph.resumeStep_eq, h.resumeTarget?_eq hstrict hsettles,
    funext h.node_eq]

end Reordered

/-- An edge can be declared in front of all others. -/
theorem exists_reordered {edge : Edge} (hedge : edge ∈ graph.definition.edges) :
    ∃ other, graph.Reordered other ∧
      other.definition.edges = edge :: graph.definition.edges.erase edge := by
  have hperm := (List.perm_cons_erase hedge).symm
  exact ⟨⟨graph.rules, { graph.definition with edges := edge :: graph.definition.edges.erase edge },
    Definition.violations_eq_nil_of_wellFormed (graph.wellFormed.reorder hperm)⟩,
    ⟨rfl, rfl, hperm⟩, rfl⟩

/-- The edge declared in front of all others is followed when its choice is made. -/
theorem resumeStep_of_foremost {edge : Edge} {rest : List Edge} {handle : String}
    (hedges : graph.definition.edges = edge :: rest) (hsource : edge.source = step.id)
    (hhandle : edge.handle = some handle) (hsome : handle ≠ "") :
    graph.resumeStep step (.text handle) = graph.node edge.target := by
  have hfound : graph.edgeForHandle? step.id (some handle) = some edge := by
    rw [edgeForHandle?, outgoing, hedges, edgesFrom, List.filter_cons_of_pos (by simpa using hsource),
      List.find?_cons_of_pos (by simpa using hhandle)]
  have htarget : graph.resumeTarget? step (.text handle) = some edge.target := by
    simp [resumeTarget?, Value.text?, hfound, hsome]
  rw [resumeStep_eq, htarget]

/-- Where the order of the edges makes no difference to a choice, the choice leads to one step. -/
theorem settles_of_resumeStep (hstrict : graph.rules.strict = true)
    (hsame : ∀ other, graph.Reordered other →
      other.resumeStep step choice = graph.resumeStep step choice) :
    graph.Settles step choice := by
  rintro first hfirst second hsecond handle rfl hhandle hhandle'
  obtain ⟨hfirst, hsource⟩ := mem_outgoing.mp hfirst
  obtain ⟨hsecond, hsource'⟩ := mem_outgoing.mp hsecond
  by_cases hsome : handle = ""
  · -- An empty handle is none, and the default edge is the only one.
    subst hsome
    have hdefault {edge : Edge} (h : edge.handle = some "") : edge.isDefault = true :=
      Edge.isDefault_iff.mpr (.inr (.inl h))
    rw [graph.wellFormed.eq_of_isDefault hstrict hfirst hsecond (hsource.trans hsource'.symm)
      (hdefault hhandle) (hdefault hhandle')]
  · have hleads {edge : Edge} (hedge : edge ∈ graph.definition.edges) (hsource : edge.source = step.id)
        (hhandle : edge.handle = some handle) :
        graph.resumeStep step (.text handle) = graph.node edge.target := by
      obtain ⟨other, hother, hedges⟩ := exists_reordered hedge
      rw [← hsame other hother, resumeStep_of_foremost hedges hsource hhandle hsome, hother.node_eq]
    obtain ⟨target, htarget⟩ := exists_node_target hfirst
    have htarget' : graph.node second.target = .ok target := by
      rw [← hleads hsecond hsource' hhandle', hleads hfirst hsource hhandle, htarget]
    exact (mem_steps_of_node htarget).2.symm.trans (mem_steps_of_node htarget').2

/-- Under strict rules a graph is still accepted when its edges are declared in another order, and
from every step the same step follows without a choice. The same step follows after a choice, or the
same fault that nothing does, in every order of the edges exactly if those edges of the step that
carry the choice lead to one step. -/
theorem reordered_routes_alike (graph : Graph) (hstrict : graph.rules.strict = true) :
    (∀ edges, edges.Perm graph.definition.edges →
      violations graph.rules { graph.definition with edges } = []) ∧
    (∀ other, graph.Reordered other →
      ∀ id, other.ask id (other.stepAfter? id) = graph.ask id (graph.stepAfter? id)) ∧
    ∀ step ∈ graph.steps, ∀ choice,
      (∀ other, graph.Reordered other →
        other.resumeStep step choice = graph.resumeStep step choice) ↔
      graph.Settles step choice := by
  refine ⟨fun edges hperm => ?accepted, fun other hother id => ?onward, fun step _ choice => ?chosen⟩
  case accepted =>
    exact Definition.violations_eq_nil_of_wellFormed (graph.wellFormed.reorder hperm)
  case onward => rw [ask, ask, hother.node_eq, hother.stepAfter?_eq hstrict]
  case chosen =>
    exact ⟨settles_of_resumeStep hstrict,
      fun hsettles other hother => hother.resumeStep_eq hstrict hsettles⟩

/-- Two buttons and an edge for neither, in either order. -/
theorem reordered_routes_alike_at_menu :
    let menu : Step := { id := "menu", type := "buttons" }
    let d : Definition :=
      { steps := [{ id := "t", type := "trigger" }, menu, { id := "a", type := "tag" },
          { id := "b", type := "tag" }]
        edges := [{ source := "t", target := "menu" },
          { source := "menu", target := "a", handle := some "yes" },
          { source := "menu", target := "b", handle := some "no" },
          { source := "menu", target := "b", handle := some "continue" }] }
    let graph : Graph := ⟨{}, d, by decide +kernel⟩
    let other : Graph := ⟨{}, { d with edges := d.edges.reverse }, by decide +kernel⟩
    graph.rules.strict = true ∧ graph.Reordered other ∧
      (other.ask "menu" (other.stepAfter? "menu")).map (·.map Step.id) = .ok (some "b") ∧
      (other.resumeStep menu (.text "yes")).map Step.id = .ok "a" ∧
      (other.resumeStep menu (.text "else")).map Step.id = .ok "b" := by
  intro menu d graph other
  have hother : graph.Reordered other := ⟨rfl, rfl, d.edges.reverse_perm⟩
  obtain ⟨-, honward, hchosen⟩ := reordered_routes_alike graph rfl
  have hsettles (choice : String) : graph.Settles menu (.text choice) := by
    have hall : ∀ first ∈ graph.outgoing "menu", ∀ second ∈ graph.outgoing "menu",
        first.handle = second.handle → first.target = second.target := by decide +kernel
    rintro first hfirst second hsecond handle - hhandle hhandle'
    exact hall first hfirst second hsecond (hhandle.trans hhandle'.symm)
  have hmenu : menu ∈ graph.steps := by decide
  refine ⟨rfl, hother, ?_, ?_, ?_⟩
  · rw [honward other hother]
    decide +kernel
  · rw [(hchosen menu hmenu _).mpr (hsettles "yes") other hother]
    decide +kernel
  · rw [(hchosen menu hmenu _).mpr (hsettles "else") other hother]
    decide +kernel

/-- Two edges of a menu carry one choice to different steps. Both orders of the edges are accepted,
and the choice leads to the step that is declared first. -/
theorem rerouted_by_order :
    let menu : Step := { id := "menu", type := "buttons" }
    let d : Definition :=
      { steps := [{ id := "t", type := "trigger" }, menu, { id := "a", type := "tag" },
          { id := "b", type := "tag" }]
        edges := [{ source := "t", target := "menu" },
          { source := "menu", target := "a", handle := some "yes" },
          { source := "menu", target := "b", handle := some "yes" }] }
    let graph : Graph := ⟨{}, d, by decide +kernel⟩
    let other : Graph := ⟨{}, { d with edges := d.edges.reverse }, by decide +kernel⟩
    graph.rules.strict = true ∧ graph.Reordered other ∧ menu ∈ graph.steps ∧
      (graph.resumeStep menu (.text "yes")).map Step.id = .ok "a" ∧
      (other.resumeStep menu (.text "yes")).map Step.id = .ok "b" := by
  intro menu d graph other
  exact ⟨rfl, ⟨rfl, rfl, d.edges.reverse_perm⟩, by decide, by decide +kernel, by decide +kernel⟩

end Graph

end Workflow
