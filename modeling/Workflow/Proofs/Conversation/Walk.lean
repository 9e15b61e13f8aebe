import Workflow.Proofs.Conversation.Progress

/-!
# A walk is a route

A walk has fuel, but in a graph it never needs more than there are steps on the route from where it
begins. With enough fuel it does what is done by carrying out the steps of the route in a row, and
this is all that a request does to the steps of a graph.
-/

namespace Workflow

namespace Turn

variable {graph : Graph} {recorder : Recorder}

/-- Carry out the given steps in a row, and then wait or be over, as the last of them has it. -/
def along (recorder : Recorder) : List Step → Operation Turn Unit
  | [] => pure ()
  | [last] => do
    if ← visit recorder last then moveTo .suspended else moveTo .completed
  | step :: rest => do
    let _ ← visit recorder step
    along recorder rest

theorem perform_along_cons {route : List Step} (h : route ≠ []) (step : Step) (t : Turn) :
    (along recorder (step :: route)).perform t =
      (do let _ ← visit recorder step; along recorder route : Operation Turn Unit).perform t := by
  cases route with
  | nil => exact absurd rfl h
  | cons next rest => rfl

theorem graph_of_visit {step : Step} {t t' : Turn} {b : Bool}
    (h : (visit recorder step).perform t = (.ok b, t')) :
    t'.conversation.graph = t.conversation.graph := by
  have htalks := talks_visit recorder step t
  rw [h] at htalks
  exact htalks.graph_eq

/-- The induction is on the route, which says at each step how the walk goes on. -/
theorem perform_walk {step : Step} {route : List Step} (h : graph.Route step route) {fuel : Nat}
    (hfuel : route.length ≤ fuel) {t : Turn} (hgraph : t.conversation.graph = graph) :
    (walk recorder fuel step).perform t = (along recorder route).perform t := by
  induction h generalizing fuel t with
  | @waits step waiting =>
      obtain ⟨fuel, rfl⟩ : ∃ n, fuel = n + 1 := Nat.exists_eq_add_of_le' hfuel
      refine Operation.perform_bind_congr fun waits t' hvisit => ?_
      rw [answer_visit hvisit, waiting]
      rfl
  | @ends step flowing last =>
      obtain ⟨fuel, rfl⟩ : ∃ n, fuel = n + 1 := Nat.exists_eq_add_of_le' hfuel
      refine Operation.perform_bind_congr fun waits t' hvisit => ?_
      have hgraph' : t'.conversation.graph = graph := (graph_of_visit hvisit).trans hgraph
      rw [answer_visit hvisit, flowing, if_neg Bool.false_ne_true, if_neg Bool.false_ne_true,
        Operation.perform_bind_ok (perform_current t'), hgraph',
        Graph.stepAfter?_eq_none_iff.mpr last]
  | @goes step next route flowing follows rest ih =>
      obtain ⟨fuel, rfl⟩ : ∃ n, fuel = n + 1 :=
        Nat.exists_eq_add_of_le' (Nat.le_of_add_left_le hfuel)
      rw [perform_along_cons rest.ne_nil]
      refine Operation.perform_bind_congr fun waits t' hvisit => ?_
      have hgraph' : t'.conversation.graph = graph := (graph_of_visit hvisit).trans hgraph
      rw [answer_visit hvisit, flowing, if_neg Bool.false_ne_true,
        Operation.perform_bind_ok (perform_current t'), hgraph', follows]
      exact ih (by simpa using hfuel) hgraph'

/-- Two ways to go onward that do the same from the steps of a graph. -/
def Alike (graph : Graph) (onward onward' : Step → Operation Turn Unit) : Prop :=
  ∀ step ∈ graph.steps, ∀ t : Turn, t.conversation.graph = graph →
    (onward step).perform t = (onward' step).perform t

/-- The conversation stays on its graph. -/
def SameGraph (t t' : Turn) : Prop := t'.conversation.graph = t.conversation.graph

instance : IsPreorder Turn SameGraph where
  refl _ := rfl
  trans _ _ _ first rest := Eq.trans rest first

open Operation (Respects)

theorem sameGraph_of_talks {α : Type} {operation : Operation Turn α}
    (h : Respects Talks operation) : Respects SameGraph operation := fun t => (h t).graph_eq

theorem sameGraph_moveTo (state : RunState) : Respects SameGraph (moveTo state) :=
  respects_moveTo fun _ => rfl

theorem sameGraph_acceptTyped (step : Step) (content : String) :
    Respects SameGraph (acceptTyped step content) := by
  refine .bind (.ofExcept _) fun fits => .ite (fun _ => ?_) fun _ => ?_
  · exact .bind (sameGraph_of_talks (talks_storeReply step content)) fun _ => .pure _
  · refine .bind (.ofExcept _) fun refusal => .bind (sameGraph_of_talks (talks_say _ _)) fun _ => ?_
    exact .bind (sameGraph_moveTo .suspended) fun _ => .pure _

section Alike

variable {onward onward' : Step → Operation Turn Unit} {t : Turn}

theorem perform_bind_alike {α β : Type} {operation : Operation Turn α} {f g : α → Operation Turn β}
    (hsame : Respects SameGraph operation) (hgraph : t.conversation.graph = graph)
    (h : ∀ a t', t'.conversation.graph = graph → (f a).perform t' = (g a).perform t') :
    (operation >>= f).perform t = (operation >>= g).perform t := by
  refine Operation.perform_bind_congr fun a t' hperform => h a t' ?_
  have hgraph' := hsame t
  rw [hperform] at hgraph'
  exact hgraph'.trans hgraph

theorem perform_follow_alike (halike : Alike graph onward onward')
    (hgraph : t.conversation.graph = graph) (step : Step) (choice : Value) :
    (follow recorder onward step choice).perform t =
      (follow recorder onward' step choice).perform t := by
  rw [follow, follow, Operation.perform_bind_ok (perform_current t),
    Operation.perform_bind_ok (perform_current t)]
  cases t.conversation.graph.resumeEdge step choice with
  | error fault => cases fault <;> rfl
  | ok edge =>
      rw [Operation.perform_bind_ok (perform_current t),
        Operation.perform_bind_ok (perform_current t), hgraph]
      cases hnode : graph.node edge.target with
      | error fault => rfl
      | ok target => exact halike target (Graph.mem_steps_of_node hnode).1 t hgraph

theorem perform_deliver_alike (halike : Alike graph onward onward')
    (hgraph : t.conversation.graph = graph) (step : Step) (reply : Reply) :
    (deliver recorder onward step reply).perform t =
      (deliver recorder onward' step reply).perform t := by
  refine perform_bind_alike (sameGraph_moveTo .running) hgraph fun _ t₁ h₁ => ?_
  refine perform_bind_alike (sameGraph_of_talks (talks_say .user _)) h₁ fun _ t₂ h₂ => ?_
  refine perform_bind_alike (.ofExcept _) h₂ fun choice t₃ h₃ => ?_
  split
  · refine perform_bind_alike (sameGraph_acceptTyped step _) h₃ fun accepted t₄ h₄ => ?_
    cases accepted with
    | true => exact perform_follow_alike halike h₄ step choice
    | false => rfl
  · exact perform_follow_alike halike h₃ step choice

theorem perform_start_alike (halike : Alike graph onward onward')
    (hgraph : t.conversation.graph = graph) :
    (start onward).perform t = (start onward').perform t := by
  rw [start, start, Operation.perform_bind_ok (perform_current t),
    Operation.perform_bind_ok (perform_current t)]
  split
  · rfl
  · refine perform_bind_alike (sameGraph_moveTo .running) hgraph fun _ t₁ h₁ => ?_
    rw [Operation.perform_bind, Operation.perform_bind, hgraph,
      halike graph.trigger graph.trigger_mem_steps t₁ h₁]

theorem perform_resume_alike (halike : Alike graph onward onward')
    (hgraph : t.conversation.graph = graph) (input : Value) :
    (resume recorder onward input).perform t = (resume recorder onward' input).perform t := by
  rw [resume, resume, Operation.perform_bind_ok (perform_current t),
    Operation.perform_bind_ok (perform_current t)]
  split
  · rfl
  · refine perform_bind_alike (.ofExcept _) hgraph fun reply t₁ h₁ => ?_
    refine perform_bind_alike (.ofExcept _) h₁ fun step t₂ h₂ => ?_
    rw [Operation.perform_bind, Operation.perform_bind, perform_deliver_alike halike h₂ step reply]

/-- A request does the same whichever of two ways is taken that do the same from every step. -/
theorem perform_turn_alike (halike : Alike graph onward onward')
    (hgraph : t.conversation.graph = graph) (request : Request) :
    (Conversation.turn recorder onward request).perform t =
      (Conversation.turn recorder onward' request).perform t := by
  cases request with
  | start =>
      rw [Conversation.turn, Conversation.turn, Operation.perform_map, Operation.perform_map,
        perform_start_alike halike hgraph]
  | resume input =>
      rw [Conversation.turn, Conversation.turn, Operation.perform_map, Operation.perform_map,
        perform_resume_alike halike hgraph input]
  | note content => rfl

end Alike

/-- A walk with fuel for every step of the graph carries out the steps of a route. -/
theorem alike_walkFrom {passed : Step → List Step}
    (h : ∀ step ∈ graph.steps, graph.Route step (passed step)) :
    Alike graph (walkFrom recorder) fun step => along recorder (passed step) := by
  intro step hstep t hgraph
  have hroute := h step hstep
  rw [walkFrom, Operation.perform_bind_ok (perform_current t), hgraph]
  exact perform_walk hroute (hroute.length_le hstep) hgraph

end Turn

end Workflow
