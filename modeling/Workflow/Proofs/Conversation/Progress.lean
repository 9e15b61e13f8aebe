import Workflow.Proofs.Conversation.Path
import Workflow.Proofs.Conversation.Talk
import Workflow.Proofs.Graph.Route

/-!
# How a turn moves a conversation

The state changes in few places only, and each time from the state that comes before the new one on
a path. `Turn.Arrives` says so of two moments of a turn, together with what the end of a turn is
about: a conversation that is suspended stands at a step that waits for a person. It is shown for
the walk through the steps by induction on the fuel, and from it for everything that is asked of a
conversation. Wherever a fault ends a turn the conversation is running, or nothing was done yet.
-/

namespace Workflow

/-- A conversation that is suspended stands at a step that waits. -/
def Conversation.Placed (c : Conversation) : Prop :=
  c.state = .suspended → ∃ step ∈ c.graph.steps, c.node = some step.id ∧ step.interactive = true

theorem Conversation.placed_of_idle {c : Conversation} (h : c.state = .idle) : c.Placed := by
  intro hsuspended
  rw [h] at hsuspended
  cases hsuspended

namespace Turn

open Operation (Respects)

/-- The later moment is reached along a path of states, and messages and effects were only added. -/
def Leads (t t' : Turn) : Prop :=
  ∃ more, t'.effects = t.effects ++ more ∧ t'.conversation.graph = t.conversation.graph ∧
    t'.conversation.messages = t.conversation.messages ++ messagesOf more ∧
    RunState.Path t.conversation.state (statesOf more) t'.conversation.state

/-- The later moment is reached along a path of states that ends at a step that waits if it ends
suspended. -/
structure Arrives (t t' : Turn) : Prop where
  leads : Leads t t'
  placed : t'.conversation.Placed

theorem Talks.leads {t t' : Turn} (h : Talks t t') : Leads t t' := by
  obtain ⟨more, bindings, hstates, heffects, hconversation⟩ := h
  refine ⟨more, heffects, by rw [hconversation], by rw [hconversation], ?_⟩
  rw [hstates, hconversation]
  exact .stays _

namespace Leads

variable {t t' t'' : Turn}

theorem refl (t : Turn) : Leads t t := (Talks.refl t).leads

theorem trans (first : Leads t t') (rest : Leads t' t'') : Leads t t'' := by
  obtain ⟨more, heffects, hgraph, hmessages, hpath⟩ := first
  obtain ⟨more', heffects', hgraph', hmessages', hpath'⟩ := rest
  refine ⟨more ++ more', ?_, hgraph'.trans hgraph, ?_, ?_⟩
  · rw [heffects', heffects, List.append_assoc]
  · rw [hmessages', hmessages, messagesOf_append, List.append_assoc]
  · rw [statesOf_append]
    exact hpath.trans hpath'

/-- Reaching a step is no more than noting it. -/
theorem setNode (t : Turn) (node : Option String) :
    Leads t { t with conversation := { t.conversation with node } } :=
  ⟨[], by simp, rfl, by simp [messagesOf], .stays _⟩

end Leads

/-- A reply that a waiting conversation can read is delivered to the step where it waits. -/
theorem perform_resume_of_suspended {recorder : Recorder} {onward : Step → Operation Turn Unit}
    {t : Turn} {step : Step} {input : Value} {reply : Reply}
    (hsuspended : t.conversation.state = .suspended)
    (hwaits : t.conversation.graph.node (t.conversation.node.getD "") = .ok step)
    (hreply : Reply.ofValue input = .ok reply) :
    (resume recorder onward input).perform t =
      (do deliver recorder onward step reply; return (← current).state).perform t := by
  rw [resume, Operation.perform_bind_ok (perform_current t),
    if_neg (by exact not_not.mpr hsuspended), hreply,
    Operation.perform_bind_ok (Operation.perform_ofExcept _ _), hwaits,
    Operation.perform_bind_ok (Operation.perform_ofExcept _ _)]

theorem leads_moved {t : Turn} {state : RunState} (h : state ∈ t.conversation.state.successors) :
    Leads t (t.moved state) :=
  ⟨[.moved state], rfl, rfl, by simp [moved, messagesOf, Effect.message?], .single h⟩

/-- A turn in the middle of its work at a step. -/
structure At (graph : Graph) (node : Option String) (t : Turn) : Prop where
  running : t.conversation.state = .running
  graph : t.conversation.graph = graph
  node : t.conversation.node = node

/-- The operation arrives wherever it ends, when it begins in the middle of a turn. -/
def Goes {α : Type} (graph : Graph) (node : Option String) (operation : Operation Turn α) : Prop :=
  ∀ t, At graph node t → Arrives t (operation.perform t).2

section Goes

variable {α β : Type} {graph : Graph} {node : Option String} {t t' : Turn}

theorem Talks.at (h : Talks t t') (ht : At graph node t) : At graph node t' :=
  ⟨h.state_eq.trans ht.running, h.graph_eq.trans ht.graph, h.node_eq.trans ht.node⟩

theorem Talks.arrives (h : Talks t t') (ht : At graph node t) : Arrives t t' :=
  ⟨h.leads, fun hsuspended => nomatch hsuspended.symm.trans (h.at ht).running⟩

theorem Arrives.of_leads {t'' : Turn} (first : Leads t t') (rest : Arrives t' t'') :
    Arrives t t'' :=
  ⟨first.trans rest.leads, rest.placed⟩

theorem Goes.of_talks {operation : Operation Turn α} (h : Respects Talks operation) :
    Goes graph node operation := fun t ht => (h t).arrives ht

theorem Goes.bind {operation : Operation Turn α} {f : α → Operation Turn β}
    (h : Respects Talks operation) (hf : ∀ a, Goes graph node (f a)) :
    Goes graph node (operation >>= f) := by
  intro t ht
  have htalks := h t
  rw [Operation.perform_bind]
  rcases hp : operation.perform t with ⟨fault | a, t'⟩
  · rw [hp] at htalks
    exact htalks.arrives ht
  · rw [hp] at htalks
    exact .of_leads htalks.leads (hf a t' (htalks.at ht))

theorem goes_complete : Goes graph node (moveTo .completed) := by
  intro t ht
  rw [perform_moveTo (by rw [ht.running]; nofun)]
  exact ⟨leads_moved (by rw [ht.running]; decide), nofun⟩

theorem goes_suspend {step : Step} (hstep : step ∈ graph.steps)
    (waiting : step.interactive = true) :
    Goes graph (some step.id) (moveTo .suspended) := by
  intro t ht
  rw [perform_moveTo (by rw [ht.running]; nofun)]
  refine ⟨leads_moved (by rw [ht.running]; decide), fun _ => ⟨step, ?_, ht.node, waiting⟩⟩
  exact ht.graph.symm ▸ hstep

/-- A way to go onward from the steps of a graph. -/
def Onward (graph : Graph) (onward : Step → Operation Turn Unit) : Prop :=
  ∀ step ∈ graph.steps, ∀ node, Goes graph node (onward step)

theorem goes_walk (recorder : Recorder) (fuel : Nat) :
    Onward graph (walk recorder fuel) := by
  induction fuel with
  | zero => exact fun step _ node => .of_talks (.fail _)
  | succ fuel ih =>
      intro step hstep node t ht
      let reached : Turn := { t with conversation := { t.conversation with node := some step.id } }
      have hreached : Leads t reached := .setNode t (some step.id)
      have hat : At graph (some step.id) reached := ⟨ht.running, ht.graph, rfl⟩
      have htalks : Talks reached ((visit recorder step).perform t).2 := talks_visit recorder step t
      rw [walk]
      rcases hvisit : (visit recorder step).perform t with ⟨fault | waits, t'⟩ <;>
        rw [hvisit] at htalks
      · rw [Operation.perform_bind_error hvisit]
        exact .of_leads hreached (htalks.arrives hat)
      rw [Operation.perform_bind_ok hvisit]
      refine .of_leads (hreached.trans htalks.leads) ?_
      have hat' : At graph (some step.id) t' := htalks.at hat
      cases waits with
      | true =>
          have waiting : step.interactive = true := (answer_visit hvisit).symm
          exact goes_suspend hstep waiting t' hat'
      | false =>
          rw [if_neg Bool.false_ne_true, Operation.perform_bind_ok (perform_current t'), hat'.graph]
          cases follows : graph.stepAfter? step.id with
          | none => exact goes_complete t' hat'
          | some next => exact ih next (Graph.mem_steps_of_stepAfter? follows) _ t' hat'

theorem goes_walkFrom (recorder : Recorder) : Onward graph (walkFrom recorder) := by
  intro step hstep node
  exact .bind respects_current fun c => goes_walk recorder c.graph.size step hstep node

variable {onward : Step → Operation Turn Unit} {recorder : Recorder} {step : Step}

theorem goes_follow (honward : Onward graph onward) (choice : Value) :
    Goes graph node (follow recorder onward step choice) := by
  intro t ht
  rw [follow, Operation.perform_bind_ok (perform_current t)]
  cases t.conversation.graph.resumeEdge step choice with
  | ok edge =>
      rw [Operation.perform_bind_ok (perform_current t), ht.graph]
      cases hnode : graph.node edge.target with
      | error fault => exact Goes.of_talks (.fail fault) t ht
      | ok target => exact honward target (Graph.mem_steps_of_node hnode).1 node t ht
  | error fault =>
      cases fault with
      | noPath =>
          refine Goes.bind (talks_announce _) (fun _ => ?_) t ht
          exact .bind (talks_record _ _ _ _) fun _ => goes_complete
      | _ => exact Goes.of_talks (.fail _) t ht

/-- A reply that is typed in is accepted or not without leaving the step, or it is refused and the
conversation waits again. -/
theorem acceptTyped_outcome (hstep : step ∈ graph.steps) (waiting : step.interactive = true)
    (content : String) {t : Turn} (ht : At graph (some step.id) t) :
    Talks t ((acceptTyped step content).perform t).2 ∨
      ((acceptTyped step content).perform t).1 = .ok false ∧
        Arrives t ((acceptTyped step content).perform t).2 := by
  rw [acceptTyped]
  cases hfits : Reply.fits content (step.setting "validation") with
  | error fault => exact .inl (.refl t)
  | ok fits =>
      rw [Operation.perform_bind_ok (Operation.perform_ofExcept (.ok fits) t)]
      cases fits with
      | true =>
          have htalks : Respects Talks (do storeReply step content; pure true) :=
            .bind (talks_storeReply step content) fun _ => .pure _
          exact .inl (htalks t)
      | false =>
          rw [if_neg Bool.false_ne_true]
          cases hrefusal : step.refusal with
          | error fault => exact .inl (.refl t)
          | ok refusal =>
              rw [Operation.perform_bind_ok (Operation.perform_ofExcept (.ok refusal) t)]
              have htalks := talks_say .system refusal t
              rcases hsay : (say .system refusal).perform t with ⟨fault | _, t'⟩ <;>
                rw [hsay] at htalks
              · rw [Operation.perform_bind_error hsay]
                exact .inl htalks
              · have hat := htalks.at ht
                rw [Operation.perform_bind_ok hsay, Operation.perform_bind_ok
                  (perform_moveTo (by rw [hat.running]; nofun))]
                refine .inr ⟨rfl, .of_leads htalks.leads ?_⟩
                have hsuspend := goes_suspend hstep waiting t' hat
                rwa [perform_moveTo (by rw [hat.running]; nofun)] at hsuspend

theorem goes_takeIn (honward : Onward graph onward) (hstep : step ∈ graph.steps)
    (waiting : step.interactive = true) (content : String) (choice : Value) :
    Goes graph (some step.id) (do
      if ← acceptTyped step content then follow recorder onward step choice) := by
  intro t ht
  have houtcome := acceptTyped_outcome hstep waiting content ht
  rcases haccept : (acceptTyped step content).perform t with ⟨fault | accepted, t'⟩ <;>
    rw [haccept] at houtcome
  · rw [Operation.perform_bind_error haccept]
    rcases houtcome with htalks | ⟨hfalse, _⟩
    · exact htalks.arrives ht
    · cases hfalse
  · rw [Operation.perform_bind_ok haccept]
    rcases houtcome with htalks | ⟨hfalse, harrives⟩
    · cases accepted with
      | true => exact .of_leads htalks.leads (goes_follow honward choice t' (htalks.at ht))
      | false => exact htalks.arrives ht
    · cases hfalse
      exact harrives

theorem arrives_deliver (honward : Onward graph onward) (hstep : step ∈ graph.steps)
    (waiting : step.interactive = true) (reply : Reply) {t : Turn}
    (hsuspended : t.conversation.state = .suspended) (hgraph : t.conversation.graph = graph)
    (hnode : t.conversation.node = some step.id) :
    Arrives t ((deliver recorder onward step reply).perform t).2 := by
  rw [deliver, Operation.perform_bind_ok (perform_moveTo (by rw [hsuspended]; nofun))]
  have hrunning : At graph (some step.id) (t.moved .running) := ⟨rfl, hgraph, hnode⟩
  refine .of_leads (leads_moved (by rw [hsuspended]; decide : .running ∈ _)) ?_
  refine Goes.bind (talks_say .user _) (fun _ => ?_) _ hrunning
  refine .bind (.ofExcept _) fun choice t' ht' => ?_
  split
  · exact goes_takeIn honward hstep waiting reply.content choice t' ht'
  · exact goes_follow honward choice t' ht'

/-- A conversation that starts runs before anything else. -/
theorem arrives_started (honward : Onward graph onward) {t : Turn}
    (hgraph : t.conversation.graph = graph) (hidle : t.conversation.state = .idle) :
    Arrives (t.moved .running) ((start onward).perform t).2 := by
  have hrunning : At graph t.conversation.node (t.moved .running) := ⟨rfl, hgraph, rfl⟩
  rw [start, Operation.perform_bind_ok (perform_current t), if_neg (not_not.mpr hidle),
    Operation.perform_bind_ok (perform_moveTo (by rw [hidle]; nofun)),
    Operation.perform_bind_snd (by exact fun _ _ => rfl), hgraph]
  exact honward graph.trigger graph.trigger_mem_steps _ _ hrunning

theorem arrives_resume (honward : Onward graph onward) {t : Turn}
    (hgraph : t.conversation.graph = graph) (hplaced : t.conversation.Placed) (input : Value) :
    Arrives t ((resume recorder onward input).perform t).2 := by
  have hstays : Arrives t t := ⟨.refl t, hplaced⟩
  rw [resume, Operation.perform_bind_ok (perform_current t)]
  split
  · exact hstays
  rename_i hsuspended
  have hsuspended : t.conversation.state = .suspended := not_not.mp hsuspended
  obtain ⟨waits, hwaits, hnode, waiting⟩ := hplaced hsuspended
  cases Reply.ofValue input with
  | error fault => exact hstays
  | ok reply =>
      rw [Operation.perform_bind_ok (Operation.perform_ofExcept (.ok reply) t), hnode, hgraph]
      cases hstep : graph.node ((some waits.id).getD "") with
      | error fault => exact hstays
      | ok step =>
          obtain ⟨hmem, hid⟩ := Graph.mem_steps_of_node hstep
          obtain rfl : step = waits :=
            Definition.eq_of_id_eq graph.wellFormed.distinct hmem (hgraph ▸ hwaits) hid
          rw [Operation.perform_bind_ok (Operation.perform_ofExcept (.ok step) t),
            Operation.perform_bind_snd (by exact fun _ _ => rfl)]
          exact arrives_deliver honward hmem waiting reply hsuspended hgraph hnode

end Goes

end Turn

end Workflow
