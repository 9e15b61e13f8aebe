import Workflow.Proofs.Conversation.Account
import Workflow.Proofs.Conversation.Run

/-!
# Buttons on offer

A conversation that waits at a step with buttons has shown them in the last message that carries
more than a text. Each is shown with its fields as they are declared, except that the placeholders
of its title are filled, and the variables they were filled from are those the conversation still
has. `Conversation.Displays` states this, and every request preserves it.
-/

namespace Workflow

/-- The button as it is shown, with the placeholders of its title filled. -/
def Variables.Shows (bindings : Variables) (button shown : Fields) : Prop :=
  ∃ declared title, ((Dict.get? button "title").getD (.text "")).wording = .ok declared ∧
    interpolate declared bindings.context = .ok title ∧
    shown = Dict.set button "title" (.text title)

/-- The choices of a step with buttons are its buttons. -/
theorem Step.options_of_buttons {step : Step} (hkind : step.kind = .buttons) :
    step.options = if (step.setting "buttons").truthy then (step.setting "buttons").iterate
      else .ok [] := by
  rw [options, hkind]

namespace Conversation

/-- What was last said with more than a text. -/
def lastMetadata (c : Conversation) : Option Fields :=
  (c.messages.filterMap Message.metadata).getLast?

theorem lastMetadata_told (c : Conversation) (message : Message) :
    lastMetadata { c with messages := c.messages ++ [message] } =
      message.metadata.or c.lastMetadata := by
  simp only [lastMetadata, List.filterMap_append, List.getLast?_append, List.filterMap_cons,
    List.filterMap_nil]
  cases message.metadata <;> rfl

/-- The buttons were shown, and only texts were said since. -/
structure Offers (c : Conversation) (buttons shown : List Fields) : Prop where
  filled : List.Forall₂ c.bindings.Shows buttons shown
  said : c.lastMetadata =
    some [("type", .text "buttons"), ("buttons", .list (shown.map Value.object))]

/-- A conversation that waits at a step with buttons offers them. -/
def Displays (c : Conversation) : Prop :=
  c.state = .suspended → ∃ step ∈ c.graph.steps, c.node = some step.id ∧
    (step.kind = .buttons → ∃ buttons shown,
      step.options = .ok (buttons.map Value.object) ∧ c.Offers buttons shown)

end Conversation

namespace Turn

open Operation (Respects exists_of_perform_bind)

section Visit

variable {t t' : Turn} {step : Step} {recorder : Recorder}

theorem exists_of_perform_shownButton {button value : Value}
    (h : (shownButton button).perform t = (.ok value, t')) :
    t' = t ∧ ∃ fields shown, button = .object fields ∧ value = .object shown ∧
      t.conversation.bindings.Shows fields shown := by
  cases button with
  | object fields =>
      obtain ⟨title, t₁, htitle, h⟩ := exists_of_perform_bind h
      obtain ⟨hwording, rfl⟩ := Operation.eq_of_perform_ofExcept htitle
      obtain ⟨shown, t₁, hfilled, h⟩ := exists_of_perform_bind h
      rw [perform_filled, interpolateText] at hfilled
      cases hinterpolate : interpolate title t.conversation.bindings.context with
      | error fault =>
          rw [hinterpolate] at hfilled
          cases hfilled
      | ok text =>
          rw [hinterpolate] at hfilled
          cases hfilled
          cases h
          exact ⟨rfl, fields, _, rfl, rfl, title, text, hwording, hinterpolate, rfl⟩
  | _ => cases h

/-- Only objects can be shown, and each is shown on its own. -/
theorem exists_of_perform_each_shownButton {listed values : List Value}
    (h : (Operation.each shownButton listed).perform t = (.ok values, t')) :
    t' = t ∧ ∃ buttons shown, listed = buttons.map Value.object ∧
      values = shown.map Value.object ∧
      List.Forall₂ t.conversation.bindings.Shows buttons shown := by
  induction listed generalizing values t' with
  | nil =>
      cases h
      exact ⟨rfl, [], [], rfl, rfl, .nil⟩
  | cons button rest ih =>
      obtain ⟨value, t₁, hfirst, h⟩ := exists_of_perform_bind h
      obtain ⟨more, t₂, hrest, h⟩ := exists_of_perform_bind h
      obtain ⟨rfl, fields, shown, rfl, rfl, hshows⟩ := exists_of_perform_shownButton hfirst
      obtain ⟨rfl, buttons, others, rfl, rfl, hall⟩ := ih hrest
      cases h
      exact ⟨rfl, fields :: buttons, shown :: others, rfl, rfl, .cons hshows hall⟩

/-- What is offered are the choices of the step. -/
theorem offerButtons_eq (hkind : step.kind = .buttons) : offerButtons step = (do
    let body ← filled ((step.setting "body").orElse (.text step.label))
    let listed ← Operation.ofExcept step.options
    let shown ← Operation.each shownButton listed
    let _ ← sayWith .assistant body
      (some [("type", .text "buttons"), ("buttons", .list shown)])) := by
  rw [Step.options_of_buttons hkind, offerButtons]
  by_cases hlisted : (step.setting "buttons").truthy
  · simp only [if_pos hlisted]
  · simp only [if_neg hlisted]
    rfl

theorem offers_of_offerButtons (hkind : step.kind = .buttons)
    (h : (offerButtons step).perform t = (.ok (), t')) :
    ∃ buttons shown, step.options = .ok (buttons.map Value.object) ∧
      t'.conversation.Offers buttons shown := by
  rw [offerButtons_eq hkind] at h
  obtain ⟨body, t₁, hbody, h⟩ := exists_of_perform_bind h
  obtain rfl : t = t₁ := by
    rw [perform_filled] at hbody
    exact congrArg Prod.snd hbody
  obtain ⟨listed, t₁, hread, h⟩ := exists_of_perform_bind h
  obtain ⟨hoptions, rfl⟩ := Operation.eq_of_perform_ofExcept hread
  obtain ⟨values, t₁, hshown, h⟩ := exists_of_perform_bind h
  obtain ⟨rfl, buttons, shown, rfl, rfl, hshows⟩ := exists_of_perform_each_shownButton hshown
  obtain ⟨message, t₂, hsaid, h⟩ := exists_of_perform_bind h
  refine ⟨buttons, shown, hoptions, ?_⟩
  cases body with
  | text content =>
      cases hsaid
      cases h
      exact ⟨hshows, Conversation.lastMetadata_told _ (.mk .assistant content _)⟩
  | _ => cases hsaid

/-- Keeping the result of a step changes nothing about the conversation. -/
theorem conversation_of_record {narrative : String} {suspended : Bool}
    (h : (record recorder step narrative suspended).perform t = (.ok (), t')) :
    t'.conversation = t.conversation := by
  rw [record, Operation.perform_bind_ok (perform_current t)] at h
  split at h
  · exact congrArg (fun ended => ended.2.conversation) h.symm
  · cases recorder with
    | absent | keeping => exact congrArg (fun ended => ended.2.conversation) h.symm
    | failing reason => cases congrArg Prod.fst h

theorem offers_of_visit {b : Bool} (hkind : step.kind = .buttons)
    (h : (visit recorder step).perform t = (.ok b, t')) :
    ∃ buttons shown, step.options = .ok (buttons.map Value.object) ∧
      t'.conversation.Offers buttons shown := by
  obtain ⟨_, t₁, -, h⟩ := exists_of_perform_bind h
  obtain ⟨_, _, hcurrent, h⟩ := exists_of_perform_bind h
  cases hcurrent
  obtain ⟨suspend, t₂, hprocess, h⟩ := exists_of_perform_bind h
  obtain ⟨_, _, hcurrent, h⟩ := exists_of_perform_bind h
  cases hcurrent
  obtain ⟨_, t₃, hrecord, h⟩ := exists_of_perform_bind h
  cases h
  rw [process, hkind] at hprocess
  obtain ⟨_, t₃, hoffer, hprocess⟩ := exists_of_perform_bind hprocess
  cases hprocess
  rw [conversation_of_record hrecord]
  exact offers_of_offerButtons hkind hoffer

end Visit

/-- Begun while the conversation runs, the operation ends with the buttons on offer if it ends at a
step that waits with some. -/
def Settles {α : Type} (graph : Graph) (node : Option String) (operation : Operation Turn α) :
    Prop :=
  ∀ t, At graph node t → (operation.perform t).2.conversation.Displays

section Settles

variable {α β : Type} {graph : Graph} {node : Option String} {t : Turn}

/-- While the conversation runs it does not wait. -/
theorem At.displays (ht : At graph node t) : t.conversation.Displays :=
  fun hsuspended => absurd (hsuspended.symm.trans ht.running) (by decide)

theorem Settles.of_talks {operation : Operation Turn α} (h : Respects Talks operation) :
    Settles graph node operation := fun t ht => ((h t).at ht).displays

theorem Settles.bind {operation : Operation Turn α} {f : α → Operation Turn β}
    (h : Respects Talks operation) (hf : ∀ a, Settles graph node (f a)) :
    Settles graph node (operation >>= f) := by
  intro t ht
  have hat := (h t).at ht
  rw [Operation.perform_bind]
  rcases hp : operation.perform t with ⟨fault | a, t'⟩ <;> rw [hp] at hat
  · exact hat.displays
  · exact hf a t' hat

theorem settles_complete : Settles graph node (moveTo .completed) := by
  intro t ht
  rw [perform_moveTo (by rw [ht.running]; decide)]
  exact fun hsuspended => absurd hsuspended (by decide : RunState.completed ≠ .suspended)

theorem displays_moveTo_suspended {step : Step} (ht : At graph (some step.id) t)
    (hstep : step ∈ graph.steps)
    (hoffers : step.kind = .buttons → ∃ buttons shown,
      step.options = .ok (buttons.map Value.object) ∧ t.conversation.Offers buttons shown) :
    ((moveTo .suspended).perform t).2.conversation.Displays := by
  rw [perform_moveTo (by rw [ht.running]; decide)]
  refine fun _ => ⟨step, ht.graph.symm ▸ hstep, ht.node, fun hkind => ?_⟩
  obtain ⟨buttons, shown, hoptions, hfilled, hsaid⟩ := hoffers hkind
  exact ⟨buttons, shown, hoptions, hfilled, hsaid⟩

theorem settles_walk (recorder : Recorder) (fuel : Nat) {step : Step}
    (hstep : step ∈ graph.steps) (node : Option String) :
    Settles graph node (walk recorder fuel step) := by
  induction fuel generalizing step node with
  | zero => exact .of_talks (.fail _)
  | succ fuel ih =>
      intro t ht
      have hat : At graph (some step.id) ((visit recorder step).perform t).2 :=
        (talks_visit recorder step t).at ⟨ht.running, ht.graph, rfl⟩
      rw [walk]
      rcases hvisit : (visit recorder step).perform t with ⟨fault | waits, t'⟩ <;>
        rw [hvisit] at hat
      · rw [Operation.perform_bind_error hvisit]
        exact hat.displays
      rw [Operation.perform_bind_ok hvisit]
      cases waits with
      | true => exact displays_moveTo_suspended hat hstep fun hkind => offers_of_visit hkind hvisit
      | false =>
          rw [if_neg Bool.false_ne_true, Operation.perform_bind_ok (perform_current t'), hat.graph]
          cases follows : graph.stepAfter? step.id with
          | none => exact settles_complete t' hat
          | some next => exact ih (Graph.mem_steps_of_stepAfter? follows) _ t' hat

theorem settles_walkFrom (recorder : Recorder) {step : Step} (hstep : step ∈ graph.steps)
    (node : Option String) : Settles graph node (walkFrom recorder step) :=
  .bind respects_current fun c => settles_walk recorder c.graph.size hstep node

variable {recorder : Recorder} {step : Step}

theorem settles_follow (choice : Value) :
    Settles graph node (follow recorder (walkFrom recorder) step choice) := by
  intro t ht
  rw [follow, Operation.perform_bind_ok (perform_current t)]
  cases t.conversation.graph.resumeEdge step choice with
  | ok edge =>
      rw [Operation.perform_bind_ok (perform_current t), ht.graph]
      cases hnode : graph.node edge.target with
      | error fault => exact ht.displays
      | ok target => exact settles_walkFrom recorder (Graph.mem_steps_of_node hnode).1 node t ht
  | error fault =>
      cases fault with
      | noPath =>
          refine Settles.bind (talks_announce _) (fun _ => ?_) t ht
          exact .bind (talks_record _ _ _ _) fun _ => settles_complete
      | _ => exact ht.displays

/-- A step that refuses what is typed has no buttons. -/
theorem settles_takeIn (hstep : step ∈ graph.steps) (hkind : step.kind = .waitInput)
    (content : String) (choice : Value) : Settles graph (some step.id) (do
      if ← acceptTyped step content then follow recorder (walkFrom recorder) step choice) := by
  rw [acceptTyped, bind_assoc]
  refine .bind (.ofExcept _) fun fits => ?_
  cases fits with
  | true =>
      rw [if_pos rfl, bind_assoc]
      refine .bind (talks_storeReply step content) fun _ => ?_
      rw [pure_bind]
      exact settles_follow choice
  | false =>
      rw [if_neg Bool.false_ne_true, bind_assoc]
      refine .bind (.ofExcept _) fun refusal => ?_
      rw [bind_assoc]
      refine .bind (talks_say _ _) fun _ t ht => ?_
      simp only [bind_assoc, pure_bind, if_neg Bool.false_ne_true, bind_pure_unit]
      refine displays_moveTo_suspended ht hstep fun hbuttons => ?_
      exact absurd (hkind.symm.trans hbuttons) (by decide)

theorem displays_deliver (hstep : step ∈ graph.steps) (reply : Reply)
    (hsuspended : t.conversation.state = .suspended) (hgraph : t.conversation.graph = graph)
    (hnode : t.conversation.node = some step.id) :
    ((deliver recorder (walkFrom recorder) step reply).perform t).2.conversation.Displays := by
  rw [deliver, Operation.perform_bind_ok (perform_moveTo (by rw [hsuspended]; decide))]
  have hrunning : At graph (some step.id) (t.moved .running) := ⟨rfl, hgraph, hnode⟩
  refine Settles.bind (talks_say .user _) (fun _ => ?_) _ hrunning
  refine .bind (.ofExcept _) fun choice t' ht' => ?_
  split
  · exact settles_takeIn hstep (And.left ‹_›) reply.content choice t' ht'
  · exact settles_follow choice t' ht'

theorem displays_start (hdisplays : t.conversation.Displays) :
    ((start (walkFrom recorder)).perform t).2.conversation.Displays := by
  rw [start, Operation.perform_bind_ok (perform_current t)]
  split
  · exact hdisplays
  · rename_i hidle
    have hidle : t.conversation.state = .idle := not_not.mp hidle
    rw [Operation.perform_bind_ok (perform_moveTo (by rw [hidle]; decide)),
      Operation.perform_bind_snd (by exact fun _ _ => rfl)]
    exact settles_walkFrom recorder t.conversation.graph.trigger_mem_steps _ _ ⟨rfl, rfl, rfl⟩

theorem displays_resume (hdisplays : t.conversation.Displays) (input : Value) :
    ((resume recorder (walkFrom recorder) input).perform t).2.conversation.Displays := by
  rw [resume, Operation.perform_bind_ok (perform_current t)]
  split
  · exact hdisplays
  rename_i hsuspended
  have hsuspended : t.conversation.state = .suspended := not_not.mp hsuspended
  obtain ⟨waits, hwaits, hnode, -⟩ := hdisplays hsuspended
  cases Reply.ofValue input with
  | error fault => exact hdisplays
  | ok reply =>
      rw [Operation.perform_bind_ok (Operation.perform_ofExcept (.ok reply) t), hnode]
      cases hstep : t.conversation.graph.node ((some waits.id).getD "") with
      | error fault => exact hdisplays
      | ok step =>
          obtain ⟨hmem, hid⟩ := Graph.mem_steps_of_node hstep
          rw [Operation.perform_bind_ok (Operation.perform_ofExcept (.ok step) t),
            Operation.perform_bind_snd (by exact fun _ _ => rfl)]
          exact displays_deliver hmem reply hsuspended rfl (hnode.trans (congrArg some hid.symm))

end Settles

end Turn

namespace Conversation

variable {c : Conversation}

/-- Text that is only said leaves the buttons on offer. -/
theorem displays_note (h : c.Displays) (recorder : Recorder) (observer : Observer)
    (content : Value) : (c.meet ⟨.note content, recorder, observer⟩).conversation.Displays := by
  rw [meet, handle_conversation, closed, turn, Operation.perform_map, Turn.note]
  cases content with
  | text content =>
      intro hsuspended
      obtain ⟨step, hstep, hnode, hoffers⟩ := h hsuspended
      refine ⟨step, hstep, hnode, fun hkind => ?_⟩
      obtain ⟨buttons, shown, hoptions, hfilled, hsaid⟩ := hoffers hkind
      refine ⟨buttons, shown, hoptions, hfilled, ?_⟩
      exact (lastMetadata_told c (.mk .system content none)).trans hsaid
  | _ => exact h

theorem displays_meet (h : c.Displays) (occasion : Occasion) :
    (c.meet occasion).conversation.Displays := by
  obtain ⟨request, recorder, observer⟩ := occasion
  cases request with
  | start =>
      rw [meet, handle_conversation, closed_start]
      exact Turn.displays_start h
  | resume input =>
      rw [meet, handle_conversation, closed_resume]
      exact Turn.displays_resume h input
  | note content => exact displays_note h recorder observer content

/-- Whatever is asked of a conversation, it offers buttons where it waits at a step with some. -/
theorem displays_meetAll (h : c.Displays) (occasions : List Occasion) :
    (c.meetAll occasions).1.Displays := by
  induction occasions generalizing c with
  | nil => exact h
  | cons occasion rest ih => exact ih (displays_meet h occasion)

end Conversation

end Workflow
