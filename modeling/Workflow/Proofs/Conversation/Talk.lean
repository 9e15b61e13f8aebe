import Workflow.Conversation.Turn
import Workflow.Proofs.Operation

/-!
# What a step can do to a conversation

A turn changes where something is said, where the state changes, where a result is kept and where
variables are set. Everything else only looks, so a preorder on turns has to be looked at in these
places alone: the lemmas `respects_` say so for each part of a turn.

Carrying out a step only talks: it says messages, keeps results and sets variables, and observers
are told of exactly the messages that are said, in their order. The state of the conversation and
the step it stands at stay as they are. `Turn.Talks` states this between two moments of a turn.

The work of the step itself does even less. It keeps no result, and what it says is said at the step
in the conversation's own name. This is `Turn.Speaks`, which every part of a step is shown to
respect, also where a fault ends it halfway. `Turn.Voice` is what a step may say.
-/

namespace Workflow

namespace Effect

/-- The state an effect tells of. -/
def state? : Effect → Option RunState
  | .moved state => some state
  | _ => none

/-- The message an effect tells of. -/
def message? : Effect → Option Message
  | .said _ message => some message
  | _ => none

/-- The result an effect tells of. -/
def result? : Effect → Option (Step × StepResult)
  | .recorded step result => some (step, result)
  | _ => none

end Effect

/-- The states that were told. -/
def statesOf (effects : List Effect) : List RunState := effects.filterMap Effect.state?

/-- The messages that were told. -/
def messagesOf (effects : List Effect) : List Message := effects.filterMap Effect.message?

/-- The results that were handed over to be kept. -/
def resultsOf (effects : List Effect) : List (Step × StepResult) :=
  effects.filterMap Effect.result?

section Effects

@[simp] theorem statesOf_append (first rest : List Effect) :
    statesOf (first ++ rest) = statesOf first ++ statesOf rest := List.filterMap_append

@[simp] theorem messagesOf_append (first rest : List Effect) :
    messagesOf (first ++ rest) = messagesOf first ++ messagesOf rest := List.filterMap_append

@[simp] theorem statesOf_said (node : String) (said : List Message) :
    statesOf (said.map (.said node)) = [] := by
  induction said with
  | nil => rfl
  | cons message rest ih => exact ih

@[simp] theorem messagesOf_said (node : String) (said : List Message) :
    messagesOf (said.map (.said node)) = said := by
  induction said with
  | nil => rfl
  | cons message rest ih => exact congrArg (message :: ·) ih

end Effects

namespace Turn

open Operation (Respects)

@[simp] theorem perform_current (t : Turn) : current.perform t = (.ok t.conversation, t) := rfl

theorem perform_filled (t : Turn) (v : Value) :
    (filled v).perform t = (interpolateText t.conversation.bindings.context v, t) := by
  rw [filled, Operation.perform_bind_ok (perform_current t)]
  rfl

/-- The observer is handed exactly the effects that are kept, up to the one it is told of. What it
makes of them is dropped. -/
theorem perform_tell (effect : Effect) (t : Turn) :
    let kept : Turn := { t with effects := t.effects ++ [effect] }
    (tell effect).perform t =
      (do let _ ← (Operation.ofExcept (t.observer kept.effects)).attempt).perform kept := rfl

/-- The turn after the conversation went into a state. -/
def moved (t : Turn) (state : RunState) : Turn :=
  { t with conversation := { t.conversation with state }, effects := t.effects ++ [.moved state] }

theorem perform_moveTo {t : Turn} {state : RunState} (h : t.conversation.state ≠ state) :
    (moveTo state).perform t = (.ok (), t.moved state) := by
  rw [moveTo, Operation.perform_bind_ok (perform_current t), if_pos h]
  exact perform_tell (.moved state) { t with conversation := { t.conversation with state } }

/-- The turn after a message was said. -/
def told (t : Turn) (message : Message) : Turn :=
  { t with
    conversation := { t.conversation with messages := t.conversation.messages ++ [message] }
    effects := t.effects ++ [.said (t.conversation.node.getD "") message] }

theorem perform_sayText (t : Turn) (role : Role) (content : String) :
    (say role (.text content)).perform t = (.ok (), t.told ⟨role, content, none⟩) := rfl

/-- The turn after the result of a step was kept. -/
def recorded (t : Turn) (step : Step) (result : StepResult) : Turn :=
  { t with effects := t.effects ++ [.recorded step result] }

section Parts

variable {R : Turn → Turn → Prop} [IsPreorder Turn R] {step : Step}

theorem respects_current : Respects R current := .bind .get fun _ => .pure _

theorem respects_filled (v : Value) : Respects R (filled v) :=
  .bind respects_current fun _ => .ofExcept _

theorem respects_shownButton (button : Value) : Respects R (shownButton button) := by
  cases button with
  | object fields => exact .bind (.ofExcept _) fun _ => .bind (respects_filled _) fun _ => .pure _
  | _ => exact .fail _

theorem respects_sayWith {role : Role} {metadata : Option Fields}
    (h : ∀ t content, R t (t.told ⟨role, content, metadata⟩)) (content : Value) :
    Respects R (sayWith role content metadata) := by
  cases content with
  | text content => exact fun t => h t content
  | _ => exact .fail _

theorem respects_say {role : Role} (h : ∀ t content, R t (t.told ⟨role, content, none⟩))
    (content : Value) : Respects R (say role content) :=
  .bind (respects_sayWith h content) fun _ => .pure _

omit [IsPreorder Turn R] in
theorem respects_announce {sentence : String} (h : ∀ t, R t (t.told ⟨.system, sentence, none⟩)) :
    Respects R (announce sentence) := fun t => h t

theorem respects_announceWith {sentence : String → String}
    (h : ∀ words t, R t (t.told ⟨.system, sentence words, none⟩)) (named : Value) :
    Respects R (announceWith sentence named) :=
  .bind (.ofExcept _) fun words => respects_announce (h words)

theorem respects_offerButtons
    (h : ∀ t content metadata, R t (t.told ⟨.assistant, content, metadata⟩)) :
    Respects R (offerButtons step) := by
  have hoffer (body : Value) (buttons : List Value) : Respects R (do
      let shown ← Operation.each shownButton buttons
      let _ ← sayWith .assistant body
        (some [("type", .text "buttons"), ("buttons", .list shown)])) :=
    .bind (.each respects_shownButton buttons) fun _ =>
      .bind (respects_sayWith (fun t content => h t content _) _) fun _ => .pure _
  refine .bind (respects_filled _) fun body => .ite (fun _ => ?_) fun _ => ?_
  · exact .bind (.ofExcept _) (hoffer body)
  · exact .bind (.pure _) (hoffer body)

theorem respects_moveTo {state : RunState} (h : ∀ t, R t (t.moved state)) :
    Respects R (moveTo state) :=
  .bind respects_current fun _ => .ite (fun _ t => h t) fun _ => .pure _

theorem respects_record {recorder : Recorder} (h : ∀ t result, R t (t.recorded step result))
    (narrative : String) (suspended : Bool) :
    Respects R (record recorder step narrative suspended) := by
  refine .bind respects_current fun c => .ite (fun _ => .pure _) fun _ => ?_
  cases recorder with
  | absent => exact .pure _
  | keeping => exact fun t => h t _
  | failing reason => exact .bind (fun t => h t _) fun _ => .fail _

end Parts

/-- From one moment of a turn to another there was only talk. -/
def Talks (t t' : Turn) : Prop :=
  ∃ more bindings, statesOf more = [] ∧ t'.effects = t.effects ++ more ∧
    t'.conversation = { t.conversation with
      messages := t.conversation.messages ++ messagesOf more, bindings }

namespace Talks

theorem refl (t : Turn) : Talks t t :=
  ⟨[], t.conversation.bindings, rfl, by simp, by simp [messagesOf]⟩

theorem trans {t t' t'' : Turn} (first : Talks t t') (rest : Talks t' t'') : Talks t t'' := by
  obtain ⟨more, bindings, hstates, heffects, hconversation⟩ := first
  obtain ⟨more', bindings', hstates', heffects', hconversation'⟩ := rest
  refine ⟨more ++ more', bindings', by simp [hstates, hstates'], ?_, ?_⟩
  · rw [heffects', heffects, List.append_assoc]
  · rw [hconversation', hconversation, messagesOf_append, List.append_assoc]

instance : IsPreorder Turn Talks where
  refl := refl
  trans _ _ _ := trans

variable {t t' : Turn}

theorem graph_eq (h : Talks t t') : t'.conversation.graph = t.conversation.graph := by
  obtain ⟨_, _, _, _, hconversation⟩ := h
  rw [hconversation]

theorem state_eq (h : Talks t t') : t'.conversation.state = t.conversation.state := by
  obtain ⟨_, _, _, _, hconversation⟩ := h
  rw [hconversation]

theorem node_eq (h : Talks t t') : t'.conversation.node = t.conversation.node := by
  obtain ⟨_, _, _, _, hconversation⟩ := h
  rw [hconversation]

end Talks

/-- From one moment of a turn to another the conversation only spoke: it set variables, and at the
step where it stands it said messages that a step may say. -/
def Speaks (voice : Message → Prop) (t t' : Turn) : Prop :=
  ∃ said bindings, (∀ message ∈ said, voice message) ∧
    t'.effects = t.effects ++ said.map (.said (t.conversation.node.getD "")) ∧
    t'.conversation = { t.conversation with
      messages := t.conversation.messages ++ said, bindings }

namespace Speaks

variable {voice : Message → Prop}

theorem refl (t : Turn) : Speaks voice t t :=
  ⟨[], t.conversation.bindings, nofun, by simp, by simp⟩

theorem trans {t t' t'' : Turn} (first : Speaks voice t t') (rest : Speaks voice t' t'') :
    Speaks voice t t'' := by
  obtain ⟨said, bindings, hvoice, heffects, hconversation⟩ := first
  obtain ⟨said', bindings', hvoice', heffects', hconversation'⟩ := rest
  refine ⟨said ++ said', bindings', fun message hmem => ?_, ?_, ?_⟩
  · exact (List.mem_append.mp hmem).elim (hvoice message) (hvoice' message)
  · rw [heffects', heffects, hconversation, List.map_append, List.append_assoc]
  · rw [hconversation', hconversation, List.append_assoc]

instance : IsPreorder Turn (Speaks voice) where
  refl := refl
  trans _ _ _ := trans

theorem talks {t t' : Turn} (h : Speaks voice t t') : Talks t t' := by
  obtain ⟨said, bindings, -, heffects, hconversation⟩ := h
  exact ⟨_, bindings, statesOf_said _ said, heffects, by rw [hconversation, messagesOf_said]⟩

end Speaks

section Speaks

variable {voice : Message → Prop}

theorem speaks_setBindings (bindings : Variables) :
    Respects (Speaks voice) (change fun c => { c with bindings }) :=
  fun t => ⟨[], bindings, nofun, (List.append_nil _).symm, by simp [change]⟩

theorem speaks_told {message : Message} (h : voice message) (t : Turn) :
    Speaks voice t (t.told message) :=
  ⟨[message], t.conversation.bindings, fun _ hmem => List.mem_singleton.mp hmem ▸ h, rfl, rfl⟩

theorem speaks_say (role : Role) (h : ∀ content, voice ⟨role, content, none⟩) (content : Value) :
    Respects (Speaks voice) (say role content) :=
  respects_say (fun t content => speaks_told (h content) t) content

theorem speaks_announce {sentence : String} (h : voice ⟨.system, sentence, none⟩) :
    Respects (Speaks voice) (announce sentence) := respects_announce (speaks_told h)

theorem speaks_announceWith {sentence : String → String}
    (h : ∀ words, voice ⟨.system, sentence words, none⟩) (named : Value) :
    Respects (Speaks voice) (announceWith sentence named) :=
  respects_announceWith (fun words => speaks_told (h words)) named

/-- Steps that wait for nobody may say anything in the conversation's own name. -/
theorem speaks_act (step : Step) (h : ∀ message, message.role ≠ .user → voice message) :
    Respects (Speaks voice) (act step) := by
  refine .ite (fun _ => ?_) fun _ => .ite (fun _ => ?_) fun _ => ?_
  · exact .bind (respects_filled _) fun message => speaks_say .assistant (fun _ => h _ nofun) message
  · refine .bind (respects_filled _) fun value => .bind respects_current fun c => ?_
    refine .bind (.ofExcept _) fun bindings => ?_
    exact .bind (speaks_setBindings bindings) fun _ => speaks_announceWith (fun _ => h _ nofun) _
  · exact speaks_announceWith (fun _ => h _ nofun) _

theorem speaks_storeReply (step : Step) (content : String) :
    Respects (Speaks voice) (storeReply step content) := by
  refine .ite (fun _ => ?_) fun _ => .pure _
  refine .bind respects_current fun c => .bind (.ofExcept _) fun bindings => ?_
  exact speaks_setBindings bindings

end Speaks

/-- The message that ends a conversation without a path. -/
def pathless : Message := ⟨.system, noPathNotice, none⟩

/-- What may be said while a step is carried out. A step that waits for a person never says what is
said when a reply leads nowhere. -/
def Voice (step : Step) (message : Message) : Prop :=
  message.role ≠ .user ∧ (step.interactive = true → message ≠ pathless)

theorem waiting_ne_noPathNotice (timeout : String) :
    "Waiting for input (" ++ timeout ++ ")..." ≠ noPathNotice := by
  intro h
  have hfirst := congrArg (fun s => s.toList.head?) h
  simp [noPathNotice] at hfirst

theorem speaks_process (step : Step) : Respects (Speaks (Voice step)) (process step) := by
  have hflows (kind : StepKind) (hkind : step.kind = kind) (hflows : kind.interactive = false)
      (message : Message) (own : message.role ≠ .user) : Voice step message := by
    refine ⟨own, fun waits => ?_⟩
    rw [Step.interactive, hkind, hflows] at waits
    cases waits
  unfold process
  cases hkind : step.kind with
  | buttons =>
      refine .bind (respects_offerButtons fun t _ _ => speaks_told ⟨nofun, fun _ => ?_⟩ t) fun _ =>
        .pure _
      exact fun h => nomatch congrArg Message.role h
  | waitInput =>
      refine .bind (speaks_announceWith (fun words => ⟨nofun, fun _ h => ?_⟩) _) fun _ => .pure _
      exact waiting_ne_noPathNotice _ (congrArg Message.content h)
  | action =>
      exact .bind (speaks_act step (hflows .action hkind rfl)) fun _ => .pure _
  | tag =>
      exact .bind (respects_filled _) fun _ =>
        .bind (speaks_announceWith (fun _ => hflows .tag hkind rfl _ nofun) _) fun _ => .pure _
  | stage =>
      exact .bind (respects_filled _) fun _ =>
        .bind (speaks_announceWith (fun _ => hflows .stage hkind rfl _ nofun) _) fun _ => .pure _
  | trigger =>
      exact .bind (speaks_announce (hflows .trigger hkind rfl _ nofun)) fun _ => .pure _
  | wait => exact .bind (speaks_announce (hflows .wait hkind rfl _ nofun)) fun _ => .pure _
  | rule => exact .bind (speaks_announce (hflows .rule hkind rfl _ nofun)) fun _ => .pure _
  | unknown => exact .bind (speaks_announce (hflows .unknown hkind rfl _ nofun)) fun _ => .pure _

theorem talks_told (message : Message) (t : Turn) : Talks t (t.told message) :=
  (@speaks_told (fun _ => True) message trivial t).talks

theorem talks_sayWith (role : Role) (content : Value) (metadata : Option Fields) :
    Respects Talks (sayWith role content metadata) :=
  respects_sayWith (fun t _ => talks_told _ t) content

theorem talks_say (role : Role) (content : Value) : Respects Talks (say role content) :=
  respects_say (fun t _ => talks_told _ t) content

theorem talks_announce (sentence : String) : Respects Talks (announce sentence) :=
  respects_announce (talks_told _)

theorem talks_recorded (t : Turn) (step : Step) (result : StepResult) :
    Talks t (t.recorded step result) := by
  refine ⟨[.recorded step result], t.conversation.bindings, rfl, rfl, ?_⟩
  rw [show messagesOf [.recorded step result] = [] from rfl, List.append_nil]
  rfl

theorem talks_record (recorder : Recorder) (step : Step) (narrative : String) (suspended : Bool) :
    Respects Talks (record recorder step narrative suspended) :=
  respects_record (fun t result => talks_recorded t step result) narrative suspended

theorem talks_process (step : Step) : Respects Talks (process step) :=
  .imp Speaks.talks (speaks_process step)

/-- The answer is whether the step waits. -/
theorem answer_process {step : Step} {t t' : Turn} {b : Bool}
    (h : (process step).perform t = (.ok b, t')) : b = step.interactive := by
  unfold process at h
  cases hkind : step.kind <;> rw [hkind] at h
  case tag =>
    obtain ⟨_, _, _, h⟩ := Operation.exists_of_perform_bind h
    exact Operation.eq_of_perform_bind_pure h
  case stage =>
    obtain ⟨_, _, _, h⟩ := Operation.exists_of_perform_bind h
    exact Operation.eq_of_perform_bind_pure h
  all_goals exact Operation.eq_of_perform_bind_pure h

/-- Reaching a step and carrying it out is only talk once the step has been reached. -/
theorem talks_visit (recorder : Recorder) (step : Step) (t : Turn) :
    Talks { t with conversation := { t.conversation with node := some step.id } }
      ((visit recorder step).perform t).2 := by
  have hrest : Respects Talks (do
      let mark := (← current).messages.length
      let suspend ← process step
      let said := (← current).messages.drop mark
      record recorder step (narrativeOf said) suspend
      pure suspend) :=
    .bind respects_current fun _ => .bind (talks_process step) fun _ => .bind respects_current fun _ =>
      .bind (talks_record _ _ _ _) fun _ => .pure _
  exact hrest _

theorem answer_visit {recorder : Recorder} {step : Step} {t t' : Turn} {b : Bool}
    (h : (visit recorder step).perform t = (.ok b, t')) : b = step.interactive := by
  obtain ⟨_, _, _, h⟩ := Operation.exists_of_perform_bind h
  obtain ⟨_, _, _, h⟩ := Operation.exists_of_perform_bind h
  obtain ⟨answer, _, hprocess, h⟩ := Operation.exists_of_perform_bind h
  obtain ⟨_, _, _, h⟩ := Operation.exists_of_perform_bind h
  obtain ⟨_, _, _, h⟩ := Operation.exists_of_perform_bind h
  cases h
  exact answer_process hprocess

theorem talks_storeReply (step : Step) (content : String) :
    Respects Talks (storeReply step content) :=
  .imp Speaks.talks (@speaks_storeReply (fun _ => True) step content)

end Turn

end Workflow
