import Workflow.Proofs.Blind
import Workflow.Proofs.Conversation.Ruled

/-!
# What was said before

A conversation keeps everything that was said in it, but it never looks at it again: the narrative
of a step is made of what was said since the step was reached. `Turn.Recalls` says that a turn is
another one with a past before it. Every part of a turn is blind to the past, so a request, and a
whole run of requests, does the same after a longer past (`Conversation.meetAll_after`).

A reply that a step rejects adds to the past and to nothing else. It can therefore be left out of a
run, and nobody finds out later that it was ever sent.
-/

namespace Workflow

open Operation (Blind)

/-- What was said and told up to some moment. -/
structure Past where
  said : List Message
  told : List Effect := []

/-- The conversation with messages that were said before all of its own. -/
def Conversation.after (said : List Message) (c : Conversation) : Conversation :=
  { c with messages := said ++ c.messages }

namespace Turn

/-- The turn with a past before everything that came to pass in it. -/
def after (past : Past) (t : Turn) : Turn :=
  { t with conversation := t.conversation.after past.said, effects := past.told ++ t.effects }

/-- The second turn is the first one with the past before it. -/
def Recalls (past : Past) (t t' : Turn) : Prop := t' = t.after past

variable {α : Type} {past : Past} {recorder : Recorder}

/-- Looking at the conversation for anything but what was said. -/
theorem blind_current {f : Conversation → Operation Turn α}
    (hsame : ∀ c : Conversation, f (c.after past.said) = f c)
    (hf : ∀ c, Blind (Recalls past) (f c)) : Blind (Recalls past) (current >>= f) := by
  rintro t _ rfl
  rw [Operation.perform_bind_ok (perform_current t), Operation.perform_bind_ok (perform_current _),
    show f (t.after past).conversation = f t.conversation from hsame t.conversation]
  exact hf t.conversation t _ rfl

/-- A change that is the same whatever was said before. -/
theorem blind_change {g : Conversation → Conversation}
    (hg : ∀ c : Conversation, g (c.after past.said) = (g c).after past.said) :
    Blind (Recalls past) (change g) := by
  rintro t _ rfl
  refine ⟨rfl, ?_⟩
  show ({ t.after past with conversation := g (t.conversation.after past.said) } : Turn) = _
  rw [hg]
  rfl

theorem blind_add (effect : Effect) : Blind (Recalls past) (add effect) := by
  rintro t _ rfl
  refine ⟨rfl, ?_⟩
  show ({ t.after past with effects := past.told ++ t.effects ++ [effect] } : Turn) = _
  rw [List.append_assoc]
  rfl

/-- What the observer makes of it comes to nothing. -/
theorem blind_tell (effect : Effect) : Blind (Recalls past) (tell effect) :=
  fun t t' h => blind_add effect t t' h

theorem blind_sayWith (role : Role) (content : Value) (metadata : Option Fields) :
    Blind (Recalls past) (sayWith role content metadata) := by
  cases content with
  | text content =>
      refine .bind (blind_change fun c => ?_) fun _ => ?_
      · simp only [Conversation.after, List.append_assoc]
      · refine blind_current (fun _ => rfl) fun c => ?_
        exact .bind (blind_tell _) fun _ => .pure _
  | _ => exact .fail _

theorem blind_say (role : Role) (content : Value) : Blind (Recalls past) (say role content) :=
  .bind (blind_sayWith role content none) fun _ => .pure _

theorem blind_announce (sentence : String) : Blind (Recalls past) (announce sentence) :=
  blind_say .system _

theorem blind_announceWith (sentence : String → String) (named : Value) :
    Blind (Recalls past) (announceWith sentence named) :=
  .bind (.ofExcept _) fun _ => blind_announce _

theorem blind_moveTo (state : RunState) : Blind (Recalls past) (moveTo state) := by
  refine blind_current (fun _ => rfl) fun c => .ite (fun _ => ?_) fun _ => .pure _
  exact .bind (blind_change fun _ => rfl) fun _ => blind_tell _

theorem blind_filled (v : Value) : Blind (Recalls past) (filled v) :=
  blind_current (fun _ => rfl) fun _ => .ofExcept _

theorem blind_record (step : Step) (narrative : String) (suspended : Bool) :
    Blind (Recalls past) (record recorder step narrative suspended) := by
  refine blind_current (fun _ => rfl) fun c => .ite (fun _ => .pure _) fun _ => ?_
  cases recorder with
  | absent => exact .pure _
  | keeping => exact blind_add _
  | failing reason => exact .bind (blind_add _) fun _ => .fail _

theorem blind_offerButtons (step : Step) : Blind (Recalls past) (offerButtons step) := by
  have hshown (button : Value) : Blind (Recalls past) (shownButton button) := by
    cases button with
    | object fields => exact .bind (.ofExcept _) fun _ => .bind (blind_filled _) fun _ => .pure _
    | _ => exact .fail _
  have hoffer (body : Value) (buttons : List Value) : Blind (Recalls past) (do
      let shown ← Operation.each shownButton buttons
      let _ ← sayWith .assistant body
        (some [("type", .text "buttons"), ("buttons", .list shown)])) :=
    .bind (.each buttons fun button _ => hshown button) fun _ =>
      .bind (blind_sayWith _ _ _) fun _ => .pure _
  refine .bind (blind_filled _) fun body => .ite (fun _ => ?_) fun _ => ?_
  · exact .bind (.ofExcept _) (hoffer body)
  · exact .bind (.pure _) (hoffer body)

theorem blind_setVariable (step : Step) : Blind (Recalls past) (setVariable step) := by
  refine .bind (blind_filled _) fun value => blind_current (fun _ => rfl) fun c => ?_
  exact .bind (.ofExcept _) fun bindings =>
    .bind (blind_change fun _ => rfl) fun _ => blind_announceWith _ _

theorem blind_act (step : Step) : Blind (Recalls past) (act step) := by
  refine .ite (fun _ => ?_) fun _ => .ite (fun _ => blind_setVariable step) fun _ =>
    blind_announceWith _ _
  exact .bind (blind_filled _) fun message => blind_say .assistant message

theorem blind_process (step : Step) : Blind (Recalls past) (process step) := by
  unfold process
  cases step.kind with
  | buttons => exact .bind (blind_offerButtons step) fun _ => .pure _
  | action => exact .bind (blind_act step) fun _ => .pure _
  | tag => exact .bind (blind_filled _) fun _ => .bind (blind_announceWith _ _) fun _ => .pure _
  | stage => exact .bind (blind_filled _) fun _ => .bind (blind_announceWith _ _) fun _ => .pure _
  | waitInput => exact .bind (blind_announceWith _ _) fun _ => .pure _
  | trigger | wait | rule | unknown => exact .bind (blind_announce _) fun _ => .pure _

/-- How much was said before a step moves the mark by as much as it moves what the step says, so
the narrative is the same. -/
theorem blind_visit (step : Step) : Blind (Recalls past) (visit recorder step) := by
  refine .bind (blind_change fun _ => rfl) fun _ => ?_
  rintro t _ rfl
  rw [Operation.perform_bind_ok (perform_current t), Operation.perform_bind_ok (perform_current _)]
  obtain ⟨hsame, hafter⟩ := blind_process step t (t.after past) rfl
  rcases hprocess : (process step).perform t with ⟨fault | suspend, t'⟩ <;>
    rcases hprocess' : (process step).perform (t.after past) with ⟨outcome, t''⟩ <;>
    rw [hprocess, hprocess'] at hsame hafter <;> obtain rfl := hsame <;> obtain rfl := hafter
  · rw [Operation.perform_bind_error hprocess, Operation.perform_bind_error hprocess']
    exact ⟨rfl, rfl⟩
  · rw [Operation.perform_bind_ok hprocess, Operation.perform_bind_ok hprocess',
      Operation.perform_bind_ok (perform_current t'),
      Operation.perform_bind_ok (perform_current (t'.after past))]
    have hsaid : (t'.after past).conversation.messages.drop
        (t.after past).conversation.messages.length =
          t'.conversation.messages.drop t.conversation.messages.length := by
      show (past.said ++ _).drop (past.said ++ _).length = _
      rw [List.length_append, List.drop_length_add_append]
    rw [hsaid]
    exact Blind.bind (blind_record step _ suspend) (fun _ => .pure _) t' _ rfl

theorem blind_walk (fuel : Nat) (step : Step) :
    Blind (Recalls past) (walk recorder fuel step) := by
  induction fuel generalizing step with
  | zero => exact .fail _
  | succ fuel ih =>
      refine .bind (blind_visit step) fun waits => .ite (fun _ => blind_moveTo _) fun _ => ?_
      refine blind_current (fun _ => rfl) fun c => ?_
      cases c.graph.stepAfter? step.id with
      | some next => exact ih next
      | none => exact blind_moveTo _

theorem blind_walkFrom (step : Step) : Blind (Recalls past) (walkFrom recorder step) :=
  blind_current (fun _ => rfl) fun c => blind_walk c.graph.size step

theorem blind_follow (step : Step) (choice : Value) :
    Blind (Recalls past) (follow recorder (walkFrom recorder) step choice) := by
  refine blind_current (fun _ => rfl) fun c => ?_
  cases c.graph.resumeEdge step choice with
  | ok edge =>
      exact blind_current (fun _ => rfl) fun c => .bind (.ofExcept _) fun target =>
        blind_walkFrom target
  | error fault =>
      cases fault with
      | noPath =>
          exact .bind (blind_announce _) fun _ => .bind (blind_record _ _ _) fun _ => blind_moveTo _
      | _ => exact .fail _

theorem blind_storeReply (step : Step) (content : String) :
    Blind (Recalls past) (storeReply step content) := by
  refine .ite (fun _ => blind_current (fun _ => rfl) fun c => ?_) fun _ => .pure _
  exact .bind (.ofExcept _) fun bindings => blind_change fun _ => rfl

theorem blind_acceptTyped (step : Step) (content : String) :
    Blind (Recalls past) (acceptTyped step content) := by
  refine .bind (.ofExcept _) fun fits => .ite (fun _ => ?_) fun _ => ?_
  · exact .bind (blind_storeReply step content) fun _ => .pure _
  · refine .bind (.ofExcept _) fun refusal => .bind (blind_say .system refusal) fun _ => ?_
    exact .bind (blind_moveTo _) fun _ => .pure _

theorem blind_deliver (step : Step) (reply : Reply) :
    Blind (Recalls past) (deliver recorder (walkFrom recorder) step reply) := by
  refine .bind (blind_moveTo _) fun _ => .bind (blind_say .user _) fun _ => ?_
  have hfollow (choice : Value) (accepted : Bool) : Blind (Recalls past)
      (if accepted then follow recorder (walkFrom recorder) step choice else pure ()) :=
    .ite (fun _ => blind_follow step choice) fun _ => .pure _
  refine .bind (.ofExcept _) fun choice => .ite (fun _ => ?_) fun _ => ?_
  · exact .bind (blind_acceptTyped step _) (hfollow choice)
  · exact .bind (.pure _) (hfollow choice)

theorem blind_turn (request : Request) :
    Blind (Recalls past) (Conversation.turn recorder (walkFrom recorder) request) := by
  cases request with
  | start =>
      refine .map _ (blind_current (fun _ => rfl) fun c => .ite (fun _ => .fail _) fun _ => ?_)
      refine .bind (blind_moveTo _) fun _ => .bind (blind_walkFrom _) fun _ => ?_
      exact blind_current (fun _ => rfl) fun _ => .pure _
  | resume input =>
      refine .map _ (blind_current (fun _ => rfl) fun c => .ite (fun _ => .fail _) fun _ => ?_)
      refine .bind (.ofExcept _) fun reply => .bind (.ofExcept _) fun step => ?_
      refine .bind (blind_deliver step reply) fun _ => ?_
      exact blind_current (fun _ => rfl) fun _ => .pure _
  | note content => exact .map _ (blind_sayWith .system content none)

end Turn

namespace Conversation

variable {c : Conversation} {said : List Message}

/-- A request does the same after a longer past. -/
theorem meet_after (said : List Message) (c : Conversation) (occasion : Occasion) :
    (c.after said).meet occasion =
      { c.meet occasion with conversation := (c.meet occasion).conversation.after said } := by
  obtain ⟨request, recorder, observer⟩ := occasion
  have hblind : Blind (Turn.Recalls ⟨said, []⟩) (turn recorder (Turn.walkFrom recorder) request) :=
    Turn.blind_turn request
  obtain ⟨hsame, hafter⟩ := hblind (c.opened observer) ((c.after said).opened observer) rfl
  have hperform : (turn recorder (Turn.walkFrom recorder) request).perform
      ((c.after said).opened observer) =
        ((c.meet ⟨request, recorder, observer⟩).response,
          (c.closed recorder observer request).after ⟨said, []⟩) := Prod.ext hsame.symm hafter
  exact handle_of_perform (c.after said) recorder observer hperform

/-- A run of requests does the same after a longer past. -/
theorem meetAll_after (said : List Message) (c : Conversation) (occasions : List Occasion) :
    (c.after said).meetAll occasions =
      ((c.meetAll occasions).1.after said, (c.meetAll occasions).2) := by
  induction occasions generalizing c with
  | nil => rfl
  | cons occasion rest ih =>
      rw [meetAll, meet_after, ih]
      rfl

end Conversation

/-- What a reply that is rejected adds to what was said. -/
def Reply.rejection (refusal : String) (reply : Reply) : List Message :=
  [⟨.user, reply.shown, none⟩, ⟨.system, refusal, none⟩]

/-- The step rejects the reply of the occasion: it picks no choice, and the rule does not accept
what was typed. -/
structure Step.Rejects (step : Step) (occasion : Occasion) (reply : Reply) : Prop where
  replies : ∃ input, occasion.request = .resume input ∧ Reply.ofValue input = .ok reply
  unpicked : reply.choiceAt step = .ok .null
  unfit : Reply.fits reply.content (step.setting "validation") = .ok false

section Rejected

variable {c : Conversation} {step : Step} {occasion : Occasion} {reply : Reply} {refusal : String}

theorem Turn.perform_deliver_of_rejects {t : Turn} {onward : Step → Operation Turn Unit}
    {recorder : Recorder} (hsuspended : t.conversation.state = .suspended)
    (hkind : step.kind = .waitInput) (hrejects : step.Rejects occasion reply)
    (hrefusal : step.refusal = .ok (.text refusal)) :
    (deliver recorder onward step reply).perform t =
      (.ok (), t.refused reply refusal) := by
  obtain ⟨heard, hheard⟩ : ∃ heard, heard =
    (t.moved .running).told ⟨.user, reply.shown, none⟩ := ⟨_, rfl⟩
  have hrunning : (heard.told ⟨.system, refusal, none⟩).conversation.state = .running := by
    rw [hheard]
    rfl
  have hrefused : (acceptTyped step reply.content).perform heard =
      (.ok false, (heard.told ⟨.system, refusal, none⟩).moved .suspended) := by
    rw [acceptTyped, hrejects.unfit, hrefusal,
      Operation.perform_bind_ok (Operation.perform_ofExcept _ _), if_neg Bool.false_ne_true,
      Operation.perform_bind_ok (Operation.perform_ofExcept _ _),
      Operation.perform_bind_ok (perform_sayText heard .system refusal),
      Operation.perform_bind_ok (perform_moveTo (by rw [hrunning]; decide))]
    rfl
  rw [deliver, Operation.perform_bind_ok (perform_moveTo (by rw [hsuspended]; decide)),
    Operation.perform_bind_ok (perform_sayText _ .user reply.shown), ← hheard, hrejects.unpicked,
    Operation.perform_bind_ok (Operation.perform_ofExcept _ _), if_pos ⟨hkind, rfl⟩,
    Operation.perform_bind_ok hrefused, refused, ← hheard]
  rfl

namespace Conversation

section Waiting

variable (hstep : step ∈ c.graph.steps) (hkind : step.kind = .waitInput)
  (hsuspended : c.state = .suspended) (hnode : c.node = some step.id)
  (hrefusal : step.refusal = .ok (.text refusal))

include hstep hkind hsuspended hnode hrefusal

/-- A reply that is rejected is heard, and it is refused. -/
theorem meet_of_rejects (hrejects : step.Rejects occasion reply) :
    c.meet occasion =
      ⟨.ok (.state .suspended), { c with messages := c.messages ++ reply.rejection refusal },
        [.moved .running, .said step.id ⟨.user, reply.shown, none⟩,
          .said step.id ⟨.system, refusal, none⟩, .moved .suspended]⟩ := by
  obtain ⟨request, recorder, observer⟩ := occasion
  obtain ⟨input, rfl, hreply⟩ := hrejects.replies
  have hwaits := node_of_mem_steps hnode hstep
  have hresume : (turn recorder (Turn.walkFrom recorder) (.resume input)).perform
      (c.opened observer) =
        (.ok (.state .suspended), (c.opened observer).refused reply refusal) := by
    have hopened : (c.opened observer).conversation.state = .suspended := hsuspended
    rw [turn, Operation.perform_map, Turn.perform_resume_of_suspended hopened hwaits hreply,
      Operation.perform_bind_ok
        (Turn.perform_deliver_of_rejects hopened hkind hrejects hrefusal)]
    rfl
  refine (handle_of_perform c recorder observer hresume).trans ?_
  simp [Turn.refused, Turn.moved, Turn.told, opened, hsuspended, hnode, Reply.rejection]

/-- After replies that are rejected the conversation waits as before. -/
theorem meetAll_of_rejects {rejected : List Occasion} {replies : List Reply}
    (hrejected : List.Forall₂ step.Rejects rejected replies) :
    (c.meetAll rejected).1 =
        { c with messages := c.messages ++ replies.flatMap (Reply.rejection refusal) } ∧
      resultsOf (c.meetAll rejected).2 = [] := by
  induction hrejected generalizing c with
  | nil => exact ⟨by simp [meetAll], rfl⟩
  | @cons occasion reply rest replies hfirst hrest ih =>
      have hmeet := meet_of_rejects hstep hkind hsuspended hnode hrefusal hfirst
      obtain ⟨hlast, htold⟩ :=
        ih (c := { c with messages := c.messages ++ reply.rejection refusal }) hstep hsuspended
          hnode
      rw [meetAll, hmeet]
      refine ⟨?_, htold⟩
      rw [hlast, List.flatMap_cons, List.append_assoc]

/-- Replies that a step rejects come to nothing but what is said: afterwards the conversation stands
where it stood, with the same variables, and no result was kept. Whatever is asked of it later, the
answers, the states, the variables, the results that are kept and what is said from then on are
those of the conversation that never got these replies. -/
theorem rejected_leave_no_trace {rejected : List Occasion} {replies : List Reply}
    (hrejected : List.Forall₂ step.Rejects rejected replies) :
    let waiting := (c.meetAll rejected).1
    waiting = { c with messages := c.messages ++ replies.flatMap (Reply.rejection refusal) } ∧
      resultsOf (c.meetAll rejected).2 = [] ∧
      ∀ later : List Occasion,
        let spared := (c.meetAll later).1
        let ended := (waiting.meetAll later).1
        (waiting.meetAll later).2 = (c.meetAll later).2 ∧
          (∃ more, spared.messages = c.messages ++ more ∧
            ended = { spared with messages := waiting.messages ++ more }) ∧
          ∀ next, (ended.meet next).response = (spared.meet next).response ∧
            (ended.meet next).effects = (spared.meet next).effects := by
  intro waiting
  obtain ⟨hwaiting, hresults⟩ := meetAll_of_rejects hstep hkind hsuspended hnode hrefusal hrejected
  refine ⟨hwaiting, hresults, ?_⟩
  intro later spared ended
  -- both conversations are the one in which nothing was said yet, each after a past of its own
  let silent : Conversation := { c with messages := [] }
  have hspared : c.meetAll later =
      ((silent.meetAll later).1.after c.messages, (silent.meetAll later).2) := by
    rw [← meetAll_after]
    simp [silent, after]
  have hended : waiting.meetAll later =
      ((silent.meetAll later).1.after waiting.messages, (silent.meetAll later).2) := by
    rw [← meetAll_after]
    simp [waiting, hwaiting, silent, after]
  have hspared' : spared = (silent.meetAll later).1.after c.messages := congrArg Prod.fst hspared
  have hended' : ended = (silent.meetAll later).1.after waiting.messages :=
    congrArg Prod.fst hended
  refine ⟨by rw [hspared, hended], ⟨(silent.meetAll later).1.messages, ?_, ?_⟩, fun next => ?_⟩
  · rw [hspared']
    rfl
  · rw [hspared', hended']
    rfl
  · rw [hspared', hended', meet_after, meet_after]
    exact ⟨rfl, rfl⟩

end Waiting

/-- Two names are rejected where an address is asked for, and the address is then taken as if it had
come first. -/
theorem rejected_leave_no_trace_before_address :
    let ask : Step :=
      { id := "ask", type := "wait_input"
        config := [("validation", .object [("type", .text "email")]),
          ("store_as", .text "address")] }
    let d : Definition :=
      { steps := [{ id := "t", type := "trigger" }, ask, { id := "b", type := "tag", label := "B" }]
        edges := [{ source := "t", target := "ask" }, { source := "ask", target := "b" }] }
    let graph : Graph := ⟨{}, d, by decide +kernel⟩
    let reply (text : String) : Occasion := ⟨.resume (.text text), .keeping, fun _ => .ok ()⟩
    let made : Conversation := { graph, id := "run", routine := "r" }
    let c := (made.meet ⟨.start, .keeping, fun _ => .ok ()⟩).conversation
    let rejected := [reply "nobody", reply "no one"]
    let waiting := (c.meetAll rejected).1
    let later := [reply "a@b.c"]
    (ask ∈ c.graph.steps ∧ ask.kind = .waitInput ∧ c.state = .suspended ∧ c.node = some ask.id ∧
      ask.refusal = .ok (.text Step.standardRefusal) ∧
      List.Forall₂ ask.Rejects rejected [{ content := "nobody" }, { content := "no one" }]) ∧
      waiting.messages.length = c.messages.length + 4 ∧
      (waiting.meetAll later).2 = (c.meetAll later).2 ∧
      (waiting.meetAll later).1.bindings = (c.meetAll later).1.bindings ∧
      (c.meetAll later).1.bindings = .ofFields [("address", .text "a@b.c")] ∧
      (c.meetAll later).1.state = .completed := by
  intro ask d graph reply made c rejected waiting later
  have hstep : ask ∈ c.graph.steps := by decide +kernel
  have hsuspended : c.state = .suspended := by decide +kernel
  have hnode : c.node = some ask.id := by decide +kernel
  have hrefusal : ask.refusal = .ok (.text Step.standardRefusal) := by decide +kernel
  have hrejects (text : String) (hunpicked : Reply.choiceAt ask { content := text } = .ok .null)
      (hunfit : Reply.fits text (ask.setting "validation") = .ok false) :
      ask.Rejects (reply text) { content := text } := ⟨⟨.text text, rfl, rfl⟩, hunpicked, hunfit⟩
  have hrejected : List.Forall₂ ask.Rejects rejected
      [{ content := "nobody" }, { content := "no one" }] := by
    refine .cons (hrejects "nobody" ?_ ?_) (.cons (hrejects "no one" ?_ ?_) .nil) <;>
      decide +kernel
  obtain ⟨hwaiting, -, hlater⟩ :=
    rejected_leave_no_trace hstep rfl hsuspended hnode hrefusal hrejected
  obtain ⟨htold, ⟨more, -, hended⟩, -⟩ := hlater later
  refine ⟨⟨hstep, rfl, hsuspended, hnode, hrefusal, hrejected⟩, ?_, htold, ?_, ?_, ?_⟩
  · rw [show waiting = _ from hwaiting]
    simp [Reply.rejection]
  · rw [show (waiting.meetAll later).1 = _ from hended]
  · decide +kernel
  · decide +kernel

end Conversation

end Rejected

end Workflow
