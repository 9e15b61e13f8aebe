import Workflow.Proofs.Conversation.Run

/-!
# Replies to a step with a rule

A step that waits for input may set a rule for what is typed. A reply gets past the step in three
ways only: the rule accepts what was typed, the typed text is the title of a choice the step offers,
or the reply names a choice by an id. The id is not compared with anything, so one that stands for
no choice and for no edge gets past the rule as well. Every other reply is refused, and a refusal
changes nothing but what was said.
-/

namespace Workflow

/-- Only an object has fields. -/
theorem Value.eq_object_of_fieldsOf {v : Value} {fields : Fields} (h : v.fieldsOf = .ok fields) :
    v = .object fields := by
  cases v with
  | object found => rw [fieldsOf, Except.ok.injEq] at h; rw [h]
  | _ => cases h

namespace Reply

/-- The title of an option, as it is compared with what is typed. -/
def titleOf (option : Fields) : String :=
  Text.folded ((Dict.get? option "title").getD (.text "")).display

/-- What is typed is the title of a choice the step offers, blanks around it and case aside. A choice
without an id cannot be picked. -/
def Titles (reply : Reply) (step : Step) : Prop :=
  Text.folded reply.content ≠ "" ∧ ∃ options, step.options = .ok options ∧
    ∃ option, Value.object option ∈ options ∧ titleOf option = Text.folded reply.content ∧
      Fields.read option "id" ≠ .null

/-- The reply names a choice by an id. -/
def Chooses (reply : Reply) : Prop := ∃ choice, reply.choice = some choice ∧ choice ≠ ""

variable {reply : Reply} {step : Step} {choice : Value}

/-- What is picked is one of the options. -/
theorem exists_of_pick {wanted : String} {options : List Value}
    (h : pick wanted options = .ok choice) (hsome : choice ≠ .null) :
    ∃ option, Value.object option ∈ options ∧ titleOf option = wanted ∧
      Fields.read option "id" ≠ .null := by
  induction options with
  | nil =>
      rw [pick, Except.ok.injEq] at h
      exact absurd h.symm hsome
  | cons first rest ih =>
      rw [pick] at h
      cases hfields : first.fieldsOf with
      | error fault => simp only [hfields, bind, Except.bind, reduceCtorEq] at h
      | ok fields =>
          obtain rfl : first = .object fields := Value.eq_object_of_fieldsOf hfields
          obtain ⟨_, htitled, h⟩ := exists_of_bind_eq_ok h
          obtain rfl := Except.ok.inj (hfields.symm.trans htitled)
          obtain ⟨title, htitle, h⟩ := exists_of_bind_eq_ok h
          obtain ⟨-, rfl⟩ := Value.wording_eq_ok_iff.mp htitle
          split at h
          · refine ⟨fields, List.mem_cons_self, ‹_›, ?_⟩
            rwa [Except.ok.inj h]
          · obtain ⟨option, hmem, hpicked⟩ := ih h
            exact ⟨option, List.mem_cons_of_mem _ hmem, hpicked⟩

/-- A choice is picked by its id or by its title. -/
theorem chooses_or_titles (h : reply.choiceAt step = .ok choice) (hsome : choice ≠ .null) :
    reply.Chooses ∨ reply.Titles step := by
  have htyped (h : choiceAt.typed step reply = .ok choice) : reply.Titles step := by
    unfold choiceAt.typed at h
    dsimp only at h
    split at h
    · cases h; exact absurd rfl hsome
    · cases hoptions : step.options with
      | error fault => rw [hoptions] at h; cases h
      | ok options =>
          rw [hoptions] at h
          exact ⟨‹_›, options, hoptions, exists_of_pick h hsome⟩
  unfold choiceAt at h
  split at h
  · split at h
    · exact .inl ⟨_, ‹_›, ‹_›⟩
    · exact .inr (htyped h)
  · exact .inr (htyped h)

end Reply

namespace Turn

/-- What is said is a text, or saying it fails. -/
theorem exists_of_perform_say {t t' : Turn} {role : Role} {content : Value}
    (h : (say role content).perform t = (.ok (), t')) :
    ∃ text, content = .text text ∧ t' = t.told ⟨role, text, none⟩ := by
  cases content with
  | text text => exact ⟨text, rfl, (congrArg Prod.snd h).symm⟩
  | _ => cases congrArg Prod.fst h

/-- A typed reply the rule does not accept is refused, and then the conversation waits again. -/
theorem perform_acceptTyped_of_unfit {t t' : Turn} {step : Step} {content : String}
    {accepted : Bool} (hrunning : t.conversation.state = .running)
    (h : (acceptTyped step content).perform t = (.ok accepted, t'))
    (hunfit : Reply.fits content (step.setting "validation") ≠ .ok true) :
    ∃ text, step.refusal = .ok (.text text) ∧ accepted = false ∧
      t' = (t.told ⟨.system, text, none⟩).moved .suspended := by
  rw [acceptTyped] at h
  obtain ⟨fits, t₁, hchecked, h⟩ := Operation.exists_of_perform_bind h
  obtain ⟨hfits, rfl⟩ := Operation.eq_of_perform_ofExcept hchecked
  obtain rfl : fits = false := by
    cases fits with
    | true => exact absurd hfits hunfit
    | false => rfl
  rw [if_neg Bool.false_ne_true] at h
  obtain ⟨refusal, t₁, hread, h⟩ := Operation.exists_of_perform_bind h
  obtain ⟨hrefusal, rfl⟩ := Operation.eq_of_perform_ofExcept hread
  obtain ⟨_, t₁, hsay, h⟩ := Operation.exists_of_perform_bind h
  obtain ⟨text, rfl, rfl⟩ := exists_of_perform_say hsay
  rw [Operation.perform_bind_ok (perform_moveTo (by
    change t.conversation.state ≠ _; rw [hrunning]; decide))] at h
  obtain ⟨hfalse, rfl⟩ := Prod.mk.inj h
  cases hfalse
  exact ⟨text, hrefusal, rfl, rfl⟩

/-- The turn after a reply was heard and refused. -/
def refused (t : Turn) (reply : Reply) (refusal : String) : Turn :=
  (((t.moved .running).told ⟨.user, reply.shown, none⟩).told ⟨.system, refusal, none⟩).moved
    .suspended

/-- A reply that the rule does not accept and that picks no choice is refused. -/
theorem perform_deliver_of_unfit {recorder : Recorder} {onward : Step → Operation Turn Unit}
    {t t' : Turn} {step : Step} {reply : Reply} (hkind : step.kind = .waitInput)
    (hsuspended : t.conversation.state = .suspended)
    (h : (deliver recorder onward step reply).perform t = (.ok (), t'))
    (hunfit : Reply.fits reply.content (step.setting "validation") ≠ .ok true)
    (htitle : ¬ reply.Titles step) (hchoice : ¬ reply.Chooses) :
    ∃ text, step.refusal = .ok (.text text) ∧
      t' = t.refused reply text := by
  rw [deliver, Operation.perform_bind_ok (perform_moveTo (by rw [hsuspended]; decide)),
    Operation.perform_bind_ok (perform_sayText _ _ _)] at h
  obtain ⟨choice, t₁, hfound, h⟩ := Operation.exists_of_perform_bind h
  obtain ⟨hpicked, rfl⟩ := Operation.eq_of_perform_ofExcept hfound
  obtain rfl : choice = .null := by
    by_contra hsome
    exact (Reply.chooses_or_titles hpicked hsome).elim hchoice htitle
  rw [if_pos ⟨hkind, rfl⟩] at h
  obtain ⟨accepted, t₂, haccept, h⟩ := Operation.exists_of_perform_bind h
  obtain ⟨text, hrefusal, rfl, rfl⟩ := perform_acceptTyped_of_unfit rfl haccept hunfit
  exact ⟨text, hrefusal, (congrArg Prod.snd h).symm⟩

end Turn

namespace Conversation

variable {c : Conversation} {step : Step}

/-- A reply that a waiting conversation takes without a fault is delivered to the step it waits
at. -/
theorem exists_of_meet_resume {recorder : Recorder} {observer : Observer} {input : Value}
    {response : Response} (hsuspended : c.state = .suspended) (hnode : c.node = some step.id)
    (hstep : step ∈ c.graph.steps)
    (h : (c.meet ⟨.resume input, recorder, observer⟩).response = .ok response) :
    ∃ reply t, Reply.ofValue input = .ok reply ∧
      (Turn.deliver recorder (Turn.walkFrom recorder) step reply).perform (c.opened observer) =
        (.ok (), t) ∧
      c.meet ⟨.resume input, recorder, observer⟩ =
        ⟨.ok (.state t.conversation.state), t.conversation, t.effects⟩ := by
  have hwaits := node_of_mem_steps hnode hstep
  rcases hresume : (Turn.resume recorder (Turn.walkFrom recorder) input).perform
    (c.opened observer) with ⟨outcome, t⟩
  have hmeet : c.meet ⟨.resume input, recorder, observer⟩ =
      ⟨outcome.map .state, t.conversation, t.effects⟩ :=
    handle_of_perform c recorder observer (by rw [turn, Operation.perform_map, hresume])
  rw [hmeet] at h ⊢
  obtain ⟨state, rfl⟩ : ∃ state, outcome = .ok state := by
    cases outcome with
    | error fault => cases h
    | ok state => exact ⟨state, rfl⟩
  rw [Turn.resume, Operation.perform_bind_ok (Turn.perform_current _),
    if_neg (by exact not_not.mpr hsuspended)] at hresume
  obtain ⟨reply, t₁, hread, hresume⟩ := Operation.exists_of_perform_bind hresume
  obtain ⟨hreply, rfl⟩ := Operation.eq_of_perform_ofExcept hread
  obtain ⟨waiting, t₁, hnext, hresume⟩ := Operation.exists_of_perform_bind hresume
  obtain ⟨hfound, rfl⟩ := Operation.eq_of_perform_ofExcept hnext
  obtain rfl : waiting = step := Except.ok.inj (hfound.symm.trans hwaits)
  obtain ⟨_, t₁, hdeliver, hlook⟩ := Operation.exists_of_perform_bind hresume
  obtain ⟨hstate, rfl⟩ := Prod.mk.inj hlook
  obtain rfl := Except.ok.inj hstate
  exact ⟨reply, t₁, hreply, hdeliver, rfl⟩

/-- A typed reply gets past a step with a rule only if the rule accepts it or it picks a choice.
Otherwise the conversation still waits at the step, with the same variables, and nothing came of the
reply but that it was said and refused. -/
theorem waits_unless_accepted (hsuspended : c.state = .suspended) (hnode : c.node = some step.id)
    (hstep : step ∈ c.graph.steps) (hkind : step.kind = .waitInput) (input : Value)
    (recorder : Recorder) (observer : Observer) {response : Response}
    (hanswered : (c.meet ⟨.resume input, recorder, observer⟩).response = .ok response) :
    let outcome := c.meet ⟨.resume input, recorder, observer⟩
    ∃ reply, Reply.ofValue input = .ok reply ∧
      (Reply.fits reply.content (step.setting "validation") = .ok true ∨ reply.Titles step ∨
        reply.Chooses ∨
        ∃ refusal, step.refusal = .ok (.text refusal) ∧ response = .state .suspended ∧
          outcome.conversation = { c with
            messages := c.messages ++ [⟨.user, reply.shown, none⟩, ⟨.system, refusal, none⟩] } ∧
          resultsOf outcome.effects = []) := by
  intro outcome
  obtain ⟨reply, t, hreply, hdeliver, hmeet⟩ :=
    exists_of_meet_resume hsuspended hnode hstep hanswered
  refine ⟨reply, hreply, ?_⟩
  by_cases hfits : Reply.fits reply.content (step.setting "validation") = .ok true
  · exact .inl hfits
  by_cases htitle : reply.Titles step
  · exact .inr (.inl htitle)
  by_cases hchoice : reply.Chooses
  · exact .inr (.inr (.inl hchoice))
  obtain ⟨refusal, hrefusal, rfl⟩ :=
    Turn.perform_deliver_of_unfit hkind hsuspended hdeliver hfits htitle hchoice
  refine .inr (.inr (.inr ⟨refusal, hrefusal, ?answer, ?conversation, ?results⟩))
  case answer =>
    rw [hmeet] at hanswered
    exact (Except.ok.inj hanswered).symm
  case conversation =>
    change (c.meet _).conversation = _
    rw [hmeet]
    simp [Turn.refused, Turn.moved, Turn.told, opened, hsuspended]
  case results =>
    change resultsOf (c.meet _).effects = _
    rw [hmeet]
    rfl

/-- A name is no address: the reply is refused. -/
theorem waits_unless_accepted_at_address :
    let ask : Step :=
      { id := "ask", type := "wait_input"
        config := [("validation", .object [("type", .text "email")])] }
    let d : Definition :=
      { steps := [{ id := "t", type := "trigger" }, ask], edges := [{ source := "t", target := "ask" }] }
    let graph : Graph := ⟨{}, d, by decide +kernel⟩
    let observer : Observer := fun _ => .ok ()
    let made : Conversation := { graph, id := "run" }
    let c := (made.meet ⟨.start, .absent, observer⟩).conversation
    let outcome := c.meet ⟨.resume (.text "nobody"), .absent, observer⟩
    c.state = .suspended ∧ c.node = some ask.id ∧ ask ∈ c.graph.steps ∧ ask.kind = .waitInput ∧
      outcome.response = .ok (.state .suspended) ∧
      outcome.conversation = { c with messages := c.messages ++
        [⟨.user, "nobody", none⟩, ⟨.system, Step.standardRefusal, none⟩] } := by
  intro ask d graph observer made c outcome
  have hsuspended : c.state = .suspended := by decide +kernel
  have hnode : c.node = some ask.id := by decide +kernel
  have hstep : ask ∈ c.graph.steps := by decide +kernel
  have hanswered : outcome.response = .ok (.state .suspended) := by decide +kernel
  refine ⟨hsuspended, hnode, hstep, rfl, hanswered, ?_⟩
  obtain ⟨reply, hreply, hways⟩ :=
    waits_unless_accepted hsuspended hnode hstep rfl (.text "nobody") .absent observer hanswered
  obtain rfl : reply = { content := "nobody" } := (Except.ok.inj hreply).symm
  rcases hways with hfits | ⟨-, options, hoptions, option, hmem, -⟩ | ⟨choice, hchoice, -⟩ |
    ⟨refusal, hrefusal, -, hsame, -⟩
  · exact absurd hfits (by decide +kernel)
  · obtain rfl : options = [] := Except.ok.inj (hoptions.symm.trans (by decide +kernel))
    exact absurd hmem List.not_mem_nil
  · cases hchoice
  · have htext : ask.refusal = .ok (.text Step.standardRefusal) := by decide +kernel
    obtain rfl : refusal = Step.standardRefusal :=
      Value.text.inj (Except.ok.inj (hrefusal.symm.trans htext))
    exact hsame

/-- A choice that is neither an option of the step nor the handle of one of its edges gets past the
rule: the conversation leaves the step along the edge that needs no choice. -/
theorem leaves_by_unknown_choice :
    let ask : Step :=
      { id := "ask", type := "wait_input"
        config := [("validation", .object [("type", .text "email")])] }
    let d : Definition :=
      { steps := [{ id := "t", type := "trigger" }, ask, { id := "b", type := "tag", label := "B" }]
        edges := [{ source := "t", target := "ask" }, { source := "ask", target := "b" }] }
    let graph : Graph := ⟨{}, d, by decide +kernel⟩
    let observer : Observer := fun _ => .ok ()
    let made : Conversation := { graph, id := "run" }
    let c := (made.meet ⟨.start, .absent, observer⟩).conversation
    let reply : Reply := { content := "nobody", choice := some "elsewhere" }
    let outcome := c.meet ⟨.resume reply.encode, .absent, observer⟩
    (c.state = .suspended ∧ c.node = some "ask" ∧
      (ask.setting "validation").truthy = true ∧
      Reply.fits reply.content (ask.setting "validation") = .ok false ∧
      ask.options = .ok [] ∧
      ∀ edge ∈ graph.outgoing "ask", edge.handle ≠ some "elsewhere") ∧
    outcome.response = .ok (.state .completed) ∧ outcome.conversation.node = some "b" := by
  decide +kernel

end Conversation

end Workflow
