import Workflow.Proofs.Conversation.Account
import Workflow.Proofs.Conversation.Run
import Workflow.Proofs.Conversation.Timely

/-!
# What a request adds

A request is an episode of a conversation. It comes out of turn or is a note, and no step is carried
out; it starts the conversation or answers it, and the steps of a route are carried out in a row; or
it is an answer that is refused or leads nowhere. `Conversation.Turned` lists these cases with the
accounts that each of them adds, provided that results are kept and nothing goes wrong on the way.
-/

namespace Workflow

namespace Account

/-- An account follows another that waits when the person makes a choice. -/
def Answers (graph : Graph) (choice : Value) (account next : Account) : Prop :=
  match graph.resumeEdge account.step choice with
  | .ok edge => graph.node edge.target = .ok next.step ∧ ¬ next.Pathless
  | .error _ => next.step = account.step ∧ next.Pathless

/-- An account follows another in a conversation. -/
def Precedes (graph : Graph) (account next : Account) : Prop :=
  (account.step.interactive = false ∧ graph.stepAfter? account.step.id = some next.step) ∨
    (account.Awaits ∧ ∃ choice, account.Answers graph choice next)

/-- The account of a reply that led nowhere. -/
def ofPathless (step : Step) : Account where
  step := step
  result := { success := true, status := .completed, narrative := Turn.noPathNotice }
  said := [Turn.pathless]

end Account

/-- The accounts of a walk from a step on, and how the conversation stands afterwards. -/
structure Walked (c : Conversation) (step : Step) (accounts : List Account) (c' : Conversation) :
    Prop where
  route : c.graph.Route step (accounts.map Account.step)
  reached : ∀ account ∈ accounts, account.Reached
  stands : ∃ last messages bindings, accounts.getLast? = some last ∧
    c' = { c with
      state := if last.step.interactive then .suspended else .completed
      node := some last.step.id, messages, bindings }

/-- It does not matter where the conversation stood before the walk. -/
theorem Walked.of_eq {c c₁ c' : Conversation} {step : Step} {accounts : List Account}
    {state : RunState} {messages : List Message} {bindings : Variables}
    (h : Walked c₁ step accounts c') (heq : c₁ = { c with state, messages, bindings }) :
    Walked c step accounts c' := by
  subst heq
  obtain ⟨hroute, hreached, last, messages', bindings', hlast, rfl⟩ := h
  exact ⟨hroute, hreached, last, messages', bindings', hlast, rfl⟩

theorem Walked.same {c c' : Conversation} {step : Step} {accounts : List Account}
    (h : Walked c step accounts c') : c'.graph = c.graph ∧ c'.routine = c.routine := by
  obtain ⟨-, -, _, _, _, -, rfl⟩ := h
  exact ⟨rfl, rfl⟩

/-- The step does not accept the reply. -/
def Step.Refuses (step : Step) (reply : Reply) (choice : Value) : Prop :=
  step.kind = .waitInput ∧ choice = .null ∧
    Reply.fits reply.content (step.setting "validation") = .ok false

/-- What comes of a reply that is accepted: the edge of its choice leads on, or the conversation is
over. -/
inductive Follows (c : Conversation) (step : Step) (choice : Value) :
    List Account → Conversation → Prop
  | onward {edge : Edge} {target : Step} {accounts : List Account} {c' : Conversation}
      (hedge : c.graph.resumeEdge step choice = .ok edge)
      (htarget : c.graph.node edge.target = .ok target)
      (walked : Walked c target accounts c') : Follows c step choice accounts c'
  | pathless {fault : Fault} (messages : List Message) (bindings : Variables)
      (hedge : c.graph.resumeEdge step choice = .error fault) :
      Follows c step choice [.ofPathless step] { c with state := .completed, messages, bindings }

/-- Nor does it matter for what comes of a reply. -/
theorem Follows.of_eq {c c₁ c' : Conversation} {step : Step} {choice : Value}
    {accounts : List Account} {state : RunState} {messages : List Message} {bindings : Variables}
    (h : Follows c₁ step choice accounts c') (heq : c₁ = { c with state, messages, bindings }) :
    Follows c step choice accounts c' := by
  subst heq
  cases h with
  | onward hedge htarget walked => exact .onward hedge htarget (walked.of_eq rfl)
  | pathless messages bindings hedge => exact .pathless messages bindings hedge

namespace Turn

open Operation (exists_of_perform_bind)

variable {t t' : Turn} {route : List Step}

/-- What a walk along a route tells, by induction on the route. -/
theorem along_keeping (hne : route ≠ []) (hroutine : t.conversation.routine ≠ "")
    (hrunning : t.conversation.state = .running)
    (h : (along .keeping route).perform t = (.ok (), t')) :
    ∃ accounts : List Account, accounts.map Account.step = route ∧
      (∀ account ∈ accounts, account.Reached) ∧ Tells [] accounts [] t t' ∧
      ∃ last messages bindings, accounts.getLast? = some last ∧
        t'.conversation = { t.conversation with
          state := if last.step.interactive then .suspended else .completed
          node := some last.step.id, messages, bindings } := by
  induction route generalizing t with
  | nil => exact absurd rfl hne
  | cons step rest ih =>
      have hfirst {waits : Bool} {t₁ : Turn} (hvisit : (visit .keeping step).perform t =
          (.ok waits, t₁)) : ∃ account : Account, account.step = step ∧ account.Reached ∧
            Tells [] [account] [] t t₁ ∧ ∃ messages bindings, t₁.conversation =
              { t.conversation with node := some step.id, messages, bindings } := by
        obtain ⟨account, hstep, hreached, heffects, hconversation⟩ := visit_keeping hroutine hvisit
        have hown : ∀ message ∈ account.said, message.role ≠ .user :=
          fun message hmem => (hreached.voice message hmem).1
        exact ⟨account, hstep, hreached, ⟨_, heffects, .account hown⟩, hconversation⟩
      cases rest with
      | nil =>
          obtain ⟨waits, t₁, hvisit, hmove⟩ := exists_of_perform_bind h
          obtain ⟨account, rfl, hreached, htells, messages, bindings, hconversation⟩ :=
            hfirst hvisit
          obtain rfl := answer_visit hvisit
          have hmoves : t' = t₁.moved (if account.step.interactive then .suspended else .completed)
              := by
            have hrunning' : t₁.conversation.state = .running := by rw [hconversation, hrunning]
            cases hwaits : account.step.interactive <;> rw [hwaits] at hmove
            · rw [if_neg Bool.false_ne_true, perform_moveTo (by rw [hrunning']; decide)] at hmove
              cases hmove
              rfl
            · rw [if_pos rfl, perform_moveTo (by rw [hrunning']; decide)] at hmove
              cases hmove
              rfl
          subst hmoves
          refine ⟨[account], rfl, by simpa using hreached, htells.trans (.moved [] t₁ _), account,
            messages, bindings, rfl, ?_⟩
          rw [moved, hconversation]
      | cons next rest =>
          rw [perform_along_cons (List.cons_ne_nil _ _)] at h
          obtain ⟨waits, t₁, hvisit, hrest⟩ := exists_of_perform_bind h
          obtain ⟨account, rfl, hreached, htells, messages, bindings, hconversation⟩ :=
            hfirst hvisit
          have hroutine' : t₁.conversation.routine ≠ "" := by rwa [hconversation]
          have hrunning' : t₁.conversation.state = .running := by rw [hconversation, hrunning]
          obtain ⟨accounts, hsteps, hall, htells', last, messages', bindings', hlast, hafter⟩ :=
            ih (List.cons_ne_nil _ _) hroutine' hrunning' hrest
          refine ⟨account :: accounts, by rw [List.map_cons, hsteps],
            List.forall_mem_cons.mpr ⟨hreached, hall⟩, htells.trans htells', last, messages',
            bindings', ?_, ?_⟩
          · rw [List.getLast?_cons, hlast, Option.getD_some]
          · rw [hafter, hconversation]

/-- Going onward along a route of the graph is a walk. -/
theorem walked_along {step : Step} (hroute : t.conversation.graph.Route step route)
    (hroutine : t.conversation.routine ≠ "") (hrunning : t.conversation.state = .running)
    (h : (along .keeping route).perform t = (.ok (), t')) :
    ∃ accounts, Walked t.conversation step accounts t'.conversation ∧
      Tells [] accounts [] t t' := by
  obtain ⟨accounts, rfl, hreached, htells, hstands⟩ :=
    along_keeping hroute.ne_nil hroutine hrunning h
  exact ⟨accounts, ⟨hroute, hreached, hstands⟩, htells⟩

section Resume

variable {passed : Step → List Step} {step : Step}

/-- Accepting a typed reply tells nothing; refusing it puts the conversation back to wait. -/
theorem acceptTyped_ok {content : String} {accepted : Bool}
    (hrunning : t.conversation.state = .running)
    (h : (acceptTyped step content).perform t = (.ok accepted, t')) :
    Reply.fits content (step.setting "validation") = .ok accepted ∧ Tells [] [] [] t t' ∧
      ∃ messages bindings, t'.conversation = { t.conversation with
        state := if accepted then .running else .suspended, messages, bindings } := by
  obtain ⟨fits, _, hcheck, h⟩ := exists_of_perform_bind h
  obtain ⟨hfits, rfl⟩ := Operation.eq_of_perform_ofExcept hcheck
  cases fits with
  | true =>
      obtain ⟨_, t₁, hstore, h⟩ := exists_of_perform_bind h
      cases h
      obtain ⟨said, bindings, hvoice, heffects, hconversation⟩ :=
        @speaks_storeReply (fun _ => False) step content t
      obtain rfl : said = [] := List.eq_nil_iff_forall_not_mem.mpr hvoice
      rw [hstore] at heffects hconversation
      refine ⟨hfits, .of_eq [] (by simpa using heffects), t.conversation.messages, bindings, ?_⟩
      rw [hconversation, if_pos rfl, ← hrunning, List.append_nil]
  | false =>
      obtain ⟨refusal, _, hrefusal, h⟩ := exists_of_perform_bind h
      obtain ⟨-, rfl⟩ := Operation.eq_of_perform_ofExcept hrefusal
      obtain ⟨_, t₁, hsay, h⟩ := exists_of_perform_bind h
      obtain ⟨said, bindings, hvoice, heffects, hconversation⟩ :=
        @speaks_say (fun message => message.role ≠ .user) .system (by simp) refusal t
      rw [hsay] at heffects hconversation
      have hrunning' : t₁.conversation.state = .running := by rw [hconversation, hrunning]
      rw [Operation.perform_bind_ok (perform_moveTo (by rw [hrunning']; decide))] at h
      cases h
      have htells : Tells [] [] said t t₁ := ⟨_, heffects, .ownSaid _ hvoice⟩
      refine ⟨hfits, htells.trans (.moved said t₁ .suspended), t.conversation.messages ++ said,
        bindings, ?_⟩
      rw [moved, hconversation, if_neg Bool.false_ne_true]

theorem follow_ok {choice : Value}
    (hpassed : ∀ step ∈ t.conversation.graph.steps, t.conversation.graph.Route step (passed step))
    (hroutine : t.conversation.routine ≠ "") (hrunning : t.conversation.state = .running)
    (h : (follow .keeping (fun step => along .keeping (passed step)) step choice).perform t =
      (.ok (), t')) :
    ∃ accounts, Follows t.conversation step choice accounts t'.conversation ∧
      Tells [] accounts [] t t' := by
  rw [follow, Operation.perform_bind_ok (perform_current t)] at h
  cases hedge : t.conversation.graph.resumeEdge step choice with
  | ok edge =>
      rw [hedge] at h
      rw [Operation.perform_bind_ok (perform_current t)] at h
      obtain ⟨target, _, hnode, h⟩ := exists_of_perform_bind h
      obtain ⟨htarget, rfl⟩ := Operation.eq_of_perform_ofExcept hnode
      have hroute := hpassed target (Graph.mem_steps_of_node htarget).1
      obtain ⟨accounts, hwalked, htells⟩ := walked_along hroute hroutine hrunning h
      exact ⟨accounts, .onward hedge htarget hwalked, htells⟩
  | error fault =>
      rw [hedge] at h
      obtain rfl | rfl := Graph.fault_of_resumeEdge hedge
      case inr => cases h
      dsimp only [announce] at h
      rw [Operation.perform_bind_ok (perform_sayText t .system noPathNotice),
        Operation.perform_bind_ok (perform_record_keeping (by exact hroutine) noPathNotice false),
        perform_moveTo (by exact hrunning ▸ by decide)] at h
      cases h
      refine ⟨_, .pathless _ t.conversation.bindings hedge, ?_⟩
      have hnotice : Tells [] [] [pathless] t (t.told pathless) := .ownTold [] t (by decide)
      exact (hnotice.trans (.recorded _ _ step _)).trans (.moved _ _ .completed)

/-- A reply that is delivered is refused, or it is accepted and followed. -/
theorem deliver_ok {reply : Reply} (said : List Message)
    (hpassed : ∀ step ∈ t.conversation.graph.steps, t.conversation.graph.Route step (passed step))
    (hroutine : t.conversation.routine ≠ "") (hsuspended : t.conversation.state = .suspended)
    (h : (deliver .keeping (fun step => along .keeping (passed step)) step reply).perform t =
      (.ok (), t')) :
    ∃ choice, reply.choiceAt step = .ok choice ∧
      ((step.Refuses reply choice ∧ Tells said [] [] t t' ∧ ∃ messages bindings,
          t'.conversation = { t.conversation with messages, bindings }) ∨
        ¬ step.Refuses reply choice ∧ ∃ accounts,
          Follows t.conversation step choice accounts t'.conversation ∧
            Tells said accounts [] t t') := by
  rw [deliver, Operation.perform_bind_ok (perform_moveTo (by rw [hsuspended]; decide))] at h
  rw [Operation.perform_bind_ok (perform_sayText _ .user reply.shown)] at h
  obtain ⟨t₁, ht₁⟩ : ∃ t₁, t₁ = (t.moved .running).told ⟨.user, reply.shown, none⟩ := ⟨_, rfl⟩
  have htells : Tells said [] [] t t₁ := by
    rw [ht₁]
    exact (Tells.moved said t .running).trans (.userTold [] _ rfl)
  obtain ⟨messages, hconversation⟩ : ∃ messages, t₁.conversation =
      { t.conversation with state := .running, messages } := by
    rw [ht₁]
    exact ⟨_, rfl⟩
  rw [← ht₁] at h
  obtain ⟨choice, _, hchosen, h⟩ := exists_of_perform_bind h
  obtain ⟨hchoice, rfl⟩ := Operation.eq_of_perform_ofExcept hchosen
  refine ⟨choice, hchoice, ?_⟩
  have hrunning : t₁.conversation.state = .running := by rw [hconversation]
  have hfollow {t₂ : Turn} (htells₂ : Tells said [] [] t t₂) {messages : List Message}
      {bindings : Variables} (hafter : t₂.conversation =
        { t.conversation with state := .running, messages, bindings })
      (h : (follow .keeping (fun step => along .keeping (passed step)) step choice).perform t₂ =
        (.ok (), t')) :
      ∃ accounts, Follows t.conversation step choice accounts t'.conversation ∧
        Tells said accounts [] t t' := by
    obtain ⟨accounts, hfollows, htells'⟩ :=
      follow_ok (by rwa [hafter]) (by rwa [hafter]) (by rw [hafter]) h
    exact ⟨accounts, hfollows.of_eq hafter, htells₂.trans htells'⟩
  split at h
  · rename_i htyped
    obtain ⟨accepted, t₂, haccept, h⟩ := exists_of_perform_bind h
    obtain ⟨hfits, htells₂, messages₂, bindings, hafter⟩ := acceptTyped_ok hrunning haccept
    cases accepted with
    | true =>
        rw [hconversation, if_pos rfl] at hafter
        refine .inr ⟨fun hrefuses => ?_, hfollow (htells.trans htells₂) hafter h⟩
        exact absurd (hfits.symm.trans hrefuses.2.2) (by decide)
    | false =>
        cases h
        refine .inl ⟨⟨htyped.1, htyped.2, hfits⟩, htells.trans htells₂, messages₂, bindings, ?_⟩
        rw [hafter, hconversation, if_neg Bool.false_ne_true, ← hsuspended]
  · rename_i hpicked
    have haccepts : ¬ step.Refuses reply choice := fun h => hpicked ⟨h.1, h.2.1⟩
    exact .inr ⟨haccepts, hfollow htells hconversation h⟩

end Resume

end Turn

namespace Conversation

variable {c : Conversation}

/-- A person picks a choice, or none, at the step where the conversation waits. -/
structure Hears (c : Conversation) (input : Value) (step : Step) (reply : Reply) (choice : Value) :
    Prop where
  waits : c.state = .suspended
  stands : c.graph.node (c.node.getD "") = .ok step
  sends : Reply.ofValue input = .ok reply
  picks : reply.choiceAt step = .ok choice

/-- What a request does to a conversation, with the accounts it adds. -/
inductive Turned (c : Conversation) : Request → List Account → Conversation → Prop
  | quiet {request : Request} (messages : List Message) (hstart : request = .start → c.state ≠ .idle)
      (hresume : ∀ input, request = .resume input → c.state ≠ .suspended) :
      Turned c request [] { c with messages }
  | started {accounts : List Account} {c' : Conversation} (idle : c.state = .idle)
      (walked : Walked c c.graph.trigger accounts c') : Turned c .start accounts c'
  | refused {input choice : Value} {step : Step} {reply : Reply} (messages : List Message)
      (bindings : Variables) (hears : c.Hears input step reply choice)
      (refuses : step.Refuses reply choice) :
      Turned c (.resume input) [] { c with messages, bindings }
  | answered {input choice : Value} {step : Step} {reply : Reply} {accounts : List Account}
      {c' : Conversation} (hears : c.Hears input step reply choice)
      (accepts : ¬ step.Refuses reply choice) (follows : Follows c step choice accounts c') :
      Turned c (.resume input) accounts c'

/-- Results are kept on the occasion, and nothing is raised unless the request came out of turn. -/
def Smooth (c : Conversation) (occasion : Occasion) : Prop :=
  occasion.recorder = .keeping ∧
    ∀ fault, (c.meet occasion).response = .error fault → fault.outOfTurn = true

section Handle

variable {observer : Observer}

theorem exists_passed (graph : Graph) : ∃ passed : Step → List Step,
    ∀ step ∈ graph.steps, graph.Route step (passed step) := by
  choose! passed hpassed using fun step => @Graph.exists_route graph step
  exact ⟨passed, hpassed⟩

theorem turned_start (hroutine : c.routine ≠ "") (hidle : c.state = .idle) {state : RunState}
    {t' : Turn} (h : (Turn.start (Turn.walkFrom .keeping)).perform (c.opened observer) =
      (.ok state, t')) (said : List Message) :
    ∃ accounts, Turned c .start accounts t'.conversation ∧
      Turn.Tells said accounts [] (c.opened observer) t' := by
  obtain ⟨passed, hpassed⟩ := exists_passed c.graph
  have hidle' : (c.opened observer).conversation.state = .idle := hidle
  rw [Turn.perform_start_alike (Turn.alike_walkFrom hpassed) rfl, Turn.start,
    Operation.perform_bind_ok (Turn.perform_current _), if_neg (not_not.mpr hidle'),
    Operation.perform_bind_ok (Turn.perform_moveTo (by rw [hidle']; decide))] at h
  obtain ⟨_, t₁, halong, h⟩ := Operation.exists_of_perform_bind h
  cases h
  have hroute := hpassed c.graph.trigger c.graph.trigger_mem_steps
  obtain ⟨accounts, hwalked, htells⟩ :=
    Turn.walked_along (t := (c.opened observer).moved .running) hroute hroutine rfl halong
  exact ⟨accounts, .started hidle (hwalked.of_eq rfl), (Turn.Tells.moved said _ _).trans htells⟩

theorem turned_resume (hroutine : c.routine ≠ "") (hsuspended : c.state = .suspended)
    {input : Value} {state : RunState} {t' : Turn}
    (h : (Turn.resume .keeping (Turn.walkFrom .keeping) input).perform (c.opened observer) =
      (.ok state, t')) (said : List Message) :
    ∃ accounts, Turned c (.resume input) accounts t'.conversation ∧
      Turn.Tells said accounts [] (c.opened observer) t' := by
  obtain ⟨passed, hpassed⟩ := exists_passed c.graph
  have hsuspended' : (c.opened observer).conversation.state = .suspended := hsuspended
  rw [Turn.perform_resume_alike (Turn.alike_walkFrom hpassed) rfl, Turn.resume,
    Operation.perform_bind_ok (Turn.perform_current _), if_neg (not_not.mpr hsuspended')] at h
  obtain ⟨reply, _, hread, h⟩ := Operation.exists_of_perform_bind h
  obtain ⟨hreply, rfl⟩ := Operation.eq_of_perform_ofExcept hread
  obtain ⟨step, _, hfind, h⟩ := Operation.exists_of_perform_bind h
  obtain ⟨hstep, rfl⟩ := Operation.eq_of_perform_ofExcept hfind
  obtain ⟨_, t₁, hdeliver, h⟩ := Operation.exists_of_perform_bind h
  cases h
  obtain ⟨choice, hchoice, houtcome⟩ :=
    Turn.deliver_ok said (t := c.opened observer) hpassed hroutine hsuspended hdeliver
  have hears : c.Hears input step reply choice := ⟨hsuspended, hstep, hreply, hchoice⟩
  rcases houtcome with ⟨hrefuses, htells, messages, bindings, hafter⟩ |
    ⟨haccepts, accounts, hfollows, htells⟩
  · refine ⟨[], ?_, htells⟩
    rw [hafter]
    exact .refused messages bindings hears hrefuses
  · exact ⟨accounts, .answered hears haccepts hfollows, htells⟩

theorem turned_closed_start (hroutine : c.routine ≠ "") (h : c.Smooth ⟨.start, .keeping, observer⟩)
    (said : List Message) :
    ∃ accounts left,
      Turned c .start accounts (c.closed .keeping observer .start).conversation ∧
      Reads said (c.closed .keeping observer .start).effects accounts left := by
  by_cases hidle : c.state = .idle
  · rcases hstart : (Turn.start (Turn.walkFrom .keeping)).perform (c.opened observer) with
      ⟨fault | state, t'⟩
    · have hresponse : (c.meet ⟨.start, .keeping, observer⟩).response = .error fault := by
        rw [meet, handle_response, turn, Operation.perform_map, hstart]
        rfl
      exact absurd hidle
        (Turn.outOfTurn_start (Turn.inTurn_walkFrom _) hstart (h.2 fault hresponse))
    · obtain ⟨accounts, hturned, _, heffects, hreads⟩ := turned_start hroutine hidle hstart said
      rw [closed_start, hstart]
      exact ⟨accounts, [], hturned, by simpa [heffects, opened] using hreads⟩
  · rw [closed_start_of_ne_idle c _ _ hidle]
    exact ⟨[], said, .quiet c.messages (fun _ => hidle) fun _ hresume => Request.noConfusion hresume,
      .nil said⟩

theorem turned_closed_resume {input : Value} (hroutine : c.routine ≠ "")
    (h : c.Smooth ⟨.resume input, .keeping, observer⟩) (said : List Message) :
    ∃ accounts left,
      Turned c (.resume input) accounts
        (c.closed .keeping observer (.resume input)).conversation ∧
      Reads said (c.closed .keeping observer (.resume input)).effects accounts left := by
  by_cases hsuspended : c.state = .suspended
  · rcases hresume : (Turn.resume .keeping (Turn.walkFrom .keeping) input).perform
      (c.opened observer) with ⟨fault | state, t'⟩
    · have hresponse : (c.meet ⟨.resume input, .keeping, observer⟩).response = .error fault := by
        rw [meet, handle_response, turn, Operation.perform_map, hresume]
        rfl
      exact absurd hsuspended
        (Turn.outOfTurn_resume (Turn.inTurn_walkFrom _) hresume (h.2 fault hresponse))
    · obtain ⟨accounts, hturned, _, heffects, hreads⟩ :=
        turned_resume hroutine hsuspended hresume said
      rw [closed_resume, hresume]
      exact ⟨accounts, [], hturned, by simpa [heffects, opened] using hreads⟩
  · rw [closed_resume_of_ne_suspended c _ _ hsuspended]
    exact ⟨[], said, .quiet c.messages Request.noConfusion fun _ _ => hsuspended, .nil said⟩

/-- A note says something of its own or nothing, and is no account. -/
theorem turned_closed_note (content : Value) (said : List Message) :
    ∃ accounts left,
      Turned c (.note content) accounts
        (c.closed .keeping observer (.note content)).conversation ∧
      Reads said (c.closed .keeping observer (.note content)).effects accounts left := by
  have hquiet (messages : List Message) : Turned c (.note content) [] { c with messages } :=
    .quiet messages Request.noConfusion fun _ hresume => Request.noConfusion hresume
  cases content with
  | text content =>
      have hown : ∀ message ∈ [(⟨.system, content, none⟩ : Message)], message.role ≠ .user :=
        List.forall_mem_singleton.mpr (by simp)
      exact ⟨[], _, hquiet _, .ownSaid (c.node.getD "") hown⟩
  | _ => exact ⟨[], said, hquiet c.messages, .nil said⟩

end Handle

/-- Whatever is asked of a conversation on a smooth occasion, it is one of the episodes, and its
accounts are told. -/
theorem turned_meet {occasion : Occasion} (hroutine : c.routine ≠ "") (h : c.Smooth occasion)
    (said : List Message) :
    ∃ accounts left, Turned c occasion.request accounts (c.meet occasion).conversation ∧
      Reads said (c.meet occasion).effects accounts left := by
  obtain ⟨request, recorder, observer⟩ := occasion
  obtain rfl : recorder = .keeping := h.1
  rw [meet, handle_conversation, handle_effects]
  cases request with
  | start => exact turned_closed_start hroutine h said
  | resume input => exact turned_closed_resume hroutine h said
  | note content => exact turned_closed_note content said

end Conversation

end Workflow
