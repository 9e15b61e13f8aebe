import Workflow.Proofs.Conversation.Run

/-!
# Faults in the middle of a turn

A request that is taken up sets the conversation running, and only the end of the turn stops it
again. A turn that ends with a fault does not get there: nothing puts the state back, so the
conversation stays running, and since it can be started only while it is idle and resumed only while
it is suspended, it takes up nothing any more. `Turn.Halts` says so of the parts of a turn, and
`Conversation.EverBreaks` follows the requests of a run to the turn that breaks.
-/

namespace Workflow

namespace Turn

open Operation (Respects)

variable {α β : Type}

/-- Begun while the conversation runs, the operation ends with a fault exactly if the conversation
still runs afterwards. -/
def Halts (operation : Operation Turn α) : Prop :=
  ∀ t, t.conversation.state = .running →
    ((operation.perform t).2.conversation.state = .running ↔
      ∃ fault, (operation.perform t).1 = .error fault)

theorem halts_fail (fault : Fault) : Halts (Operation.fail fault : Operation Turn α) :=
  fun _ ht => ⟨fun _ => ⟨fault, rfl⟩, fun _ => ht⟩

/-- What only talks goes before what halts. -/
theorem Halts.bind {operation : Operation Turn α} {f : α → Operation Turn β}
    (h : Respects Talks operation) (hf : ∀ a, Halts (f a)) : Halts (operation >>= f) := by
  intro t ht
  have hrunning : (operation.perform t).2.conversation.state = .running := (h t).state_eq.trans ht
  rw [Operation.perform_bind]
  rcases hp : operation.perform t with ⟨fault | a, t'⟩ <;> rw [hp] at hrunning
  · exact ⟨fun _ => ⟨fault, rfl⟩, fun _ => hrunning⟩
  · exact hf a t' hrunning

theorem halts_moveTo (state : RunState) (h : state ≠ .running) : Halts (moveTo state) := by
  intro t ht
  rw [perform_moveTo (ht ▸ h.symm)]
  exact ⟨fun hrunning => absurd hrunning h, nofun⟩

/-- What only looks at the state comes after what halts. -/
theorem Halts.tellState {operation : Operation Turn Unit} (h : Halts operation) :
    Halts (do operation; return (← current).state) := by
  intro t ht
  have hhalts := h t ht
  rw [Operation.perform_bind]
  rcases hp : operation.perform t with ⟨fault | _, t'⟩ <;> rw [hp] at hhalts
  · exact ⟨fun _ => ⟨fault, rfl⟩, fun _ => hhalts.mpr ⟨fault, rfl⟩⟩
  · refine ⟨fun hrunning => ?_, fun ⟨_, hfault⟩ => nomatch hfault⟩
    obtain ⟨_, hfault⟩ := hhalts.mp hrunning
    cases hfault

section Walk

variable (recorder : Recorder)

theorem halts_walk (fuel : Nat) (step : Step) : Halts (walk recorder fuel step) := by
  induction fuel generalizing step with
  | zero => exact halts_fail _
  | succ fuel ih =>
      intro t ht
      have hrunning : ((visit recorder step).perform t).2.conversation.state = .running :=
        (talks_visit recorder step t).state_eq.trans ht
      rw [walk]
      rcases hvisit : (visit recorder step).perform t with ⟨fault | waits, t'⟩ <;>
        rw [hvisit] at hrunning
      · rw [Operation.perform_bind_error hvisit]
        exact ⟨fun _ => ⟨fault, rfl⟩, fun _ => hrunning⟩
      rw [Operation.perform_bind_ok hvisit]
      cases waits with
      | true =>
          rw [if_pos rfl]
          exact halts_moveTo .suspended (by decide) t' hrunning
      | false =>
          rw [if_neg Bool.false_ne_true, Operation.perform_bind_ok (perform_current t')]
          cases t'.conversation.graph.stepAfter? step.id with
          | none => exact halts_moveTo .completed (by decide) t' hrunning
          | some next => exact ih next t' hrunning

theorem halts_walkFrom (step : Step) : Halts (walkFrom recorder step) :=
  .bind respects_current fun c => halts_walk recorder c.graph.size step

end Walk

section Reply

variable {recorder : Recorder} {onward : Step → Operation Turn Unit} {step : Step}
variable (honward : ∀ step, Halts (onward step))

include honward

theorem halts_follow (choice : Value) : Halts (follow recorder onward step choice) := by
  intro t ht
  rw [follow, Operation.perform_bind_ok (perform_current t)]
  cases t.conversation.graph.resumeEdge step choice with
  | ok edge =>
      rw [Operation.perform_bind_ok (perform_current t)]
      cases t.conversation.graph.node edge.target with
      | error fault => exact halts_fail fault t ht
      | ok target => exact honward target t ht
  | error fault =>
      cases fault with
      | noPath =>
          refine Halts.bind (talks_announce _) (fun _ => ?_) t ht
          exact .bind (talks_record _ _ _ _) fun _ => halts_moveTo .completed (by decide)
      | _ => exact halts_fail _ t ht

/-- A typed reply is kept and followed, or refused, and then the conversation waits again. -/
theorem halts_takeIn (content : String) (choice : Value) :
    Halts (do if ← acceptTyped step content then follow recorder onward step choice) := by
  rw [acceptTyped, bind_assoc]
  refine .bind (.ofExcept _) fun fits => ?_
  cases fits with
  | true =>
      rw [if_pos rfl, bind_assoc]
      refine .bind (talks_storeReply step content) fun _ => ?_
      rw [pure_bind]
      exact halts_follow honward choice
  | false =>
      rw [if_neg Bool.false_ne_true, bind_assoc]
      refine .bind (.ofExcept _) fun refusal => ?_
      rw [bind_assoc]
      refine .bind (talks_say _ _) fun _ => ?_
      simp only [bind_assoc, pure_bind, if_neg Bool.false_ne_true, bind_pure_unit]
      exact halts_moveTo .suspended (by decide)

theorem halts_answer (reply : Reply) : Halts (do
    say .user (.text reply.shown)
    let choice ← Operation.ofExcept (reply.choiceAt step)
    let accepted ←
      if step.kind = .waitInput ∧ choice = .null then acceptTyped step reply.content
      else pure true
    if accepted then follow recorder onward step choice) := by
  refine .bind (talks_say .user _) fun _ => .bind (.ofExcept _) fun choice t ht => ?_
  split
  · exact halts_takeIn honward reply.content choice t ht
  · exact halts_follow honward choice t ht

/-- A start that is taken up. -/
theorem running_start_iff {t : Turn} (h : t.conversation.state = .idle) :
    ((start onward).perform t).2.conversation.state = .running ↔
      ∃ fault, ((start onward).perform t).1 = .error fault := by
  rw [start, Operation.perform_bind_ok (perform_current t), if_neg (not_not.mpr h),
    Operation.perform_bind_ok (perform_moveTo (by rw [h]; decide))]
  exact (honward _).tellState (t.moved .running) rfl

/-- A reply that is taken up. -/
theorem running_resume_iff {t : Turn} (h : t.conversation.state = .suspended) {input : Value}
    {reply : Reply} (hreply : Reply.ofValue input = .ok reply)
    (hnode : t.conversation.graph.node (t.conversation.node.getD "") = .ok step) :
    ((resume recorder onward input).perform t).2.conversation.state = .running ↔
      ∃ fault, ((resume recorder onward input).perform t).1 = .error fault := by
  rw [perform_resume_of_suspended h hnode hreply, deliver, bind_assoc,
    Operation.perform_bind_ok (perform_moveTo (by rw [h]; decide))]
  exact (halts_answer honward reply).tellState (t.moved .running) rfl

end Reply

end Turn

namespace Conversation

variable {c : Conversation}

/-- The conversation begins a turn with the request: a start while it is idle, or a reply that can be
read while it is suspended. -/
def takesUp (c : Conversation) : Request → Bool
  | .start => c.state = .idle
  | .resume input => c.state = .suspended && (Reply.ofValue input).isOk
  | .note _ => false

/-- The request begins a turn that ends with a fault. -/
def Breaks (c : Conversation) (occasion : Occasion) : Prop :=
  c.takesUp occasion.request = true ∧ ∃ fault, (c.meet occasion).response = .error fault

/-- One of the requests begins a turn that ends with a fault. -/
def EverBreaks (c : Conversation) : List Occasion → Prop
  | [] => False
  | occasion :: rest => c.Breaks occasion ∨ (c.meet occasion).conversation.EverBreaks rest

theorem exists_map_eq_error {α β : Type} (f : α → β) (outcome : Except Fault α) :
    (∃ fault, outcome.map f = .error fault) ↔ ∃ fault, outcome = .error fault := by
  cases outcome with
  | error fault => exact iff_of_true ⟨fault, rfl⟩ ⟨fault, rfl⟩
  | ok a => exact iff_of_false (fun h => nomatch h.choose_spec) (fun h => nomatch h.choose_spec)

/-- A turn leaves the conversation running exactly if it ends with a fault. -/
theorem running_meet_iff (hplaced : c.Placed) {occasion : Occasion}
    (h : c.takesUp occasion.request = true) :
    (c.meet occasion).conversation.state = .running ↔
      ∃ fault, (c.meet occasion).response = .error fault := by
  obtain ⟨request, recorder, observer⟩ := occasion
  have honward := Turn.halts_walkFrom recorder
  rw [meet, handle_conversation, handle_response]
  cases request with
  | start =>
      have hidle : c.state = .idle := of_decide_eq_true h
      have hhalts := Turn.running_start_iff honward (t := c.opened observer) hidle
      rw [closed_start, turn, Operation.perform_map, hhalts]
      exact (exists_map_eq_error Response.state _).symm
  | resume input =>
      obtain ⟨hsuspended, hreadable⟩ := Bool.and_eq_true _ _ |>.mp h
      have hsuspended : c.state = .suspended := of_decide_eq_true hsuspended
      obtain ⟨reply, hreply⟩ : ∃ reply, Reply.ofValue input = .ok reply := by
        cases hreply : Reply.ofValue input with
        | error fault => rw [hreply] at hreadable; cases hreadable
        | ok reply => exact ⟨reply, rfl⟩
      obtain ⟨waits, hwaits, hnode, -⟩ := hplaced hsuspended
      obtain ⟨step, hstep⟩ := Graph.exists_node? (List.mem_map_of_mem hwaits)
      replace hstep : c.graph.node (c.node.getD "") = .ok step := by
        rw [hnode, Graph.node, Option.getD_some, hstep]
      have hhalts : ((Turn.resume recorder (Turn.walkFrom recorder) input).perform
          (c.opened observer)).2.conversation.state = .running ↔ _ :=
        Turn.running_resume_iff honward hsuspended hreply hstep
      rw [closed_resume, turn, Operation.perform_map, hhalts]
      exact (exists_map_eq_error Response.state _).symm
  | note content => cases h

/-- A request that is not taken up is refused, or it is a note and only says something. -/
theorem meet_of_not_takesUp {occasion : Occasion} (h : c.takesUp occasion.request = false) :
    (c.meet occasion).conversation =
        { c with messages := c.messages ++ messagesOf (c.meet occasion).effects } ∧
      ((∀ content, occasion.request ≠ .note content) →
        (c.meet occasion).effects = [] ∧ ∃ fault, (c.meet occasion).response = .error fault) := by
  obtain ⟨request, recorder, observer⟩ := occasion
  have hrefused (hclosed : c.closed recorder observer request = c.opened observer) :
      (c.meet ⟨request, recorder, observer⟩).conversation = { c with
          messages := c.messages ++ messagesOf (c.meet ⟨request, recorder, observer⟩).effects } ∧
        (c.meet ⟨request, recorder, observer⟩).effects = [] := by
    rw [meet, handle_conversation, handle_effects, hclosed]
    exact ⟨by simp [opened, messagesOf], rfl⟩
  cases request with
  | start =>
      have hidle : c.state ≠ .idle := of_decide_eq_false h
      obtain ⟨hsame, hnone⟩ := hrefused (closed_start_of_ne_idle c recorder observer hidle)
      refine ⟨hsame, fun _ => ⟨hnone, .alreadyStarted c.id c.state, ?_⟩⟩
      rw [meet, handle_response, turn, Operation.perform_map, Turn.start,
        Operation.perform_bind_ok (Turn.perform_current _), if_pos (by exact hidle)]
      rfl
  | resume input =>
      by_cases hsuspended : c.state = .suspended
      · have hunreadable : (Reply.ofValue input).isOk = false := by
          simpa [takesUp, hsuspended] using h
        cases hreply : Reply.ofValue input with
        | ok reply => rw [hreply] at hunreadable; cases hunreadable
        | error fault =>
            have hperform : (Turn.resume recorder (Turn.walkFrom recorder) input).perform
                (c.opened observer) = (.error fault, c.opened observer) := by
              rw [Turn.resume, Operation.perform_bind_ok (Turn.perform_current _),
                if_neg (by exact not_not.mpr hsuspended), hreply]
              rfl
            obtain ⟨hsame, hnone⟩ := hrefused (by rw [closed_resume, hperform])
            refine ⟨hsame, fun _ => ⟨hnone, fault, ?_⟩⟩
            rw [meet, handle_response, turn, Operation.perform_map, hperform]
            rfl
      · obtain ⟨hsame, hnone⟩ :=
          hrefused (closed_resume_of_ne_suspended c recorder observer hsuspended input)
        refine ⟨hsame, fun _ => ⟨hnone, .notSuspended c.id c.state, ?_⟩⟩
        rw [meet, handle_response, turn, Operation.perform_map, Turn.resume,
          Operation.perform_bind_ok (Turn.perform_current _), if_pos (by exact hsuspended)]
        rfl
  | note content =>
      obtain ⟨said, -, -, hclosed⟩ := c.closed_note recorder observer content
      rw [meet, handle_conversation, handle_effects, hclosed]
      exact ⟨rfl, fun hnone => absurd rfl (hnone content)⟩

/-- A conversation that runs takes up nothing. -/
theorem takesUp_of_running (h : c.state = .running) (request : Request) :
    c.takesUp request = false := by
  cases request <;> simp [takesUp, h]

/-- A conversation that runs goes on running: it only says the notes it is given. -/
theorem meetAll_of_running (h : c.state = .running) (occasions : List Occasion) :
    (c.meetAll occasions).1 =
      { c with messages := c.messages ++ messagesOf (c.meetAll occasions).2 } := by
  induction occasions generalizing c with
  | nil => simp [meetAll, messagesOf]
  | cons occasion rest ih =>
      have hsame := (meet_of_not_takesUp (takesUp_of_running h occasion.request)).1
      have hrunning : (c.meet occasion).conversation.state = .running := by rw [hsame]; exact h
      rw [meetAll, ih hrunning, messagesOf_append, hsame, List.append_assoc]

/-- A conversation that does not run yet runs after requests exactly if a turn ended with a fault. -/
theorem running_meetAll_iff (hplaced : c.Placed) (h : c.state ≠ .running)
    (occasions : List Occasion) :
    (c.meetAll occasions).1.state = .running ↔ c.EverBreaks occasions := by
  induction occasions generalizing c with
  | nil => exact iff_of_false h not_false
  | cons occasion rest ih =>
      have hplaced' := (becomes_meet hplaced occasion).placed hplaced
      rw [meetAll, EverBreaks]
      by_cases hrunning : (c.meet occasion).conversation.state = .running
      · have htaken : c.takesUp occasion.request = true := by
          refine Bool.not_eq_false _ |>.mp fun hnot => h ?_
          rw [(meet_of_not_takesUp hnot).1] at hrunning
          exact hrunning
        refine iff_of_true ?_ (.inl ⟨htaken, (running_meet_iff hplaced htaken).mp hrunning⟩)
        rw [meetAll_of_running hrunning rest]
        exact hrunning
      · have hwhole : ¬ c.Breaks occasion := fun ⟨htaken, hfault⟩ =>
          hrunning ((running_meet_iff hplaced htaken).mpr hfault)
        rw [ih hplaced' hrunning, or_iff_right hwhole]

/-- A conversation is left running exactly by a turn that ends with a fault. From then on every
start and every reply is refused and nothing changes any more, except that notes are said. -/
theorem running_iff_everBreaks (graph : Graph) (id routine : String) (bindings : Variables)
    (occasions : List Occasion) :
    let made : Conversation := { graph, id, routine, bindings }
    let c := (made.meetAll occasions).1
    (c.state = .running ↔ made.EverBreaks occasions) ∧
      (c.state = .running → ∀ later : List Occasion,
        (c.meetAll later).1 =
            { c with messages := c.messages ++ messagesOf (c.meetAll later).2 } ∧
          ∀ next, (∀ content, next.request ≠ .note content) →
            ∃ fault, ((c.meetAll later).1.meet next).response = .error fault) := by
  intro made c
  have hplaced : made.Placed := placed_of_idle rfl
  have hidle : made.state ≠ .running := nofun
  refine ⟨running_meetAll_iff hplaced hidle occasions, fun hrunning later => ?_⟩
  have hsame := meetAll_of_running hrunning later
  refine ⟨hsame, fun next hnext => ?_⟩
  have hstill : (c.meetAll later).1.state = .running := by rw [hsame]; exact hrunning
  exact ((meet_of_not_takesUp (takesUp_of_running hstill next.request)).2 hnext).2

/-- A reply to a step whose rule is a broken pattern leaves the conversation running at this step,
though it was suspended there before. A second reply is refused. -/
theorem stuck_at_broken_pattern :
    let ask : Step :=
      { id := "ask", type := "wait_input", label := "Ask"
        config := [("validation",
          .object [("type", .text "regex"), ("value", .text "[")])] }
    let definition : Definition :=
      { steps := [{ id := "t", type := "trigger" }, ask, { id := "b", type := "tag", label := "B" }]
        edges := [{ source := "t", target := "ask" }, { source := "ask", target := "b" }] }
    let stands (requests : List Request) : Option (RunState × Option String) := do
      let graph ← (Graph.ofDefinition {} definition).toOption
      let made : Conversation := { graph, id := "run" }
      let c := (made.meetAll (requests.map fun request =>
        { request, recorder := .absent, observer := fun _ => .ok () })).1
      return (c.state, c.node)
    stands [.start] = some (.suspended, some "ask") ∧
      stands [.start, .resume (.text "hello")] = some (.running, some "ask") ∧
      stands [.start, .resume (.text "hello"), .resume (.text "hello")] =
        some (.running, some "ask") := by
  decide +kernel

end Conversation

end Workflow
