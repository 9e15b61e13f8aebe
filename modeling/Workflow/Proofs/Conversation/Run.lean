import Workflow.Proofs.Conversation.Progress

/-!
# Runs of a conversation

Requests come to a conversation one after the other, each with its own observer and its own way to
keep results, and each may end with a fault. `Conversation.Becomes` says what one request does to a
conversation and what a run of them does: states follow a path, messages are added at the end as
they are told, and a conversation that is still idle is as it was made.
-/

namespace Workflow

/-- A request and the circumstances it comes under. -/
structure Occasion where
  request : Request
  recorder : Recorder
  observer : Observer

namespace Conversation

variable {c c' c'' : Conversation} {told more : List Effect}

/-- Where a conversation stands at a step of its graph, the step is found. -/
theorem node_of_mem_steps {step : Step} (hnode : c.node = some step.id)
    (hstep : step ∈ c.graph.steps) : c.graph.node (c.node.getD "") = .ok step := by
  rw [hnode, Option.getD_some, Graph.node, Graph.node?_of_mem_steps hstep]

/-- What becomes of a conversation while the effects are told. -/
structure Becomes (c : Conversation) (told : List Effect) (c' : Conversation) : Prop where
  graph : c'.graph = c.graph
  messages : c'.messages = c.messages ++ messagesOf told
  path : RunState.Path c.state (statesOf told) c'.state
  placed : c.Placed → c'.Placed
  idle : c'.state = .idle → c.state = .idle ∧ c'.node = c.node ∧ c'.bindings = c.bindings

namespace Becomes

theorem refl (c : Conversation) : c.Becomes [] c :=
  ⟨rfl, (List.append_nil _).symm, .stays _, fun h => h, fun h => ⟨h, rfl, rfl⟩⟩

theorem trans (first : c.Becomes told c') (rest : c'.Becomes more c'') :
    c.Becomes (told ++ more) c'' where
  graph := rest.graph.trans first.graph
  messages := by
    rw [rest.messages, first.messages, messagesOf_append, List.append_assoc]
  path := by
    rw [statesOf_append]
    exact first.path.trans rest.path
  placed := fun h => rest.placed (first.placed h)
  idle := by
    intro h
    obtain ⟨h', hnode', hbindings'⟩ := rest.idle h
    obtain ⟨h'', hnode, hbindings⟩ := first.idle h'
    exact ⟨h'', hnode'.trans hnode, hbindings'.trans hbindings⟩

end Becomes

/-- Carry out a request as the occasion has it. -/
def meet (c : Conversation) (occasion : Occasion) : Outcome :=
  c.handle occasion.recorder occasion.request occasion.observer

/-- Carry out requests in a row, with everything that is told. -/
def meetAll (c : Conversation) : List Occasion → Conversation × List Effect
  | [] => (c, [])
  | occasion :: rest =>
    let outcome := c.meet occasion
    let (last, told) := outcome.conversation.meetAll rest
    (last, outcome.effects ++ told)

section Handle

variable (c : Conversation) (recorder : Recorder) (observer : Observer)

/-- The conversation before a turn. -/
def opened : Turn := { conversation := c, observer }

/-- The turn that a request leads to. -/
def closed (request : Request) : Turn :=
  ((turn recorder (Turn.walkFrom recorder) request).perform (c.opened observer)).2

theorem handle_conversation (request : Request) :
    (c.handle recorder request observer).conversation =
      (c.closed recorder observer request).conversation := rfl

theorem handle_response (request : Request) :
    (c.handle recorder request observer).response =
      ((turn recorder (Turn.walkFrom recorder) request).perform (c.opened observer)).1 := rfl

theorem handle_effects (request : Request) :
    (c.handle recorder request observer).effects =
      (c.closed recorder observer request).effects := rfl

/-- A request gives back what its turn ends with, and leaves what the turn leaves. -/
theorem handle_of_perform {request : Request} {outcome : Except Fault Response} {t : Turn}
    (h : (turn recorder (Turn.walkFrom recorder) request).perform (c.opened observer) =
      (outcome, t)) :
    c.handle recorder request observer = ⟨outcome, t.conversation, t.effects⟩ :=
  congrArg (fun ended => Outcome.mk ended.1 ended.2.conversation ended.2.effects) h

theorem closed_start :
    c.closed recorder observer .start =
      ((Turn.start (Turn.walkFrom recorder)).perform (c.opened observer)).2 := by
  rw [closed, turn, Operation.perform_map]

theorem closed_resume (input : Value) :
    c.closed recorder observer (.resume input) =
      ((Turn.resume recorder (Turn.walkFrom recorder) input).perform (c.opened observer)).2 := by
  rw [closed, turn, Operation.perform_map]

/-- A note is said, or nothing happens when it is no text. -/
theorem closed_note (content : Value) :
    ∃ said, resultsOf said = [] ∧ statesOf said = [] ∧
      c.closed recorder observer (.note content) =
        { conversation := { c with messages := c.messages ++ messagesOf said }
          effects := said, observer } := by
  rw [closed, turn, Operation.perform_map, Turn.note]
  cases content with
  | text content => exact ⟨[.said (c.node.getD "") ⟨.system, content, none⟩], rfl, rfl, rfl⟩
  | _ => exact ⟨[], rfl, rfl, by simp [Turn.sayWith, opened, messagesOf]⟩

theorem closed_start_of_ne_idle (h : c.state ≠ .idle) :
    c.closed recorder observer .start = c.opened observer := by
  rw [closed_start, Turn.start, Operation.perform_bind_ok (Turn.perform_current _),
    if_pos (by exact h)]
  rfl

theorem closed_resume_of_ne_suspended (h : c.state ≠ .suspended) (input : Value) :
    c.closed recorder observer (.resume input) = c.opened observer := by
  rw [closed_resume, Turn.resume, Operation.perform_bind_ok (Turn.perform_current _),
    if_pos (by exact h)]
  rfl

end Handle

theorem becomes_of_leads {observer : Observer} {t' : Turn}
    (h : Turn.Leads (c.opened observer) t') (hplaced : t'.conversation.Placed)
    (hidle : t'.conversation.state ≠ .idle) : c.Becomes t'.effects t'.conversation := by
  obtain ⟨more, heffects, hgraph, hmessages, hpath⟩ := h
  obtain rfl : t'.effects = more := heffects
  exact ⟨hgraph, hmessages, hpath, fun _ => hplaced, fun h => absurd h hidle⟩

/-- A request leads a conversation along a path of states. -/
theorem becomes_meet (hplaced : c.Placed) (occasion : Occasion) :
    c.Becomes (c.meet occasion).effects (c.meet occasion).conversation := by
  obtain ⟨request, recorder, observer⟩ := occasion
  rw [meet, handle_conversation, handle_effects]
  have honward : Turn.Onward c.graph (Turn.walkFrom recorder) := Turn.goes_walkFrom recorder
  cases request with
  | start =>
      by_cases hidle : c.state = .idle
      · have harrives := Turn.arrives_started (t := c.opened observer) honward rfl hidle
        rw [← closed_start] at harrives
        obtain ⟨_, _, _, _, hpath⟩ := harrives.leads
        exact becomes_of_leads (.trans (Turn.leads_moved (by simp [opened, hidle,
          RunState.successors])) harrives.leads) harrives.placed (hpath.ne_idle nofun)
      · rw [closed_start_of_ne_idle c recorder observer hidle]
        exact .refl c
  | resume input =>
      by_cases hsuspended : c.state = .suspended
      · have harrives : Turn.Arrives (c.opened observer)
            ((Turn.resume recorder (Turn.walkFrom recorder) input).perform (c.opened observer)).2 :=
          Turn.arrives_resume honward rfl hplaced input
        rw [← closed_resume] at harrives
        obtain ⟨_, _, _, _, hpath⟩ := harrives.leads
        exact becomes_of_leads harrives.leads harrives.placed
          (hpath.ne_idle (by simp [opened, hsuspended]))
      · rw [closed_resume_of_ne_suspended c recorder observer hsuspended input]
        exact .refl c
  | note content =>
      obtain ⟨said, -, hstates, hclosed⟩ := c.closed_note recorder observer content
      rw [hclosed]
      exact ⟨rfl, rfl, hstates ▸ .stays _, fun h => h, fun h => ⟨h, rfl, rfl⟩⟩

theorem becomes_meetAll (hplaced : c.Placed) (occasions : List Occasion) :
    c.Becomes (c.meetAll occasions).2 (c.meetAll occasions).1 := by
  induction occasions generalizing c with
  | nil => exact .refl c
  | cons occasion rest ih =>
      have hfirst := becomes_meet hplaced occasion
      exact hfirst.trans (ih (hfirst.placed hplaced))

/-- A conversation that is completed does no more than say the notes it is given. -/
theorem meet_of_completed (h : c.state = .completed) (occasion : Occasion) :
    resultsOf (c.meet occasion).effects = [] ∧
      (c.meet occasion).conversation =
        { c with messages := c.messages ++ messagesOf (c.meet occasion).effects } ∧
      ((∀ content, occasion.request ≠ .note content) → (c.meet occasion).effects = []) := by
  obtain ⟨request, recorder, observer⟩ := occasion
  rw [meet, handle_conversation, handle_effects]
  cases request with
  | start =>
      rw [closed_start_of_ne_idle c recorder observer (by rw [h]; decide)]
      exact ⟨rfl, by simp [opened, messagesOf], fun _ => rfl⟩
  | resume input =>
      rw [closed_resume_of_ne_suspended c recorder observer (by rw [h]; decide) input]
      exact ⟨rfl, by simp [opened, messagesOf], fun _ => rfl⟩
  | note content =>
      obtain ⟨said, hresults, -, hclosed⟩ := c.closed_note recorder observer content
      rw [hclosed]
      exact ⟨hresults, rfl, fun hnone => absurd rfl (hnone content)⟩

/-- However requests follow each other: the states told are rounds of running and being suspended
with a completion at the end, and the last of them is the state; a suspended conversation stands at
a step that waits for a person; an idle one is as it was made; a completed one only takes notes; and
messages are only added at the end, told one by one as they are. -/
theorem states_of_meetAll (graph : Graph) (id routine : String) (bindings : Variables)
    (occasions : List Occasion) (next : Occasion) :
    let made : Conversation := { graph, id, routine, bindings }
    let told := (made.meetAll occasions).2
    let c := (made.meetAll occasions).1
    let outcome := c.meet next
    (∃ n, statesOf told <+: .running :: RunState.rounds n ++ [.completed]) ∧
    c.state = (statesOf told).getLast?.getD .idle ∧
    (c.state = .suspended → ∃ step ∈ graph.steps, c.node = some step.id ∧
      (step.type = "buttons" ∨ step.type = "wait_input")) ∧
    (c.state = .idle → c.node = none ∧ c.bindings = bindings) ∧
    (c.state = .completed →
      outcome.conversation =
          { c with messages := c.messages ++ messagesOf outcome.effects } ∧
        resultsOf outcome.effects = [] ∧
        ((∀ content, next.request ≠ .note content) → outcome.effects = [])) ∧
    c.messages = messagesOf told ∧
    outcome.conversation.messages = c.messages ++ messagesOf outcome.effects := by
  intro made told c outcome
  have hplaced : made.Placed := placed_of_idle rfl
  have hbecomes : made.Becomes told c := becomes_meetAll hplaced occasions
  refine ⟨hbecomes.path.begins, hbecomes.path.eq_getLast, ?suspended, ?idle, ?completed, ?messages,
    ?next⟩
  case suspended =>
    intro hsuspended
    obtain ⟨step, hstep, hnode, waiting⟩ := hbecomes.placed hplaced hsuspended
    have hgraph : c.graph = graph := hbecomes.graph
    exact ⟨step, hgraph ▸ hstep, hnode, Step.interactive_iff.mp waiting⟩
  case idle => exact fun hidle => (hbecomes.idle hidle).2
  case completed =>
    intro hcompleted
    obtain ⟨hresults, hsame, hnone⟩ := meet_of_completed hcompleted next
    exact ⟨hsame, hresults, hnone⟩
  case messages => exact hbecomes.messages
  case next => exact (becomes_meet (hbecomes.placed hplaced) next).messages

end Conversation

end Workflow
