import Workflow.Proofs.Conversation.Walk
import Workflow.Proofs.Dispatch.Chain

/-!
# Every walk stops

A walk through a graph is a route, whoever takes it: a conversation that starts or takes in a reply,
or a chain of steps that an event sets off. None of them passes a step twice, and so none of them
needs to count the steps it passes.
-/

namespace Workflow.Graph

open Activity (Ends Keeps)
open Engine (Chain Steady runChain)

/-- From each step of a graph a fixed list of distinct steps is passed, up to one that waits for a
person or has no default edge. A request to a conversation carries out the steps of one such list at
most. A chain is the loop that counts nothing and carries out steps from the front of the list, as
long as handlers, and others while these give way, leave the definition of the routine as it is. -/
theorem walks_stop (graph : Graph) :
    ∃ passed : Step → List Step,
      (∀ step ∈ graph.steps, graph.Route step (passed step) ∧
        ((passed step).map Step.id).Nodup ∧ (passed step).length ≤ graph.size) ∧
      (∀ (recorder : Recorder) (request : Request) (t : Turn), t.conversation.graph = graph →
        (Conversation.turn recorder (Turn.walkFrom recorder) request).perform t =
          (Conversation.turn recorder (fun step => Turn.along recorder (passed step))
            request).perform t) ∧
      (∀ (X : Type) (perform : X → Context → Fields → Activity (Engine X) Returned)
        (rely : Engine X → Engine X → Prop) (found : Option Definition) (intent : Intent)
        (engine engine' : Engine X) (outcome : Except Fault (List StepResult)),
        intent.step ∈ graph.steps → (∀ d, found = some d → d = graph.definition) →
        (∀ x context config, Keeps rely (Steady intent.routine found) (perform x context config)) →
        engine.Steady intent.routine found →
        (Ends rely (runChain perform intent) engine outcome engine' ↔
          ∃ steps, Chain perform rely intent engine steps outcome engine') ∧
        ∀ steps, Chain perform rely intent engine steps outcome engine' →
          steps <+: passed intent.step ∧ steps.length ≤ graph.size) := by
  classical
  let passed (step : Step) : List Step :=
    if h : step ∈ graph.steps then (exists_route h).choose else []
  have hpassed : ∀ step ∈ graph.steps, graph.Route step (passed step) := by
    intro step hstep
    rw [show passed step = (exists_route hstep).choose from dif_pos hstep]
    exact (exists_route hstep).choose_spec
  refine ⟨passed, ?routes, ?requests, ?chains⟩
  case routes =>
    intro step hstep
    have hroute := hpassed step hstep
    exact ⟨hroute, hroute.nodup hstep, hroute.length_le hstep⟩
  case requests =>
    intro recorder request t hgraph
    exact Turn.perform_turn_alike (Turn.alike_walkFrom hpassed) hgraph request
  case chains =>
    intro X perform rely found intent engine engine' outcome hstep hfound hkeeps hsteady
    have hroute := hpassed intent.step hstep
    have hahead : Engine.OnRoute perform rely found graph intent (passed intent.step) engine :=
      ⟨hfound, hkeeps, hsteady, hroute⟩
    refine ⟨Engine.ends_runChain_iff hstep hahead, fun steps chain => ?_⟩
    have hfront := chain.isPrefix hahead
    exact ⟨hfront, hfront.length_le.trans (hroute.length_le hstep)⟩

/-- A chain from the trigger of a routine with a tag after it. -/
theorem walks_stop_at_tag :
    let d : Definition :=
      { steps := [{ id := "go", type := "trigger" }, { id := "mark", type := "tag" }]
        edges := [{ source := "go", target := "mark" }] }
    let graph : Graph := ⟨{}, d, by decide +kernel⟩
    let routine : Routine :=
      { id := "r", template := "t", scope := "s", name := "n", definition := d,
        created := ⟨0, none⟩ }
    let engine : Engine Empty := .ofSettings {} (.memory { routines := [routine] })
    let intent : Intent :=
      { routine := "r", execution := "e", step := graph.trigger, context := default }
    ∃ steps outcome engine',
      (runChain Engine.performNone intent).run engine = (outcome, engine') ∧
        Chain Engine.performNone Eq intent engine steps outcome engine' ∧ steps.length ≤ 2 := by
  intro d graph routine engine intent
  obtain ⟨passed, -, -, hchains⟩ := walks_stop graph
  obtain ⟨outcome, engine', hrun⟩ :
      ∃ outcome engine', (runChain Engine.performNone intent).run engine = (outcome, engine') :=
    ⟨_, _, rfl⟩
  have hsteady : engine.Steady intent.routine (some d) := ⟨rfl, fun _ _ _ hentry => nomatch hentry⟩
  obtain ⟨hiff, hbound⟩ := hchains Empty Engine.performNone Eq (some d) intent engine engine'
    outcome graph.trigger_mem_steps (fun _ h => (Option.some.inj h).symm) nofun hsteady
  obtain ⟨steps, chain⟩ := hiff.mp (Activity.ends_eq_iff.mpr hrun)
  exact ⟨steps, outcome, engine', hrun, chain, (hbound steps chain).2⟩

end Workflow.Graph
