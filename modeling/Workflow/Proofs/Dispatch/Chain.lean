import Workflow.Proofs.Conversation.Walk
import Workflow.Proofs.Dispatch.Steady

/-!
# Chains of steps

`Engine.Chain` is the loop that carries out steps in a row, without any count of them: it lists the
steps that are carried out and says how the loop ends. As long as a routine stays as it is these
steps begin a route through its graph, so there are no more of them than the graph has steps, and a
run that counts its steps is this loop.
-/

namespace Workflow

namespace Engine

variable {X : Type} {perform : X → Context → Fields → Activity (Engine X) Returned}
variable {rely : Engine X → Engine X → Prop}

open Activity (Ends Keeps)

/-- Steps are carried out in a row until one fails or waits or none is left. -/
inductive Chain (perform : X → Context → Fields → Activity (Engine X) Returned)
    (rely : Engine X → Engine X → Prop) :
    Intent → Engine X → List Step → Except Fault (List StepResult) → Engine X → Prop
  /-- A step ends with a fault. -/
  | broken {intent : Intent} {engine engine' : Engine X} {fault : Fault}
      (run : Ends rely (runStep perform intent) engine (.error fault) engine') :
      Chain perform rely intent engine [intent.step] (.error fault) engine'
  /-- What comes after a step cannot be found out. -/
  | lost {intent : Intent} {engine between engine' : Engine X} {result : StepResult} {fault : Fault}
      (run : Ends rely (runStep perform intent) engine (.ok result) between)
      (next : (nextIntent intent result).perform between = (.error fault, engine')) :
      Chain perform rely intent engine [intent.step] (.error fault) engine'
  /-- Nothing comes after a step. -/
  | last {intent : Intent} {engine between engine' : Engine X} {result : StepResult}
      (run : Ends rely (runStep perform intent) engine (.ok result) between)
      (next : (nextIntent intent result).perform between = (.ok none, engine')) :
      Chain perform rely intent engine [intent.step] (.ok [result]) engine'
  /-- The chain goes on after a step. -/
  | more {intent following : Intent} {engine between between' engine' : Engine X}
      {result : StepResult} {steps : List Step} {outcome : Except Fault (List StepResult)}
      (run : Ends rely (runStep perform intent) engine (.ok result) between)
      (next : (nextIntent intent result).perform between = (.ok (some following), between'))
      (rest : Chain perform rely following between' steps outcome engine') :
      Chain perform rely intent engine (intent.step :: steps) (outcome.map (result :: ·)) engine'

/-- What comes of one step and the fuel for more. -/
theorem ends_runSteps_cases {fuel : Nat} {intent : Intent} {engine engine' : Engine X}
    {outcome : Except Fault (List StepResult)}
    (h : Ends rely (runSteps perform (fuel + 1) intent) engine outcome engine') :
    (∃ fault, outcome = .error fault ∧
      Ends rely (runStep perform intent) engine (.error fault) engine') ∨
    ∃ result between, Ends rely (runStep perform intent) engine (.ok result) between ∧
      ((∃ fault, outcome = .error fault ∧
          (nextIntent intent result).perform between = (.error fault, engine')) ∨
        (outcome = .ok [result] ∧
          (nextIntent intent result).perform between = (.ok none, engine')) ∨
        ∃ following later rest,
          (nextIntent intent result).perform between = (.ok (some following), later) ∧
          Ends rely (runSteps perform fuel following) later rest engine' ∧
          outcome = rest.map (result :: ·)) := by
  rw [runSteps] at h
  rcases Activity.ends_bind_iff.mp h with ⟨fault, rfl, run⟩ | ⟨result, between, run, h⟩
  · exact .inl ⟨fault, rfl, run⟩
  refine .inr ⟨result, between, run, ?_⟩
  rcases Activity.ends_bind_iff.mp h with ⟨fault, rfl, next⟩ | ⟨after, later, next, h⟩
  · exact .inl ⟨fault, rfl, Activity.ends_ofOperation_iff.mp next⟩
  replace next := Activity.ends_ofOperation_iff.mp next
  cases after with
  | none =>
      obtain ⟨rfl, rfl⟩ := Activity.ends_ended_iff.mp h
      exact .inr (.inl ⟨rfl, next⟩)
  | some following =>
      refine .inr (.inr ⟨following, later, ?_⟩)
      rcases Activity.ends_bind_iff.mp h with ⟨fault, rfl, rest⟩ | ⟨results, _, rest, h⟩
      · exact ⟨.error fault, next, rest, rfl⟩
      · obtain ⟨rfl, rfl⟩ := Activity.ends_ended_iff.mp h
        exact ⟨.ok results, next, rest, rfl⟩

section Next

variable {found : Option Definition} {graph : Graph} {intent following : Intent}
variable {engine engine' : Engine X} {result : StepResult}

theorem perform_answer (engine : Engine X) (id : String) :
    (∃ fault, engine.store.answer? id = none ∧
      (stored (Store.routine? id)).perform engine = (.error fault, engine)) ∨
    (stored (Store.routine? id)).perform engine = (.ok (engine.store.answer? id), engine) := by
  have hsame : (Store.routine? id).perform engine.store =
      (((Store.routine? id).perform engine.store).1, engine.store) :=
    Prod.ext rfl (Store.perform_ask_snd _ _ engine.store)
  have hstored : (stored (Store.routine? id)).perform engine =
      (((Store.routine? id).perform engine.store).1, engine) := perform_stored_same rfl hsame
  rw [hstored, Store.answer?]
  cases ((Store.routine? id).perform engine.store).1 with
  | error fault => exact .inl ⟨fault, rfl, rfl⟩
  | ok answer => exact .inr rfl

/-- What comes after a step is the step after it in the graph of the routine. -/
theorem nextIntent_outcome (h : engine.Steady intent.routine found)
    (hfound : ∀ d, found = some d → d = graph.definition) {outcome : Except Fault (Option Intent)}
    (hperform : (nextIntent intent result).perform engine = (outcome, engine')) :
    engine'.Steady intent.routine found ∧
      ∀ following, outcome = .ok (some following) →
        found = some graph.definition ∧ following.routine = intent.routine ∧
          result.continues = true ∧ graph.stepAfter? intent.step.id = some following.step := by
  rw [nextIntent] at hperform
  cases hcontinues : result.continues with
  | false =>
      rw [hcontinues] at hperform
      cases hperform
      exact ⟨h, nofun⟩
  | true =>
  rw [hcontinues, if_neg (by decide)] at hperform
  rcases perform_answer engine intent.routine with ⟨fault, hnone, hstored⟩ | hstored
  · rw [Operation.perform_bind_error hstored] at hperform
    cases hperform
    exact ⟨h, nofun⟩
  rw [Operation.perform_bind_ok hstored] at hperform
  cases hanswer : engine.store.answer? intent.routine with
  | none =>
      rw [hanswer] at hperform
      cases hperform
      exact ⟨h, nofun⟩
  | some routine =>
  have hdefinition : found = some routine.definition := by rw [← h.stored, hanswer]; rfl
  rw [hanswer] at hperform
  rcases hgraphOf : (graphOf routine).perform engine with ⟨fault | graph', between⟩ <;>
    obtain ⟨hsteady, hgraph⟩ := graphOf_outcome h hanswer hgraphOf
  · cases hperform.symm.trans (Operation.perform_bind_error hgraphOf)
    exact ⟨hsteady, nofun⟩
  replace hperform := hperform.symm.trans (Operation.perform_bind_ok hgraphOf)
  have hsame : graph'.definition = graph.definition :=
    (hgraph graph' rfl).trans (hfound _ hdefinition)
  cases hask : graph'.ask intent.step.id (graph'.stepAfter? intent.step.id) with
  | error fault =>
      rw [hask] at hperform
      cases hperform
      exact ⟨hsteady, nofun⟩
  | ok after =>
      rw [hask, Operation.perform_bind_ok (Operation.perform_ofExcept (.ok after) between)]
        at hperform
      cases hperform
      refine ⟨hsteady, fun following hfollowing => ?_⟩
      obtain ⟨step, hstep, rfl⟩ := Option.map_eq_some_iff.mp (Except.ok.inj hfollowing)
      refine ⟨by rw [hdefinition, hfound _ hdefinition], rfl, rfl, ?_⟩
      rw [← hstep, Graph.eq_of_ask hask, Graph.stepAfter?_congr hsame]

/-- A step that waits for a person is not followed by another. -/
theorem continues_of_interactive (waiting : intent.step.interactive = true)
    (h : Ends rely (runStep perform intent) engine (.ok result) engine') :
    result.continues = false := by
  rw [runStep, if_pos waiting] at h
  rcases Activity.ends_bind_iff.mp h with ⟨_, hfault, _⟩ | ⟨_, _, _, hend⟩
  · cases hfault
  · cases (Activity.ends_ended_iff.mp hend).1
    rfl

end Next

section Route

variable {found : Option Definition} {graph : Graph} {intent : Intent} {route : List Step}
variable {engine engine' : Engine X} {outcome : Except Fault (List StepResult)} {fuel : Nat}

/-- A route lies ahead of an intent, and the routine it belongs to stays as it is. -/
structure OnRoute (perform : X → Context → Fields → Activity (Engine X) Returned)
    (rely : Engine X → Engine X → Prop) (found : Option Definition) (graph : Graph)
    (intent : Intent) (route : List Step) (engine : Engine X) : Prop where
  known : ∀ d, found = some d → d = graph.definition
  keeps : ∀ x context config, Keeps rely (Steady intent.routine found) (perform x context config)
  steady : engine.Steady intent.routine found
  route : graph.Route intent.step route

/-- The fuel is enough for the route, if there is a routine that follows it. -/
structure Enough (found : Option Definition) (graph : Graph) (route : List Step) (fuel : Nat) :
    Prop where
  pos : 1 ≤ fuel
  length_le : found = some graph.definition → route.length ≤ fuel

/-- Where a chain goes on, its route does, with one step less. -/
theorem OnRoute.next (h : OnRoute perform rely found graph intent route engine)
    {between between' : Engine X} {result : StepResult} {following : Intent}
    (run : Ends rely (runStep perform intent) engine (.ok result) between)
    (next : (nextIntent intent result).perform between = (.ok (some following), between')) :
    ∃ rest, route = intent.step :: rest ∧
      OnRoute perform rely found graph following rest between' ∧
      ∀ fuel, Enough found graph route (fuel + 1) → Enough found graph rest fuel := by
  have hsteady := keeps_runStep h.keeps _ _ _ _ h.steady run
  obtain ⟨hsteady', hfollowing⟩ := nextIntent_outcome hsteady h.known next
  obtain ⟨hdefinition, hroutine, hcontinues, hafter⟩ := hfollowing following rfl
  cases h.route with
  | waits waiting =>
      exact absurd (continues_of_interactive waiting run) (by rw [hcontinues]; decide)
  | ends _ last =>
      rw [Graph.stepAfter?_eq_none_iff.mpr last] at hafter
      cases hafter
  | @goes _ _ rest _ follows hrest =>
      cases hafter.symm.trans follows
      refine ⟨rest, rfl, ⟨h.known, hroutine ▸ h.keeps, hroutine ▸ hsteady', hrest⟩, ?_⟩
      intro fuel henough
      have hlength : rest.length ≤ fuel :=
        Nat.le_of_succ_le_succ (henough.length_le hdefinition)
      exact ⟨(List.length_pos_of_ne_nil hrest.ne_nil).trans_le hlength, fun _ => hlength⟩

/-- The steps of a chain begin the route of its first step. -/
theorem Chain.isPrefix {steps : List Step}
    (chain : Chain perform rely intent engine steps outcome engine')
    (h : OnRoute perform rely found graph intent route engine) : steps <+: route := by
  induction chain generalizing route with
  | broken _ =>
      obtain ⟨rest, rfl⟩ := h.route.exists_cons
      exact ⟨rest, rfl⟩
  | lost _ _ =>
      obtain ⟨rest, rfl⟩ := h.route.exists_cons
      exact ⟨rest, rfl⟩
  | last _ _ =>
      obtain ⟨rest, rfl⟩ := h.route.exists_cons
      exact ⟨rest, rfl⟩
  | more run next _ ih =>
      obtain ⟨rest, rfl, hrest, _⟩ := h.next run next
      exact (List.prefix_cons_inj _).mpr (ih hrest)

/-- A run with enough fuel does what a chain does. -/
theorem exists_chain_of_ends (h : OnRoute perform rely found graph intent route engine)
    (henough : Enough found graph route fuel)
    (hends : Ends rely (runSteps perform fuel intent) engine outcome engine') :
    ∃ steps, Chain perform rely intent engine steps outcome engine' := by
  induction fuel generalizing intent route engine outcome with
  | zero => exact absurd henough.pos (Nat.not_succ_le_zero 0)
  | succ fuel ih =>
      rcases ends_runSteps_cases hends with ⟨fault, rfl, run⟩ | ⟨result, between, run, hafter⟩
      · exact ⟨_, .broken run⟩
      rcases hafter with ⟨fault, rfl, next⟩ | ⟨rfl, next⟩ | ⟨following, _, _, next, hrest, rfl⟩
      · exact ⟨_, .lost run next⟩
      · exact ⟨_, .last run next⟩
      · obtain ⟨_, _, honward, hless⟩ := h.next run next
        obtain ⟨steps, chain⟩ := ih honward (hless fuel henough) hrest
        exact ⟨_, .more run next chain⟩

/-- A chain is what a run with enough fuel may do. -/
theorem Chain.ends {steps : List Step}
    (chain : Chain perform rely intent engine steps outcome engine')
    (h : OnRoute perform rely found graph intent route engine)
    (henough : Enough found graph route fuel) :
    Ends rely (runSteps perform fuel intent) engine outcome engine' := by
  induction chain generalizing route fuel with
  | broken run =>
      obtain ⟨fuel, rfl⟩ : ∃ n, fuel = n + 1 := Nat.exists_eq_add_of_le' henough.pos
      exact Activity.ends_bind_iff.mpr (.inl ⟨_, rfl, run⟩)
  | lost run next =>
      obtain ⟨fuel, rfl⟩ : ∃ n, fuel = n + 1 := Nat.exists_eq_add_of_le' henough.pos
      refine Activity.ends_bind_iff.mpr (.inr ⟨_, _, run, ?_⟩)
      exact Activity.ends_bind_iff.mpr (.inl ⟨_, rfl, Activity.ends_ofOperation_iff.mpr next⟩)
  | last run next =>
      obtain ⟨fuel, rfl⟩ : ∃ n, fuel = n + 1 := Nat.exists_eq_add_of_le' henough.pos
      refine Activity.ends_bind_iff.mpr (.inr ⟨_, _, run, ?_⟩)
      exact Activity.ends_bind_iff.mpr
        (.inr ⟨_, _, Activity.ends_ofOperation_iff.mpr next, .ended _ _⟩)
  | @more _ _ _ _ _ _ _ _ outcome run next _ ih =>
      obtain ⟨fuel, rfl⟩ : ∃ n, fuel = n + 1 := Nat.exists_eq_add_of_le' henough.pos
      obtain ⟨_, _, hrest, hless⟩ := h.next run next
      have hends := ih hrest (hless fuel henough)
      refine Activity.ends_bind_iff.mpr (.inr ⟨_, _, run, ?_⟩)
      refine Activity.ends_bind_iff.mpr (.inr ⟨_, _, Activity.ends_ofOperation_iff.mpr next, ?_⟩)
      cases outcome with
      | error fault => exact Activity.ends_bind_iff.mpr (.inl ⟨fault, rfl, hends⟩)
      | ok results => exact Activity.ends_bind_iff.mpr (.inr ⟨results, _, hends, .ended _ _⟩)

theorem perform_stepCount (engine : Engine X) (id : String) :
    ∃ n, (stepCount id).perform engine = (.ok n, engine) ∧
      ∀ d, (engine.store.answer? id).map Routine.definition = some d → n = d.steps.length := by
  rcases perform_answer engine id with ⟨fault, hnone, hstored⟩ | hstored
  · refine ⟨0, ?_, fun d hd => ?_⟩
    · rw [stepCount, Operation.perform_bind, Operation.perform_attempt, hstored]
      rfl
    · rw [hnone] at hd
      cases hd
  · cases hanswer : engine.store.answer? id with
    | none =>
        refine ⟨0, ?_, nofun⟩
        rw [stepCount, Operation.perform_bind, Operation.perform_attempt, hstored, hanswer]
        rfl
    | some routine =>
        refine ⟨routine.definition.steps.length, ?_, ?_⟩
        · rw [stepCount, Operation.perform_bind, Operation.perform_attempt, hstored, hanswer]
          rfl
        · rintro d ⟨⟩
          rfl

/-- The steps that are counted are enough, so a chain is the loop that counts nothing. -/
theorem ends_runChain_iff (hstep : intent.step ∈ graph.steps)
    (h : OnRoute perform rely found graph intent route engine) :
    Ends rely (runChain perform intent) engine outcome engine' ↔
      ∃ steps, Chain perform rely intent engine steps outcome engine' := by
  obtain ⟨n, hcount, hlength⟩ := perform_stepCount engine intent.routine
  have henough : Enough found graph route (n + chainAllowance) := by
    refine ⟨by simp [chainAllowance], fun hdefinition => ?_⟩
    have hsize : n = graph.size := hlength _ (h.steady.stored.trans hdefinition)
    rw [hsize]
    exact Nat.le_add_right_of_le (h.route.length_le hstep)
  rw [runChain, Activity.ends_ofOperation_bind_iff hcount]
  constructor
  · exact exists_chain_of_ends h henough
  · rintro ⟨steps, chain⟩
    exact chain.ends h henough

end Route

end Engine

end Workflow
