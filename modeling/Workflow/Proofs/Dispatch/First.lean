import Workflow.Proofs.Dispatch.Independent

/-!
# The first step of a chain

An event can be followed in each routine or not. Both ways a routine that is due begins with the
same step. A step that waits for nobody has the same result both ways, and the chain goes on from
it. If a later step breaks off then the chain is told of as a failure, and the result of the first
step is lost. A step that waits ends a chain where it begins, while an event that is not followed has
it carried out like any other.
-/

namespace Workflow.Engine

open Activity (Yields)

variable {X : Type} {settings : Settings} {registry : Registry X} {listed : List Routine}
variable {routine : Routine} {engine : Engine X}
variable {perform : X → Context → Fields → Activity (Engine X) Returned}

section Steps

/-- What comes of the first step and of the chain that begins with it. -/
inductive Begins (step : Step) (breaks : Fault → Prop) : Except Fault StepResult →
    Except Fault (List StepResult) → Prop
  /-- The step waits, which ends the chain, and is carried out nevertheless if it is on its own. -/
  | waits {first : Except Fault StepResult} (waiting : step.interactive = true)
      (carried : ∀ result, first = .ok result → result.status ≠ .suspended) :
      Begins step breaks first (.ok [.waiting step])
  /-- The chain begins with the result of the step. -/
  | goes (flowing : step.interactive = false) (result : StepResult) (rest : List StepResult) :
      Begins step breaks (.ok result) (.ok (result :: rest))
  /-- The step itself breaks off. -/
  | breaks (flowing : step.interactive = false) (fault : Fault) :
      Begins step breaks (.error fault) (.error fault)
  /-- The step is a success, and a later one breaks off. -/
  | loses (flowing : step.interactive = false) {result : StepResult} {fault : Fault}
      (success : result.success = true) (later : breaks fault) :
      Begins step breaks (.ok result) (.error fault)

theorem Begins.imp {step : Step} {breaks breaks' : Fault → Prop} {first : Except Fault StepResult}
    {chain : Except Fault (List StepResult)} (h : Begins step breaks first chain)
    (himp : ∀ fault, breaks fault → breaks' fault) : Begins step breaks' first chain := by
  cases h with
  | waits waiting carried => exact .waits waiting carried
  | goes flowing result rest => exact .goes flowing result rest
  | breaks flowing fault => exact .breaks flowing fault
  | loses flowing success later => exact .loses flowing success (himp _ later)

variable {graph : Graph}

variable
  (hgraph : Graph.ofDefinition (rules settings) routine.definition = .ok graph)
variable {step : Step} (context : Context)

include hgraph

/-- After a step comes the one its default edge leads to, unless the routine stops there. -/
theorem yields_nextIntent (registry : Registry X) (hstep : step ∈ graph.steps)
    (result : StepResult) (execution : String) (hroutine : routine ∈ listed) :
    Yields (Supplies settings registry listed)
      (.ok (if result.continues then (graph.stepAfter? step.id).map fun next =>
          ofRoutine routine next
            { context with memory := remember context.memory step result } execution
        else none))
      (.ofOperation (nextIntent (ofRoutine routine step context execution) result)) := by
  obtain ⟨found, hfound⟩ := Graph.exists_node? (List.mem_map_of_mem hstep)
  have hask : graph.ask step.id (graph.stepAfter? step.id) = .ok (graph.stepAfter? step.id) := by
    rw [Graph.ask, Graph.node, hfound]
    rfl
  refine .ofOperation fun engine h => ?_
  obtain ⟨engine', hnext, h'⟩ := h.perform_nextIntent context hroutine execution result
  refine ⟨engine', hnext.trans ?_, h'⟩
  rw [stepFollowing, hgraph]
  cases result.continues with
  | false => rfl
  | true =>
      simp only [hask]
      cases graph.stepAfter? step.id <;> rfl

/-- A step after which the routine stops is the last of the steps in a row. -/
theorem yields_runSteps_last (hstep : step ∈ graph.steps) {result : StepResult} {fuel : Nat}
    (hstops : result.continues = false ∨ graph.stepAfter? step.id = none) {execution : String}
    (hroutine : routine ∈ listed)
    (hresult : Yields (Supplies settings registry listed) (.ok result)
      (runStep perform (ofRoutine routine step context execution))) :
    Yields (Supplies settings registry listed) (.ok [result])
      (runSteps perform (fuel + 1) (ofRoutine routine step context execution)) := by
  have hnone : (if result.continues then (graph.stepAfter? step.id).map fun next =>
      ofRoutine routine next { context with memory := remember context.memory step result }
        execution else none) = none := by
    rcases hstops with hstops | hstops
    · simp [hstops]
    · simp [hstops]
  have hnext := yields_nextIntent hgraph context registry hstep result execution hroutine
  rw [hnone] at hnext
  exact .bind hresult (.bind hnext .ended)

/-- After a success the steps in a row go on with the next one. -/
theorem yields_runSteps_onward (hstep : step ∈ graph.steps) {next : Step}
    (follows : graph.stepAfter? step.id = some next) {result : StepResult}
    (hgoes : result.continues = true) {fuel : Nat} {execution : String} (hroutine : routine ∈ listed)
    (hresult : Yields (Supplies settings registry listed) (.ok result)
      (runStep perform (ofRoutine routine step context execution)))
    {outcome : Except Fault (List StepResult)}
    (hlater : Yields (Supplies settings registry listed) outcome (runSteps perform fuel
      (ofRoutine routine next
        { context with memory := remember context.memory step result } execution))) :
    Yields (Supplies settings registry listed) (outcome.map (result :: ·))
      (runSteps perform (fuel + 1) (ofRoutine routine step context execution)) := by
  have hnext := yields_nextIntent hgraph context registry hstep result execution hroutine
  simp only [hgoes, follows, if_true, Option.map_some] at hnext
  cases outcome with
  | error fault => exact .bind hresult (.bind hnext (.bind_error hlater))
  | ok results => exact .bind hresult (.bind hnext (.bind hlater .ended))

variable (hequipped : Equipped perform settings registry routine)

include hequipped

/-- What comes of a step that is carried out whatever it is, and of the same step in a chain. -/
theorem exists_runStep (hstep : step ∈ graph.steps) : ∃ outcome first : Except Fault StepResult,
    (∀ result, outcome = .ok result → result.status ≠ .suspended) ∧
    (∀ result, first = .ok result → result.Fits step) ∧
    (step.interactive = true → first = .ok (.waiting step)) ∧
    (step.interactive = false → first = outcome) ∧
    ∀ execution listed, routine ∈ listed →
      Yields (Supplies settings registry listed) outcome
        (runFirst perform (ofRoutine routine step context execution)) ∧
      Yields (Supplies settings registry listed) first
        (runStep perform (ofRoutine routine step context execution)) := by
  have hmem : step ∈ routine.definition.steps := by
    rwa [← (Graph.of_ofDefinition hgraph).2]
  obtain ⟨outcome, hfits, houtcome⟩ := exists_runFirst hequipped hmem context
  have hstatus (result : StepResult) (hresult : outcome = .ok result) :
      result.status ≠ .suspended := by
    rw [(hfits result hresult).2]
    split <;> decide
  have hshape (execution : String) : runStep perform (ofRoutine routine step context execution) =
      if step.interactive then do
        Activity.ofOperation
          (auditResult (ofRoutine routine step context execution) (.waiting step))
        pure (StepResult.waiting step)
      else runFirst perform (ofRoutine routine step context execution) := rfl
  cases hwaits : step.interactive with
  | true =>
      refine ⟨outcome, .ok (.waiting step), hstatus, ?_, fun _ => rfl, nofun,
        fun execution listed hroutine => ⟨houtcome execution listed hroutine, ?_⟩⟩
      · rintro _ ⟨rfl⟩
        exact ⟨fun _ => rfl, fun hflows => absurd (hflows.symm.trans hwaits) Bool.false_ne_true⟩
      · rw [hshape, hwaits]
        exact .bind (yields_auditResult _ _) .ended
  | false =>
      refine ⟨outcome, outcome, hstatus, fun result hresult => ⟨fun h => ?_, fun _ =>
        hfits result hresult⟩, nofun, fun _ => rfl,
        fun execution listed hroutine => ⟨houtcome execution listed hroutine, ?_⟩⟩
      · exact absurd (hwaits.symm.trans h) Bool.false_ne_true
      · rw [hshape, hwaits]
        exact houtcome execution listed hroutine

/-- A step of the routine breaks off with the fault, in some context. -/
def BreaksIn (perform : X → Context → Fields → Activity (Engine X) Returned) (settings : Settings)
    (registry : Registry X) (routine : Routine) (fault : Fault) : Prop :=
  ∃ later ∈ routine.definition.steps, later.interactive = false ∧ ∃ context,
    ∀ execution listed, routine ∈ listed → Yields (Supplies settings registry listed)
      (.error fault) (runFirst perform (ofRoutine routine later context execution))

/-- Steps in a row begin with the result of the first one, unless a later one breaks off. The
induction is on the route, so that the fuel is enough. -/
theorem exists_runSteps {route : List Step} (hroute : graph.Route step route)
    (hstep : step ∈ graph.steps) {fuel : Nat} (hfuel : route.length ≤ fuel) {first : StepResult}
    (hfits : first.Fits step)
    (hfirst : ∀ execution listed, routine ∈ listed →
      Yields (Supplies settings registry listed) (.ok first)
        (runStep perform (ofRoutine routine step context execution))) :
    ∃ outcome : Except Fault (List StepResult),
      (∀ execution listed, routine ∈ listed → Yields (Supplies settings registry listed) outcome
        (runSteps perform fuel (ofRoutine routine step context execution))) ∧
      ((∃ rest, outcome = .ok (first :: rest) ∧ (step.interactive = true → rest = [])) ∨
        first.success = true ∧ step.interactive = false ∧
          ∃ fault, outcome = .error fault ∧ BreaksIn perform settings registry routine fault) := by
  induction hroute generalizing fuel context first with
  | waits waiting =>
      obtain ⟨fuel, rfl⟩ := Nat.exists_eq_add_of_le' hfuel
      have hstops : first.continues = false := by
        rw [hfits.waits waiting]
        rfl
      exact ⟨.ok [first], fun execution listed hroutine => yields_runSteps_last hgraph context hstep
        (.inl hstops) hroutine (hfirst execution listed hroutine), .inl ⟨[], rfl, fun _ => rfl⟩⟩
  | ends flowing last =>
      obtain ⟨fuel, rfl⟩ := Nat.exists_eq_add_of_le' hfuel
      have hstops := Graph.stepAfter?_eq_none_iff.mpr last
      exact ⟨.ok [first], fun execution listed hroutine => yields_runSteps_last hgraph context hstep
        (.inr hstops) hroutine (hfirst execution listed hroutine), .inl ⟨[], rfl, fun _ => rfl⟩⟩
  | @goes step next route flowing follows hrest ih =>
      obtain ⟨fuel, rfl⟩ : ∃ k, fuel = k + 1 :=
        Nat.exists_eq_add_of_le' (Nat.le_trans (Nat.succ_le_succ (Nat.zero_le _)) hfuel)
      cases hsuccess : first.success with
      | false =>
          have hstops : first.continues = false := (hfits.flows flowing).1.trans hsuccess
          exact ⟨.ok [first], fun execution listed hroutine => yields_runSteps_last hgraph context
            hstep (.inl hstops) hroutine (hfirst execution listed hroutine),
            .inl ⟨[], rfl, fun _ => rfl⟩⟩
      | true =>
          have hgoes : first.continues = true := (hfits.flows flowing).1.trans hsuccess
          have hmem := Graph.mem_steps_of_stepAfter? follows
          let onward : Context := { context with memory := remember context.memory step first }
          have honward {outcome : Except Fault (List StepResult)}
              (hlater : ∀ execution listed, routine ∈ listed →
                Yields (Supplies settings registry listed) outcome
                  (runSteps perform fuel (ofRoutine routine next onward execution)))
              (execution : String) (listed : List Routine) (hroutine : routine ∈ listed) :=
            yields_runSteps_onward hgraph context hstep follows hgoes hroutine
              (hfirst execution listed hroutine) (hlater execution listed hroutine)
          obtain ⟨_, second, -, hsecond, hwaits, hflows, hruns⟩ :=
            exists_runStep hgraph onward hequipped hmem
          cases second with
          | error fault =>
              have hnever : next.interactive = false := by
                cases hkind : next.interactive with
                | false => rfl
                | true => cases hwaits hkind
              have hbreaks := hflows hnever
              obtain ⟨fuel, rfl⟩ : ∃ k, fuel = k + 1 := by
                obtain ⟨k, hk⟩ := hrest.exists_cons
                refine Nat.exists_eq_add_of_le' (Nat.le_trans ?_ (Nat.le_of_succ_le_succ hfuel))
                rw [hk]
                exact Nat.succ_le_succ (Nat.zero_le _)
              have hbroken (execution : String) (listed : List Routine) (hroutine : routine ∈ listed) :
                  Yields (Supplies settings registry listed) (.error fault)
                    (runSteps perform (fuel + 1) (ofRoutine routine next onward execution)) :=
                .bind_error (hruns execution listed hroutine).2
              refine ⟨.error fault, honward hbroken, .inr ⟨rfl, flowing, fault, rfl, next, ?_, hnever,
                onward, fun execution listed hroutine => ?_⟩⟩
              · rwa [← (Graph.of_ofDefinition hgraph).2]
              · rw [hbreaks]
                exact (hruns execution listed hroutine).1
          | ok second =>
              obtain ⟨outcome, hlater, hcases⟩ := ih onward hmem (Nat.le_of_succ_le_succ hfuel)
                (hsecond second rfl) fun execution listed hroutine =>
                  (hruns execution listed hroutine).2
              rcases hcases with ⟨rest, rfl, -⟩ | ⟨-, -, fault, rfl, hbreaks⟩
              · refine ⟨.ok (first :: second :: rest), honward hlater, .inl ⟨_, rfl, fun h => ?_⟩⟩
                exact absurd (flowing.symm.trans h) Bool.false_ne_true
              · exact ⟨.error fault, honward hlater, .inr ⟨rfl, flowing, fault, rfl, hbreaks⟩⟩

/-- A chain begins with the result of its first step, unless this waits or a later one breaks off. -/
theorem exists_runChain (hstep : step ∈ graph.steps) :
    ∃ (first : Except Fault StepResult) (chain : Except Fault (List StepResult)),
      Begins step (BreaksIn perform settings registry routine) first chain ∧
      ∀ execution listed, routine ∈ listed →
        Yields (Supplies settings registry listed) first
          (runFirst perform (ofRoutine routine step context execution)) ∧
        Yields (Supplies settings registry listed) chain
          (runChain perform (ofRoutine routine step context execution)) := by
  obtain ⟨outcome, first, hstatus, hfits, hwaits, hflows, hruns⟩ :=
    exists_runStep hgraph context hequipped hstep
  obtain ⟨route, hroute⟩ := Graph.exists_route hstep
  have hsteps : routine.definition.steps = graph.steps := by
    rw [Graph.steps, (Graph.of_ofDefinition hgraph).2]
  have hfuel : route.length ≤ routine.definition.steps.length + chainAllowance := by
    have hlength : route.length ≤ graph.steps.length := hroute.length_le hstep
    rw [hsteps]
    omega
  -- the chain is a run of steps, with fuel for all steps of the routine
  have hcounted {chain : Except Fault (List StepResult)}
      (hchain : ∀ execution listed, routine ∈ listed →
        Yields (Supplies settings registry listed) chain
          (runSteps perform (routine.definition.steps.length + chainAllowance)
            (ofRoutine routine step context execution))) (execution : String)
      (listed : List Routine) (hroutine : routine ∈ listed) :
      Yields (Supplies settings registry listed) chain
        (runChain perform (ofRoutine routine step context execution)) := by
    refine .bind (.ofOperation fun engine h => ⟨engine, ?_, h⟩) (hchain execution listed hroutine)
    have hattempt : (stored (Store.routine? routine.id)).attempt.perform engine =
        (.ok (.ok (some routine)), engine) := by
      rw [Operation.perform_attempt, h.perform_routine? hroutine]
    exact Operation.perform_bind_ok hattempt
  cases first with
  | error fault =>
      have hflowing : step.interactive = false := by
        cases hkind : step.interactive with
        | false => rfl
        | true => cases hwaits hkind
      refine ⟨outcome, .error fault, hflows hflowing ▸ .breaks hflowing fault,
        fun execution listed hroutine => ⟨(hruns execution listed hroutine).1,
          hcounted (fun execution listed hroutine => ?_) execution listed hroutine⟩⟩
      obtain ⟨fuel, hsome⟩ : ∃ fuel, routine.definition.steps.length + chainAllowance = fuel + 1 :=
        Nat.exists_eq_add_of_le' (Nat.le_trans (by decide) (Nat.le_add_left chainAllowance _))
      rw [hsome]
      exact .bind_error (hruns execution listed hroutine).2
  | ok first =>
      obtain ⟨chain, hchain, hcases⟩ := exists_runSteps hgraph context hequipped hroute hstep hfuel
        (hfits first rfl) fun execution listed hroutine => (hruns execution listed hroutine).2
      refine ⟨outcome, chain, ?_, fun execution listed hroutine =>
        ⟨(hruns execution listed hroutine).1, hcounted hchain execution listed hroutine⟩⟩
      rcases hcases with ⟨rest, rfl, hlast⟩ | ⟨hsuccess, hflowing, fault, rfl, hbreaks⟩
      · cases hkind : step.interactive with
        | false => exact hflows hkind ▸ .goes hkind first rest
        | true =>
            obtain rfl := Except.ok.inj (hwaits hkind)
            obtain rfl := hlast hkind
            exact .waits hkind hstatus
      · exact hflows hflowing ▸ .loses hflowing hsuccess hbreaks

end Steps

section Event

variable (key : String) (payload : Fields) (scope : String)

/-- The step an event makes a routine due for, if it does. -/
def Verdict.step? : Verdict → Option Step
  | .due step => some step
  | .broken | .wordless | .silent | .inactive | .stepless => none

/-- The routines that an event makes due, each with the step it is due for. -/
def due (settings : Settings) (key : String) (payload : Fields) (routines : List Routine) :
    List (Routine × Step) :=
  routines.filterMap fun routine =>
    (verdictOf settings key payload routine).step?.map fun step => (routine, step)

theorem mem_due_iff {step : Step} : (routine, step) ∈ due settings key payload listed ↔
    routine ∈ listed ∧ verdictOf settings key payload routine = .due step := by
  have hstep (meant : Verdict) : meant.step? = some step ↔ meant = .due step := by
    cases meant <;> simp [Verdict.step?]
  simp [due, hstep]

/-- A routine that is due has the step in the graph its definition gives. -/
theorem exists_graph_of_verdictOf {step : Step}
    (hdue : verdictOf settings key payload routine = .due step) :
    ∃ graph, Graph.ofDefinition (rules settings) routine.definition = .ok graph ∧
      step ∈ graph.steps := by
  have hmem := mem_steps_of_verdictOf key payload hdue
  unfold verdictOf at hdue
  split at hdue
  · rename_i graph hgraph
    refine ⟨graph, hgraph, ?_⟩
    rwa [Graph.steps, (Graph.of_ofDefinition hgraph).2]
  · cases hdue

/-- What comes to each routine that is due comes to the routines together, in their order. -/
theorem flatMap_due {α : Type} (answer : Routine × Step → α) :
    listed.flatMap (fun routine => ((verdictOf settings key payload routine).step?.map
      fun step => (routine.id, answer (routine, step))).toList) =
      (due settings key payload listed).map fun d => (d.1.id, answer d) := by
  rw [due, List.map_filterMap, List.filterMap_eq_flatMap_toList]
  refine congrArg (fun f => listed.flatMap f) (funext fun routine => ?_)
  rw [Option.map_map]
  rfl

/-- A routine that is due, carried out on its own. -/
def begun (d : Routine × Step) : Intent :=
  ofRoutine d.1 d.2 { routine := d.1.id, scope, payload } ""

/-- What an intent comes to that is carried out with one outcome. -/
theorem comesTo_due {α : Type} {run : Intent → Activity (Engine X) α}
    (told : Intent → Fault → Except Fault α) (answer : Routine × Step → Except Fault α)
    (htold : ∀ step context execution, told (ofRoutine routine step context execution) =
      told (ofRoutine routine step context ""))
    (hrun : ∀ step, verdictOf settings key payload routine = .due step → ∀ execution,
      Yields (Supplies settings registry listed) (answer (routine, step))
        (run (ofRoutine routine step { routine := routine.id, scope, payload } execution)))
    (n : Nat) :
    List.Forall₂ (ComesTo settings registry listed run told)
      ((verdictOf settings key payload routine).intents payload scope routine n)
      ((verdictOf settings key payload routine).step?.map fun step => (routine.id,
        recovered told (begun payload scope (routine, step)) (answer (routine, step)))).toList := by
  cases hmeant : verdictOf settings key payload routine with
  | due step =>
      refine .cons ⟨rfl, answer (routine, step), hrun step hmeant _, ?_⟩ .nil
      change recovered told _ (answer (routine, step)) = recovered told _ (answer (routine, step))
      cases answer (routine, step) with
      | ok a => rfl
      | error fault => exact congrFun (htold step _ _) fault
  | broken | wordless | silent | inactive | stepless => exact .nil

/-- Two lists agree that come of a third one just if they do so at each of its elements. -/
theorem map_eq_map_iff_of_forall₂ {α β γ δ : Type} {A : α → β → Prop} {B : α → γ → Prop}
    {Q : α → Prop} {f : γ → δ} {g : β → δ} {as : List α} {bs : List β} {cs : List γ}
    (hbs : List.Forall₂ A as bs) (hcs : List.Forall₂ B as cs)
    (h : ∀ a ∈ as, ∀ b c, A a b → B a c → (f c = g b ↔ Q a)) :
    cs.map f = bs.map g ↔ ∀ a ∈ as, Q a := by
  induction hbs generalizing cs with
  | nil =>
      cases hcs
      simp
  | cons hfirst _ ih =>
      cases hcs with
      | cons hfirst' hrest =>
          obtain ⟨hhead, htail⟩ := List.forall_mem_cons.mp h
          rw [List.map_cons, List.map_cons, List.cons.injEq, hhead _ _ hfirst hfirst', ih hrest htail,
            List.forall_mem_cons]

/-- The head of a chain is the result of its first step just if this does not wait, and if no later
step breaks off. -/
theorem Begins.head_eq_iff {d : Routine × Step} {breaks : Fault → Prop}
    {first : Except Fault StepResult} {chain : Except Fault (List StepResult)}
    (h : Begins d.2 breaks first chain) {result : StepResult} {results : List StepResult}
    (hresult : recovered crashed (begun payload scope d) first = .ok result)
    (hresults : recovered crashedChain (begun payload scope d) chain = .ok results) :
    results.head? = some result ↔ d.2.interactive = false ∧
      ∀ carried fault, first = .ok carried → chain ≠ .error fault := by
  have hcrashed {fault : Fault} {results : List StepResult}
      (h : recovered crashedChain (begun payload scope d) (.error fault) = .ok results) :
      ∃ words, fault.wording = .ok words ∧
        results = [.failed (begun payload scope d).step words] := by
    obtain ⟨result, hresult, rfl⟩ := crashedChain_eq_ok_iff.mp h
    obtain ⟨words, hwords, rfl⟩ := crashed_eq_ok_iff.mp hresult
    exact ⟨words, hwords, rfl⟩
  cases h with
  | waits waiting carried =>
      obtain rfl := Except.ok.inj hresults
      have hstatus : result.status ≠ .suspended := by
        cases first with
        | ok first =>
            obtain rfl := Except.ok.inj hresult
            exact carried first rfl
        | error fault =>
            obtain ⟨words, -, rfl⟩ := crashed_eq_ok_iff.mp hresult
            exact ResultStatus.noConfusion
      constructor
      · intro hsame
        obtain rfl := Option.some.inj hsame
        exact absurd rfl hstatus
      · rintro ⟨hflows, -⟩
        exact absurd (hflows.symm.trans waiting) Bool.false_ne_true
  | goes flowing first rest =>
      obtain rfl := Except.ok.inj hresult
      obtain rfl := Except.ok.inj hresults
      exact ⟨fun _ => ⟨flowing, fun _ _ _ hbroken => nomatch hbroken⟩, fun _ => rfl⟩
  | breaks flowing fault =>
      obtain ⟨words, hwords, rfl⟩ := crashed_eq_ok_iff.mp hresult
      obtain ⟨words', hwords', rfl⟩ := hcrashed hresults
      obtain rfl := Except.ok.inj (hwords.symm.trans hwords')
      exact ⟨fun _ => ⟨flowing, fun _ _ hcarried => nomatch hcarried⟩, fun _ => rfl⟩
  | @loses _ first fault success later =>
      obtain rfl := Except.ok.inj hresult
      obtain ⟨words, -, rfl⟩ := hcrashed hresults
      constructor
      · intro hsame
        obtain rfl := Option.some.inj hsame
        cases success
      · rintro ⟨-, hnever⟩
        exact absurd rfl (hnever _ fault rfl)

/-- The result of an activity with one outcome, in an engine that has what it takes. -/
theorem Supplies.outcome {α : Type} {outcome : Except Fault α} {p : Activity (Engine X) α}
    (h : engine.Supplies settings registry listed)
    (hyields : Yields (Supplies settings registry listed) outcome p) :
    (p.run engine).1 = outcome := by
  obtain ⟨engine', hrun, -⟩ := hyields.run h
  rw [hrun]

/-- What a routine that is due comes to in one engine is what it comes to in any run. -/
theorem begins_due (hequipped : ∀ r ∈ listed, Equipped perform settings registry r)
    (h : engine.Supplies settings registry listed) {d : Routine × Step}
    (hd : d ∈ due settings key payload listed) :
    let first := ((runFirst perform (begun payload scope d)).run engine).1
    let chain := ((runChain perform (begun payload scope d)).run engine).1
    Begins d.2 (BreaksIn perform settings registry d.1) first chain ∧
      ∀ execution,
        Yields (Supplies settings registry listed) first (runFirst perform
          (ofRoutine d.1 d.2 { routine := d.1.id, scope, payload } execution)) ∧
        Yields (Supplies settings registry listed) chain (runChain perform
          (ofRoutine d.1 d.2 { routine := d.1.id, scope, payload } execution)) := by
  intro first chain
  obtain ⟨hroutine, hverdict⟩ := (mem_due_iff key payload).mp hd
  obtain ⟨graph, hgraph, hstep⟩ := exists_graph_of_verdictOf key payload hverdict
  obtain ⟨outcome, whole, hbegins, hruns⟩ := exists_runChain hgraph
    { routine := d.1.id, scope, payload } (hequipped d.1 hroutine) hstep
  obtain rfl : first = outcome := h.outcome (hruns "" listed hroutine).1
  obtain rfl : chain = whole := h.outcome (hruns "" listed hroutine).2
  exact ⟨hbegins, fun execution => hruns execution listed hroutine⟩

/-- When all triggers have words, the event is answered with what the routines that are due come to. -/
theorem answers_due (hequipped : ∀ r ∈ listed, Equipped perform settings registry r)
    (hlists : engine.Lists settings registry scope listed)
    (hworded : ∀ r ∈ listed, verdictOf settings key payload r ≠ .wordless) :
    let due := due settings key payload listed
    let first (d : Routine × Step) := ((runFirst perform (begun payload scope d)).run engine).1
    let chain (d : Routine × Step) := ((runChain perform (begun payload scope d)).run engine).1
    ((dispatch perform key payload scope).run engine).1 =
      (gathered (due.map fun d => (d.1.id,
        recovered crashed (begun payload scope d) (first d)))).map (List.map Prod.snd) ∧
    ((dispatchChains perform key payload scope).run engine).1 =
      gathered (due.map fun d => (d.1.id,
        recovered crashedChain (begun payload scope d) (chain d))) := by
  intro due first chain
  have hruns {r : Routine} (hr : r ∈ listed) {step : Step}
      (hverdict : verdictOf settings key payload r = .due step) :=
    (begins_due key payload scope hequipped hlists.toSupplies
      ((mem_due_iff key payload).mpr ⟨hr, hverdict⟩)).2
  have hgives := hlists.toSupplies.gives key payload scope hlists.listing hworded
    (fun r hr => comesTo_due key payload scope crashed first (fun _ _ _ => rfl)
      fun step hverdict execution => (hruns hr hverdict execution).1)
    fun r hr => comesTo_due key payload scope crashedChain chain (fun _ _ _ => rfl)
      fun step hverdict execution => (hruns hr hverdict execution).2
  simp only [flatMap_due key payload fun d => recovered crashed (begun payload scope d) (first d),
    flatMap_due key payload fun d => recovered crashedChain (begun payload scope d) (chain d)]
    at hgives
  exact ⟨hgives.dispatch, hgives.chains⟩

/-- The results are the heads of the chains just if this holds of every routine that is due. -/
theorem heads_eq_iff_of_gathered {due : List (Routine × Step)}
    {first : Routine × Step → Except Fault StepResult}
    {chain : Routine × Step → Except Fault (List StepResult)}
    {breaks : Routine × Step → Fault → Prop}
    (hbegins : ∀ d ∈ due, Begins d.2 (breaks d) (first d) (chain d))
    {answers : List StepResult} {followed : List (String × List StepResult)}
    (hanswers : (gathered (due.map fun d => (d.1.id,
      recovered crashed (begun payload scope d) (first d)))).map (List.map Prod.snd) = .ok answers)
    (hfollowed : gathered (due.map fun d => (d.1.id,
      recovered crashedChain (begun payload scope d) (chain d))) = .ok followed) :
    followed.map (fun chain => chain.2.head?) = answers.map some ↔
      ∀ d ∈ due, d.2.interactive = false ∧
        ∀ result fault, first d = .ok result → chain d ≠ .error fault := by
  cases hgathered : gathered (due.map fun d => (d.1.id,
      recovered crashed (begun payload scope d) (first d))) with
  | error fault =>
      rw [hgathered] at hanswers
      cases hanswers
  | ok told =>
      rw [hgathered] at hanswers
      obtain rfl : told.map Prod.snd = answers := Except.ok.inj hanswers
      rw [List.map_map]
      exact map_eq_map_iff_of_forall₂ (List.forall₂_map_left_iff.mp (forall₂_of_gathered hgathered))
        (List.forall₂_map_left_iff.mp (forall₂_of_gathered hfollowed))
        fun d hd _ _ hresult hresults =>
          (hbegins d hd).head_eq_iff payload scope hresult.2 hresults.2

/-- An event comes to each routine that is due, as the first step of the routine and its chain do on
their own. If a routine of the scope has a trigger without words then the event breaks off; otherwise
there is a result for each routine that is due, and a chain when the event is followed, in their
order, and a routine that breaks off is told of as the failure of its first step, if there are words
for that. A chain begins with the result of its routine, with two exceptions: a first step that waits
ends the chain where it begins, and a step after the first one that breaks off leaves of the chain
only a failure. So the results are the first ones of the chains exactly if no routine is due for a
step that waits and no chain breaks off after its first step. -/
theorem results_eq_heads_iff (hequipped : ∀ r ∈ listed, Equipped perform settings registry r)
    (hlists : engine.Lists settings registry scope listed) :
    let due := due settings key payload listed
    let first (d : Routine × Step) := ((runFirst perform (begun payload scope d)).run engine).1
    let chain (d : Routine × Step) := ((runChain perform (begun payload scope d)).run engine).1
    let results := ((dispatch perform key payload scope).run engine).1
    let chains := ((dispatchChains perform key payload scope).run engine).1
    ((∃ r ∈ listed, verdictOf settings key payload r = .wordless) →
      results = .error (.oversizeNumber .written) ∧ chains = .error (.oversizeNumber .written)) ∧
    ((∀ r ∈ listed, verdictOf settings key payload r ≠ .wordless) →
      results = (gathered (due.map fun d => (d.1.id,
        recovered crashed (begun payload scope d) (first d)))).map (List.map Prod.snd) ∧
      chains = gathered (due.map fun d => (d.1.id,
        recovered crashedChain (begun payload scope d) (chain d)))) ∧
    (∀ d ∈ due, Begins d.2 (fun fault => ∃ later ∈ d.1.definition.steps,
      later.interactive = false ∧ ∃ context,
        ((runFirst perform (ofRoutine d.1 later context "")).run engine).1 = .error fault)
      (first d) (chain d)) ∧
    ∀ answers followed, results = .ok answers → chains = .ok followed →
      (followed.map (fun chain => chain.2.head?) = answers.map some ↔
        ∀ d ∈ due, d.2.interactive = false ∧
          ∀ result fault, first d = .ok result → chain d ≠ .error fault) := by
  intro due first chain results chains
  have hbegins (d : Routine × Step) (hd : d ∈ due) :=
    begins_due key payload scope hequipped hlists.toSupplies hd
  have hwordless (h : ∃ r ∈ listed, verdictOf settings key payload r = .wordless) :
      results = .error (.oversizeNumber .written) ∧ chains = .error (.oversizeNumber .written) := by
    have hgives : Gives perform key payload scope engine _ _ 0 :=
      hlists.toSupplies.gives_wordless key payload scope hlists.listing h 0
    exact ⟨hgives.dispatch, hgives.chains⟩
  refine ⟨hwordless, answers_due key payload scope hequipped hlists, fun d hd => ?_,
    fun answers followed hanswers hfollowed => ?_⟩
  · refine (hbegins d hd).1.imp ?_
    rintro fault ⟨later, hlater, hflows, context, hbreaks⟩
    have hroutine : d.1 ∈ listed := ((mem_due_iff key payload).mp hd).1
    exact ⟨later, hlater, hflows, context, hlists.toSupplies.outcome (hbreaks "" listed hroutine)⟩
  · have hworded (r : Routine) (hr : r ∈ listed) : verdictOf settings key payload r ≠ .wordless := by
      intro hmute
      cases hanswers.symm.trans (hwordless ⟨r, hr, hmute⟩).1
    obtain ⟨hresults, hchains⟩ := answers_due key payload scope hequipped hlists hworded
    exact heads_eq_iff_of_gathered payload scope (fun d hd => (hbegins d hd).1)
      (hresults.symm.trans hanswers) (hchains.symm.trans hfollowed)

end Event

section Buttons

/-- Buttons with the key of a handler. -/
def keyedButtons : Step :=
  { id := "ask", type := "buttons", key := some Builtin.addTag.key
    config := [("tag_name", .text "asked")] }

/-- A routine that is due for a step without a handler, one for buttons and one for a tag. -/
def buttonRoutines : List Routine :=
  [unrulyRoutine 0 [{ id := "act", type := "action", key := some "none" }] .active,
    unrulyRoutine 1 [keyedButtons] .active, unrulyRoutine 2 [unrulyRoutines.tag] .active]

theorem lists_buttonRoutines :
    (unrulyEngine buttonRoutines).Lists {} unrulyRegistry "s" buttonRoutines :=
  ⟨supplies_unrulyEngine (by decide +kernel),
    listing_of_held rfl (by decide +kernel) (by decide +kernel) (by decide +kernel)⟩

/-- Among three routines that are due the buttons come second. -/
theorem results_eq_heads_iff_beside_buttons :
    (∀ r ∈ buttonRoutines, Equipped unruly {} unrulyRegistry r) ∧
    (unrulyEngine buttonRoutines).Lists {} unrulyRegistry "s" buttonRoutines ∧
    (∀ r ∈ buttonRoutines, verdictOf {} "k" [] r ≠ .wordless) ∧
    (due {} "k" [] buttonRoutines).map (fun d => d.2.interactive) = [false, true, false] ∧
    ∃ (answers : List StepResult) (followed : List (String × List StepResult)),
      ((dispatch unruly "k" [] "s").run (unrulyEngine buttonRoutines)).1 = .ok answers ∧
      ((dispatchChains unruly "k" [] "s").run (unrulyEngine buttonRoutines)).1 = .ok followed ∧
      ¬ followed.map (fun chain => chain.2.head?) = answers.map some := by
  have hequipped : ∀ r ∈ buttonRoutines, Equipped unruly {} unrulyRegistry r :=
    fun r _ => equipped_unruly r
  have hworded : ∀ r ∈ buttonRoutines, verdictOf {} "k" [] r ≠ .wordless := by decide +kernel
  have hdue : (due {} "k" [] buttonRoutines).map (fun d => d.2.interactive) =
      [false, true, false] := by
    decide +kernel
  obtain ⟨-, hcome, -, hiff⟩ := results_eq_heads_iff "k" [] "s" hequipped lists_buttonRoutines
  obtain ⟨hresults, hchains⟩ := hcome hworded
  have hfirst : (gathered ((due {} "k" [] buttonRoutines).map fun d => (d.1.id,
      recovered crashed (begun [] "s" d)
        ((runFirst unruly (begun [] "s" d)).run (unrulyEngine buttonRoutines)).1))).isOk := by
    decide +kernel
  have hwhole : (gathered ((due {} "k" [] buttonRoutines).map fun d => (d.1.id,
      recovered crashedChain (begun [] "s" d)
        ((runChain unruly (begun [] "s" d)).run (unrulyEngine buttonRoutines)).1))).isOk := by
    decide +kernel
  obtain ⟨told, htold⟩ := exists_of_isOk hfirst
  obtain ⟨followed, hfollowed⟩ := exists_of_isOk hwhole
  have hanswers := hresults.trans (congrArg (Except.map (List.map Prod.snd)) htold)
  have hchains := hchains.trans hfollowed
  refine ⟨hequipped, lists_buttonRoutines, hworded, hdue, _, followed, hanswers, hchains,
    fun hsame => ?_⟩
  have hflows : ∀ waits ∈ (due {} "k" [] buttonRoutines).map (fun d => d.2.interactive),
      waits = false :=
    List.forall_mem_map.mpr fun d hd => ((hiff _ _ hanswers hchains).mp hsame d hd).1
  rw [hdue] at hflows
  exact absurd (hflows true (by decide)) (by decide)

/-- The buttons end their chain at once, and no handler is called. An event that is not followed
calls the handler their key names, and the result says that the tag was given. -/
theorem result_ne_head_at_buttons :
    let engine := unrulyEngine [unrulyRoutine 0 [keyedButtons] .active]
    ((dispatchChains unruly "k" [] "s").run engine).1 =
        .ok [(Identifier.ofNumber 0, [.waiting keyedButtons])] ∧
      ((dispatchChains unruly "k" [] "s").run engine).2.notices = [] ∧
      ((dispatch unruly "k" [] "s").run engine).1.map (List.map StepResult.status) =
        .ok [.completed] ∧
      ((dispatch unruly "k" [] "s").run engine).2.notices.length = 1 := by
  decide +kernel

end Buttons

end Workflow.Engine
