import Workflow.Proofs.Dispatch.Company
import Workflow.Proofs.Handler.Barrier

/-!
# Routines that are dispatched together

The routines of a scope share the graphs at hand, the audit, the count of those passed over and the
rounds in which they go side by side. None of this has a part in what a routine gives out: an engine
`Supplies` routines when it gives them out as they are and has no other graphs for them than their
definitions give, and everything the library does for an event leaves this so. What a routine gives
out is then found once for all engines that supply it, among whatever others, as long as the
handlers its steps look up are `Dependable`.
-/

namespace Workflow.Engine

open Activity (Yields)
open Operation (Respects Retains)

variable {X α β : Type} {settings : Settings} {registry : Registry X} {listed : List Routine}
variable {routine : Routine} {engine engine' : Engine X}

/-- The engine has the settings and the handlers, gives out each of the routines as it is, and every
graph at hand for one of them is the one its definition gives. -/
structure Supplies (settings : Settings) (registry : Registry X) (listed : List Routine)
    (engine : Engine X) : Prop where
  ruled : engine.settings = settings
  equipped : engine.registry = registry
  stored : ∀ routine ∈ listed, engine.store.answer? routine.id = some routine
  kept : ∀ routine ∈ listed, ∀ entry ∈ engine.graphs.kept, entry.routine = routine.id →
    entry.version = routine.version →
      Graph.ofDefinition (rules settings) routine.definition = .ok entry.graph

namespace Supplies

theorem of_same (h : engine.Supplies settings registry listed)
    (hsettings : engine'.settings = engine.settings)
    (hregistry : engine'.registry = engine.registry)
    (hstore : ∀ id, engine'.store.answer? id = engine.store.answer? id)
    (hgraphs : engine'.graphs = engine.graphs) : engine'.Supplies settings registry listed where
  ruled := hsettings.trans h.ruled
  equipped := hregistry.trans h.equipped
  stored r hr := (hstore r.id).trans (h.stored r hr)
  kept r hr := by
    rw [hgraphs]
    exact h.kept r hr

/-- An engine whose graphs at hand are faithful supplies the routines it gives out. -/
theorem of_faithful {kind : StoreKind} {limit : Nat} {records : Memory}
    (h : engine.Faithful kind limit records)
    (hgiven : ∀ r ∈ listed, engine.store.answer? r.id = some r) :
    engine.Supplies engine.settings engine.registry listed where
  ruled := rfl
  equipped := rfl
  stored := hgiven
  kept r hr entry hentry hid hversion := by
    have hfound := hgiven r hr
    rw [Store.answer?, h.keeps.store, Store.perform_routine? h.keeps.chronicled.readable] at hfound
    have hrecorded := h.keeps.chronicled.current r (Memory.mem_of_routine? hfound).1
    exact (h.ofDefinition_eq_of_mem hrecorded hentry hid hversion).2

/-- The graph of a routine is what its definition gives, whether it was at hand or not. -/
theorem perform_graphOf (h : engine.Supplies settings registry listed)
    (hroutine : routine ∈ listed) :
    ∃ engine', (graphOf routine).perform engine =
        (Graph.ofDefinition (rules settings) routine.definition, engine') ∧
      engine'.Supplies settings registry listed := by
  cases hfind : engine.graphs.find? routine.id routine.version with
  | some entry =>
      have hmem : entry ∈ engine.graphs.kept := List.mem_of_find?_eq_some hfind
      have hkey := List.find?_some hfind
      simp only [GraphCache.isFor, Bool.and_eq_true, decide_eq_true_eq] at hkey
      refine ⟨{ engine with graphs := engine.graphs.touch routine.id routine.version }, ?_,
        h.ruled, h.equipped, h.stored, fun r hr other hother => ?_⟩
      · rw [graphOf, Operation.perform_bind_ok (Operation.perform_get engine), hfind,
          h.kept routine hroutine entry hmem hkey.1 hkey.2]
        rfl
      · exact h.kept r hr other (GraphCache.mem_of_mem_touch hother)
  | none =>
      obtain ⟨graphs, hperform, hgraphs⟩ := perform_graphOf_of_missing hfind
      obtain rfl := h.ruled
      refine ⟨_, hperform, rfl, h.equipped, h.stored, fun r hr other hother hid hversion => ?_⟩
      rcases hgraphs with rfl | ⟨graph, hgraph, rfl⟩
      · exact h.kept r hr other hother hid hversion
      · rcases GraphCache.mem_of_mem_keep hother with hother | rfl
        · exact h.kept r hr other hother hid hversion
        · -- a routine that is given out under the same id is the same one
          have hsame := h.stored r hr
          rw [← hid, h.stored routine hroutine] at hsame
          exact Option.some.inj hsame ▸ hgraph

theorem perform_routine? (h : engine.Supplies settings registry listed)
    (hroutine : routine ∈ listed) :
    (Engine.stored (Store.routine? routine.id)).perform engine = (.ok (some routine), engine) := by
  have hstored := h.stored routine hroutine
  rcases perform_answer engine routine.id with ⟨fault, hnone, -⟩ | hanswer
  · cases hstored.symm.trans hnone
  · rw [hanswer, hstored]

end Supplies

section Retains

theorem retains_supplies_notify (notice : Notice) :
    Respects (Retains (Supplies settings registry listed)) (notify notice : Work X Unit) :=
  fun _ h => h.of_same rfl rfl (fun _ => rfl) rfl

theorem retains_supplies_audit (routine execution : String) (step : Step) (result : StepResult) :
    Respects (Retains (Supplies settings registry listed))
      (audit routine execution step result : Work X Unit) := by
  refine .bind (.map _ fun _ h => h.of_same rfl rfl (fun _ => rfl) rfl) fun id =>
    .bind (fun _ h => h.of_same rfl rfl (fun _ => rfl) rfl) fun _ => .bind .get fun engine => ?_
  split
  · exact .fail _
  · exact fun engine h => h.of_same rfl rfl (Store.answer?_appendEntry _ engine.store) rfl

/-- Keeping a result succeeds as far as anybody is told. -/
theorem yields_auditResult (intent : Intent) (result : StepResult) :
    Yields (Supplies settings registry listed) (.ok ())
      (.ofOperation (auditResult intent result : Work X Unit)) := by
  refine .ofOperation fun engine h => ⟨_, ?_, retains_supplies_audit intent.routine intent.execution
    intent.step result engine h⟩
  rw [auditResult, Operation.perform_bind, Operation.perform_attempt]
  rfl

end Retains

section Matching

/-- What an event means for a routine, by its definition. -/
def verdictOf (settings : Settings) (key : String) (payload : Fields) (routine : Routine) :
    Verdict :=
  match Graph.ofDefinition (rules settings) routine.definition with
  | .ok graph => verdictOn graph routine.status key payload
  | .error _ => .broken

/-- How many routines an event passes over when it comes to this one. -/
def passes (settings : Settings) (key : String) (payload : Fields) (routine : Routine) : Nat :=
  if verdictOf settings key payload routine = .inactive then 1 else 0

/-- How many it makes together. -/
def total (count : Routine → Nat) (routines : List Routine) : Nat :=
  routines.foldr (fun r n => count r + n) 0

variable (key : String) (payload : Fields) (scope : String)

/-- The step a routine is due for is one of its steps. -/
theorem mem_steps_of_verdictOf {step : Step}
    (h : verdictOf settings key payload routine = .due step) :
    step ∈ routine.definition.steps := by
  unfold verdictOf at h
  split at h
  · rename_i graph hgraph
    unfold verdictOn at h
    split_ifs at h
    split at h
    · cases h
      rw [← (Graph.of_ofDefinition hgraph).2]
      exact List.mem_of_find?_eq_some ‹_›
    · cases h
  · cases h

theorem Supplies.perform_verdict (h : engine.Supplies settings registry listed)
    (hroutine : routine ∈ listed) :
    ∃ engine', (verdict key payload routine).perform engine =
        (.ok (verdictOf settings key payload routine), engine') ∧
      engine'.Supplies settings registry listed := by
  obtain ⟨engine', hgraphOf, h'⟩ := h.perform_graphOf hroutine
  refine ⟨engine', ?_, h'⟩
  have hattempt : (graphOf routine).attempt.perform engine =
      (.ok (Graph.ofDefinition (rules settings) routine.definition), engine') := by
    rw [Operation.perform_attempt, hgraphOf]
  rw [verdict, Operation.perform_bind_ok hattempt, verdictOf]
  cases Graph.ofDefinition (rules settings) routine.definition <;> rfl

/-- A trigger without words breaks off the matching. -/
theorem Supplies.perform_matchRoutine_wordless (h : engine.Supplies settings registry listed)
    (hroutine : routine ∈ listed) (hwordless : verdictOf settings key payload routine = .wordless)
    (found : Matches) :
    ∃ engine', (matchRoutine key payload scope found routine).perform engine =
      (.error (.oversizeNumber .written), engine') := by
  obtain ⟨between, hverdict, -⟩ := h.perform_verdict key payload hroutine
  refine ⟨between, (Operation.perform_bind_ok hverdict).trans ?_⟩
  rw [hwordless]
  rfl

/-- Matching one routine brings about what the verdict on it says, in a run of some number. -/
theorem Supplies.perform_matchRoutine (h : engine.Supplies settings registry listed)
    (hroutine : routine ∈ listed) (hworded : verdictOf settings key payload routine ≠ .wordless)
    (found : Matches) :
    let meant := verdictOf settings key payload routine
    ∃ n engine', (matchRoutine key payload scope found routine).perform engine =
        (.ok ⟨found.intents ++ meant.intents payload scope routine n,
          found.skipped + passes settings key payload routine⟩, engine') ∧
      engine'.Supplies settings registry listed := by
  obtain ⟨between, hverdict, hbetween⟩ := h.perform_verdict key payload hroutine
  have hmatch : (matchRoutine key payload scope found routine).perform engine = _ :=
    Operation.perform_bind_ok hverdict
  refine ⟨between.made, ?_⟩
  rw [passes]
  cases hmeant : verdictOf settings key payload routine with
  | wordless => exact absurd hmeant hworded
  | due step =>
      rw [hmeant] at hmatch
      exact ⟨{ between with made := between.made + 1 }, hmatch,
        hbetween.of_same rfl rfl (fun _ => rfl) rfl⟩
  | inactive =>
      rw [hmeant] at hmatch
      refine ⟨((skip routine key).perform between).2, hmatch.trans ?_,
        hbetween.of_same rfl rfl (fun _ => rfl) rfl⟩
      rw [Verdict.intents, List.append_nil]
      rfl
  | broken | silent | stepless =>
      rw [hmeant] at hmatch
      refine ⟨between, hmatch.trans ?_, hbetween⟩
      rw [Verdict.intents, List.append_nil]
      rfl

/-- Matching routines one after the other, when something is known of the intents of each. -/
theorem Supplies.perform_matchEach {P : Intent → β → Prop} {answers : Routine → List β}
    {routines : List Routine} (h : engine.Supplies settings registry listed)
    (hsub : routines ⊆ listed)
    (hworded : ∀ r ∈ routines, verdictOf settings key payload r ≠ .wordless)
    (hanswers : ∀ r ∈ routines, ∀ n, List.Forall₂ P
      ((verdictOf settings key payload r).intents payload scope r n) (answers r))
    (found : Matches) :
    ∃ more engine', (routines.foldlM (matchRoutine key payload scope) found).perform engine =
        (.ok ⟨found.intents ++ more, found.skipped +
          total (passes settings key payload) routines⟩, engine') ∧
      List.Forall₂ P more (routines.flatMap answers) ∧
      engine'.Supplies settings registry listed := by
  induction routines generalizing engine found with
  | nil =>
      refine ⟨[], engine, ?_, .nil, h⟩
      rw [List.append_nil]
      rfl
  | cons routine rest ih =>
      obtain ⟨hroutine, hrest⟩ := List.cons_subset.mp hsub
      obtain ⟨hfirst, hlater⟩ := List.forall_mem_cons.mp hanswers
      obtain ⟨hworded, hnext⟩ := List.forall_mem_cons.mp hworded
      obtain ⟨n, between, hmatch, hbetween⟩ :=
        h.perform_matchRoutine key payload scope hroutine hworded found
      obtain ⟨more, engine', hperform, hmore, h'⟩ := ih hbetween hrest hnext hlater
        ⟨found.intents ++ (verdictOf settings key payload routine).intents payload scope routine n,
          found.skipped + passes settings key payload routine⟩
      refine ⟨_ ++ more, engine', ?_, List.rel_append (hfirst n) hmore, h'⟩
      rw [List.foldlM_cons, Operation.perform_bind_ok hmatch, hperform, List.append_assoc,
        Nat.add_assoc]
      rfl

theorem Supplies.perform_matchEach_wordless {routines : List Routine}
    (h : engine.Supplies settings registry listed) (hsub : routines ⊆ listed)
    (hwordless : ∃ r ∈ routines, verdictOf settings key payload r = .wordless) (found : Matches) :
    ∃ engine', (routines.foldlM (matchRoutine key payload scope) found).perform engine =
      (.error (.oversizeNumber .written), engine') := by
  induction routines generalizing engine found with
  | nil =>
      obtain ⟨_, hmem, -⟩ := hwordless
      cases hmem
  | cons routine rest ih =>
      obtain ⟨hroutine, hrest⟩ := List.cons_subset.mp hsub
      by_cases hmeant : verdictOf settings key payload routine = .wordless
      · obtain ⟨engine', hmatch⟩ :=
          h.perform_matchRoutine_wordless key payload scope hroutine hmeant found
        exact ⟨engine', by rw [List.foldlM_cons, Operation.perform_bind_error hmatch]⟩
      · obtain ⟨n, between, hmatch, hbetween⟩ :=
          h.perform_matchRoutine key payload scope hroutine hmeant found
        have hlater : ∃ r ∈ rest, verdictOf settings key payload r = .wordless := by
          obtain ⟨r, hmem, hr⟩ := hwordless
          rcases List.mem_cons.mp hmem with rfl | hmem
          · exact absurd hr hmeant
          · exact ⟨r, hmem, hr⟩
        obtain ⟨engine', hperform⟩ := ih hbetween hrest hlater
          ⟨found.intents ++ (verdictOf settings key payload routine).intents payload scope routine n,
            found.skipped + passes settings key payload routine⟩
        exact ⟨engine', by
          rw [List.foldlM_cons, Operation.perform_bind_ok hmatch, hperform]⟩

end Matching

section Carrying

variable {perform : X → Context → Fields → Activity (Engine X) Returned}

/-- The handler has one outcome for a context and a configuration, whatever else the engine holds,
and it leaves the routines of the engine as they are. -/
def Dependable (perform : X → Context → Fields → Activity (Engine X) Returned) (settings : Settings)
    (registry : Registry X) (handler : Handler X) : Prop :=
  ∀ context config, ∃ outcome, ∀ listed,
    Yields (Supplies settings registry listed) outcome
      ((surroundings perform).run handler context config)

/-- The handlers that come with the library and deliver nothing. -/
theorem dependable_builtin {b : Builtin} (hsilent : b.delivers = false) :
    Dependable perform settings registry (.builtin b) := by
  intro context config
  refine ⟨(b.plan context config).map fun plan =>
    .ofAnswer { narrative := plan.narrative, output := some plan.output }, fun listed => ?_⟩
  have hmail {plan : Builtin.Plan} (hplan : b.plan context config = .ok plan) :
      plan.mail = none := by
    cases b with
    | createFolder =>
        obtain ⟨_, -, hplan⟩ := exists_of_bind_eq_ok hplan
        obtain ⟨_, -, hplan⟩ := exists_of_bind_eq_ok hplan
        cases hplan
        rfl
    | addTag | setStage =>
        rw [Builtin.plan] at hplan
        obtain ⟨_, -, hplan⟩ := exists_of_bind_eq_ok hplan
        cases hplan
        rfl
    | sendMessage | sendEmail | sendWelcome | notifyChannel => cases hsilent
  have hrun (engine : Engine X) :
      (b.run (surroundings perform).send context config).perform engine =
        ((b.plan context config).map fun plan =>
          { narrative := plan.narrative, output := some plan.output }, engine) := by
    rw [Builtin.run]
    cases hplan : b.plan context config with
    | error fault => rfl
    | ok plan =>
        rw [Operation.perform_bind_ok (Operation.perform_ofExcept _ _), hmail hplan]
        rfl
  have hyields := Yields.ofOperation fun engine (h : Supplies settings registry listed engine) =>
    ⟨engine, hrun engine, h⟩
  cases hplan : b.plan context config with
  | error fault =>
      rw [hplan] at hyields
      exact .bind_error hyields
  | ok plan =>
      rw [hplan] at hyields
      exact .bind hyields .ended

/-- A handler that only looks at the context and the configuration. -/
theorem dependable_custom {x : X} {answer : Context → Fields → Except Fault Returned}
    (h : ∀ context config, perform x context config = .ended (answer context config)) :
    Dependable perform settings registry (.custom x) := by
  intro context config
  refine ⟨answer context config >>= Returned.output, fun listed => ?_⟩
  have hrun : (surroundings perform).run (.custom x) context config =
      perform x context config >>= fun returned => .ended returned.output := rfl
  rw [hrun, h]
  cases answer context config <;> exact .ended

/-- In every run of the routine, and among whatever others, the activity has one outcome. -/
def Determined (settings : Settings) (registry : Registry X) (routine : Routine)
    (p : String → Activity (Engine X) α) : Prop :=
  ∃ outcome, ∀ execution listed, routine ∈ listed →
    Yields (Supplies settings registry listed) outcome (p execution)

namespace Determined

theorem pure (a : α) : Determined settings registry routine fun _ => pure a :=
  ⟨.ok a, fun _ _ _ => .ended⟩

theorem bind {p : String → Activity (Engine X) α} {f : String → α → Activity (Engine X) β}
    (h : Determined settings registry routine p)
    (hf : ∀ a, Determined settings registry routine (f · a)) :
    Determined settings registry routine fun execution => p execution >>= f execution := by
  obtain ⟨fault | a, hp⟩ := h
  · exact ⟨.error fault, fun execution listed hlisted => .bind_error (hp execution listed hlisted)⟩
  · obtain ⟨outcome, hnext⟩ := hf a
    exact ⟨outcome, fun execution listed hlisted =>
      .bind (hp execution listed hlisted) (hnext execution listed hlisted)⟩

end Determined

/-- The steps of the routine look up dependable handlers. -/
def Equipped (perform : X → Context → Fields → Activity (Engine X) Returned) (settings : Settings)
    (registry : Registry X) (routine : Routine) : Prop :=
  ∀ step ∈ routine.definition.steps, ∀ handler, registry.find step.handlerKey = .ok handler →
    Dependable perform settings registry handler

/-- An intent of the routine in a run. -/
def ofRoutine (routine : Routine) (step : Step) (context : Context) (execution : String) : Intent :=
  { routine := routine.id, execution, step, context }

/-- Looking up a handler and filling in its configuration changes nothing. -/
theorem perform_prepare (intent : Intent) (engine : Engine X) :
    ((surroundings perform).prepare intent).perform engine =
      (do
        let handler ← engine.registry.find intent.step.handlerKey
        let config ← interpolateFields (.object intent.context.bindings) intent.step.config
        pure (handler, config), engine) :=
  (surroundings perform).perform_prepare intent engine

section Steps

variable (hequipped : Equipped perform settings registry routine)
variable {step : Step} (hstep : step ∈ routine.definition.steps) (context : Context)

include hequipped hstep

theorem determined_answer : Determined settings registry routine fun execution =>
    (surroundings perform).answer (ofRoutine routine step context execution) := by
  have hprepare (execution : String) (listed : List Routine) :
      Yields (Supplies settings registry listed)
        (do
          let handler ← registry.find step.handlerKey
          let config ← interpolateFields (.object context.bindings) step.config
          pure (handler, config))
        (.ofOperation
          ((surroundings perform).prepare (ofRoutine routine step context execution))) :=
    .ofOperation fun engine h => ⟨engine, by rw [perform_prepare, h.equipped]; rfl, h⟩
  cases hfind : registry.find step.handlerKey with
  | error fault =>
      rw [hfind] at hprepare
      exact ⟨.error fault, fun execution listed _ => .bind_error (hprepare execution listed)⟩
  | ok handler =>
      cases hconfig : interpolateFields (.object context.bindings) step.config with
      | error fault =>
          rw [hfind, hconfig] at hprepare
          exact ⟨.error fault, fun execution listed _ => .bind_error (hprepare execution listed)⟩
      | ok config =>
          rw [hfind, hconfig] at hprepare
          obtain ⟨outcome, hrun⟩ := hequipped step hstep handler hfind context config
          exact ⟨outcome, fun execution listed _ => .bind (hprepare execution listed) (hrun listed)⟩

/-- A step of the routine is carried out in one way. If it is with a result, then this one does not
wait. -/
theorem exists_runFirst : ∃ outcome : Except Fault StepResult,
    (∀ result, outcome = .ok result → result.continues = result.success ∧
      result.status = if result.success then .completed else .failed) ∧
    ∀ execution listed, routine ∈ listed → Yields (Supplies settings registry listed) outcome
      (runFirst perform (ofRoutine routine step context execution)) := by
  obtain ⟨outcome, houtcome⟩ := determined_answer hequipped hstep context
  refine ⟨step.resultOf outcome, fun result => Step.status_of_resultOf,
    fun execution listed hroutine => ?_⟩
  have hnotify (notice : Notice) (listed : List Routine) :
      Yields (Supplies settings registry listed) (.ok ())
        (.ofOperation (notify notice : Work X Unit)) :=
    .ofOperation fun engine h => ⟨_, rfl, retains_supplies_notify _ engine h⟩
  have hended : Yields (Supplies settings registry listed) (step.resultOf outcome)
      (.ended ((ofRoutine routine step context execution).step.resultOf outcome)) := .ended
  have hanswer := (houtcome execution listed hroutine).attempt
  cases hresult : step.resultOf outcome with
  | ok result =>
      rw [hresult] at hended
      exact .bind (.bind hanswer (.bind hended (.bind (hnotify _ _) .ended)))
        (.bind (yields_auditResult _ _) .ended)
  | error fault =>
      rw [hresult] at hended
      exact .bind_error (.bind hanswer (.bind_error hended))

theorem determined_runFirst : Determined settings registry routine fun execution =>
    runFirst perform (ofRoutine routine step context execution) := by
  obtain ⟨outcome, -, houtcome⟩ := exists_runFirst hequipped hstep context
  exact ⟨outcome, houtcome⟩

theorem determined_runStep : Determined settings registry routine fun execution =>
    runStep perform (ofRoutine routine step context execution) := by
  have hshape (execution : String) : runStep perform (ofRoutine routine step context execution) =
      if step.interactive then do
        Activity.ofOperation
          (auditResult (ofRoutine routine step context execution) (.waiting step))
        pure (StepResult.waiting step)
      else runFirst perform (ofRoutine routine step context execution) := rfl
  simp only [hshape]
  split
  · exact .bind ⟨.ok (), fun execution listed _ => yields_auditResult _ _⟩ fun _ => .pure _
  · exact determined_runFirst hequipped hstep context

omit hequipped hstep

/-- The step after a step of the routine, with the context it is carried out in. -/
def stepFollowing (settings : Settings) (routine : Routine) (step : Step) (context : Context)
    (result : StepResult) : Except Fault (Option (Step × Context)) :=
  if !result.continues then .ok none
  else
    match Graph.ofDefinition (rules settings) routine.definition with
    | .error fault => .error fault
    | .ok graph =>
      (graph.ask step.id (graph.stepAfter? step.id)).map <| Option.map fun next =>
        (next, { context with memory := remember context.memory step result })

theorem mem_steps_of_stepFollowing {result : StepResult} {next : Step × Context}
    (h : stepFollowing settings routine step context result = .ok (some next)) :
    next.1 ∈ routine.definition.steps := by
  unfold stepFollowing at h
  split at h
  · cases h
  · split at h
    · cases h
    · rename_i graph hgraph
      cases hask : graph.ask step.id (graph.stepAfter? step.id) with
      | error fault =>
          rw [hask] at h
          cases h
      | ok following =>
          rw [hask] at h
          obtain ⟨after, hafter, rfl⟩ := Option.map_eq_some_iff.mp (Except.ok.inj h)
          rw [← (Graph.of_ofDefinition hgraph).2]
          exact Graph.mem_steps_of_stepAfter? ((Graph.eq_of_ask hask).symm.trans hafter)

theorem Supplies.perform_nextIntent (h : engine.Supplies settings registry listed)
    (hroutine : routine ∈ listed) (execution : String) (result : StepResult) :
    ∃ engine', (nextIntent (ofRoutine routine step context execution) result).perform engine =
        ((stepFollowing settings routine step context result).map
          (Option.map fun next => ofRoutine routine next.1 next.2 execution), engine') ∧
      engine'.Supplies settings registry listed := by
  rw [nextIntent, stepFollowing]
  cases result.continues with
  | false => exact ⟨engine, rfl, h⟩
  | true =>
      obtain ⟨engine', hgraphOf, h'⟩ := h.perform_graphOf hroutine
      refine ⟨engine', (Operation.perform_bind_ok (h.perform_routine? hroutine)).trans ?_, h'⟩
      cases hgraph : Graph.ofDefinition (rules settings) routine.definition with
      | error fault =>
          rw [hgraph] at hgraphOf
          exact Operation.perform_bind_error hgraphOf
      | ok graph =>
          rw [hgraph] at hgraphOf
          refine (Operation.perform_bind_ok hgraphOf).trans ?_
          dsimp only
          change (Operation.ofExcept (graph.ask step.id (graph.stepAfter? step.id)) >>= _).perform
            engine' = _
          cases graph.ask step.id (graph.stepAfter? step.id) with
          | error fault => rfl
          | ok following => cases following <;> rfl

include hequipped

/-- Steps of the routine in a row. The induction is on the fuel, and the intent after an intent is
one of the same routine. -/
theorem determined_runSteps (fuel : Nat) (hstep : step ∈ routine.definition.steps)
    (context : Context) : Determined settings registry routine fun execution =>
      runSteps perform fuel (ofRoutine routine step context execution) := by
  induction fuel generalizing step context with
  | zero => exact ⟨.error .exhausted, fun _ _ _ => .ended⟩
  | succ fuel ih =>
      refine .bind (determined_runStep hequipped hstep context) fun result => ?_
      have hnext (execution : String) (listed : List Routine) (hroutine : routine ∈ listed) :
          Yields (Supplies settings registry listed)
            ((stepFollowing settings routine step context result).map
              (Option.map fun next => ofRoutine routine next.1 next.2 execution))
            (.ofOperation (nextIntent (ofRoutine routine step context execution) result)) :=
        .ofOperation fun engine h => h.perform_nextIntent context hroutine execution result
      cases hfollowing : stepFollowing settings routine step context result with
      | error fault =>
          rw [hfollowing] at hnext
          exact ⟨.error fault, fun execution listed hroutine =>
            .bind_error (hnext execution listed hroutine)⟩
      | ok following =>
          rw [hfollowing] at hnext
          cases following with
          | none => exact ⟨.ok [result], fun execution listed hroutine =>
              .bind (hnext execution listed hroutine) .ended⟩
          | some next =>
              obtain ⟨outcome, hrest⟩ :=
                (ih (mem_steps_of_stepFollowing context hfollowing) next.2).bind fun more =>
                  .pure (result :: more)
              exact ⟨outcome, fun execution listed hroutine =>
                .bind (hnext execution listed hroutine) (hrest execution listed hroutine)⟩

include hstep

theorem determined_runChain : Determined settings registry routine fun execution =>
    runChain perform (ofRoutine routine step context execution) := by
  refine .bind ⟨.ok routine.definition.steps.length, fun execution listed hroutine =>
    .ofOperation fun engine h => ⟨engine, ?_, h⟩⟩ fun count =>
      determined_runSteps hequipped (count + chainAllowance) hstep context
  have hattempt : (stored (Store.routine? routine.id)).attempt.perform engine =
      (.ok (.ok (some routine)), engine) := by
    rw [Operation.perform_attempt, h.perform_routine? hroutine]
  exact Operation.perform_bind_ok hattempt

end Steps

section Event

variable (key : String) (payload : Fields) (scope : String)

/-- An intent comes to the answer under the id of its routine. It is a fault if there is nothing to
tell. -/
def ComesTo (settings : Settings) (registry : Registry X) (listed : List Routine)
    (run : Intent → Activity (Engine X) α) (crashed : Intent → Fault → Except Fault α)
    (intent : Intent) (answer : String × Except Fault α) : Prop :=
  intent.routine = answer.1 ∧ ∃ outcome,
    Yields (Supplies settings registry listed) outcome (run intent) ∧
      recovered crashed intent outcome = answer.2

variable {run : Intent → Activity (Engine X) α} {whenBroken : Intent → Fault → Except Fault α}

/-- What a routine is answered with when an event is carried out for it, wherever it is supplied. -/
theorem exists_answers (told : Intent → Fault → Except Fault α)
    (htold : ∀ step context execution, told (ofRoutine routine step context execution) =
      told (ofRoutine routine step context ""))
    (hrun : ∀ step ∈ routine.definition.steps, ∀ context,
      Determined settings registry routine fun execution =>
        run (ofRoutine routine step context execution)) :
    ∃ answers : List (String × Except Fault α), answers.length ≤ 1 ∧
      (∀ answer ∈ answers, answer.1 = routine.id) ∧
      ∀ listed, routine ∈ listed → ∀ n, List.Forall₂
        (ComesTo settings registry listed run told)
        ((verdictOf settings key payload routine).intents payload scope routine n) answers := by
  cases hmeant : verdictOf settings key payload routine with
  | due step =>
      obtain ⟨outcome, houtcome⟩ := hrun step (mem_steps_of_verdictOf key payload hmeant)
        { routine := routine.id, scope, payload }
      refine ⟨[(routine.id, recovered told
        (ofRoutine routine step { routine := routine.id, scope, payload } "") outcome)],
        Nat.le_refl _, by simp, fun listed hroutine n => ?_⟩
      refine .cons ⟨rfl, outcome, houtcome _ listed hroutine, ?_⟩ .nil
      cases outcome with
      | ok a => rfl
      | error fault => exact congrFun (htold step _ _) fault
  | broken | wordless | silent | stepless | inactive =>
      exact ⟨[], Nat.zero_le _, by simp, fun listed _ n => .nil⟩

/-- Intents are carried out side by side as each is on its own. -/
theorem yields_isolated {intents : List Intent} {answers : List (String × Except Fault α)}
    (h : List.Forall₂ (ComesTo settings registry listed run whenBroken) intents answers) :
    intents.map Intent.routine = answers.map Prod.fst ∧
      Yields (Supplies settings registry listed)
        ((answers.map Prod.snd).mapM fun answer => answer) (isolated run whenBroken intents) := by
  obtain ⟨outcomes, hroutines, hrun, hrecovered⟩ : ∃ outcomes,
      intents.map Intent.routine = answers.map Prod.fst ∧
      List.Forall₂ (fun intent outcome =>
        Yields (Supplies settings registry listed) outcome (run intent)) intents outcomes ∧
      intents.zipWith (recovered whenBroken) outcomes = answers.map Prod.snd := by
    induction h with
    | nil => exact ⟨[], rfl, .nil, rfl⟩
    | cons hfirst _ ih =>
        obtain ⟨hroutine, outcome, hyields, hanswer⟩ := hfirst
        obtain ⟨outcomes, hroutines, hrun, hrecovered⟩ := ih
        refine ⟨outcome :: outcomes, ?_, .cons hyields hrun, ?_⟩
        · rw [List.map_cons, List.map_cons, hroutine, hroutines]
        · rw [List.zipWith_cons_cons, hanswer, hrecovered, List.map_cons]
  have hattempts : List.Forall₂
      (fun p outcome => Yields (Supplies settings registry listed) (.ok outcome) p)
      (intents.map fun intent => (run intent).attempt) outcomes :=
    List.forall₂_map_left_iff.mpr (hrun.imp fun _ _ h => h.attempt)
  have hsettled : Yields (Supplies settings registry listed) (.ok outcomes)
      (settled run intents) := by
    cases hrun with
    | nil => exact .ended
    | cons _ _ =>
        rw [settled_of_ne_nil (List.cons_ne_nil _ _)]
        exact .bind (.pause .ended) (.bind (.together hattempts) (.bind (.pause .ended) .ended))
  exact ⟨hroutines, .bind hsettled (hrecovered ▸ .ended)⟩

/-- Matching the routines of a scope, when something is known of the intents of each. -/
theorem Supplies.perform_matchAll {P : Intent → β → Prop} {answers : Routine → List β}
    (h : engine.Supplies settings registry listed)
    (hlist : ((Engine.stored (Store.listRoutines scope none)).perform engine).1 = .ok listed)
    (hworded : ∀ r ∈ listed, verdictOf settings key payload r ≠ .wordless)
    (hanswers : ∀ r ∈ listed, ∀ n, List.Forall₂ P
      ((verdictOf settings key payload r).intents payload scope r n) (answers r)) :
    ∃ intents engine', (matchAll key payload scope).perform engine =
        (.ok ⟨intents, total (passes settings key payload) listed⟩,
          engine') ∧
      List.Forall₂ P intents (listed.flatMap answers) ∧
      engine'.Supplies settings registry listed := by
  have hlisted : (Engine.stored (Store.listRoutines scope none)).perform engine =
      (.ok listed, engine) :=
    perform_stored_same rfl (Prod.ext hlist (Store.perform_listRoutines_snd scope none _))
  obtain ⟨intents, engine', hperform, hintents, h'⟩ :=
    h.perform_matchEach key payload scope (List.Subset.refl listed) hworded hanswers {}
  refine ⟨intents, engine', ?_, hintents, h'⟩
  rw [matchAll, Operation.perform_bind_ok hlisted, hperform, List.nil_append, Nat.zero_add]

/-- All answers, or the first fault among them. -/
def gathered (answers : List (String × Except Fault α)) : Except Fault (List (String × α)) :=
  answers.mapM fun answer => answer.2.map fun a => (answer.1, a)

section Gathered

variable {answers : List (String × Except Fault α)}

theorem gathered_cons (answer : String × Except Fault α)
    (rest : List (String × Except Fault α)) : gathered (answer :: rest) = (do
      let a ← answer.2
      let more ← gathered rest
      pure ((answer.1, a) :: more)) := by
  rw [gathered, List.mapM_cons]
  cases answer.2 <;> rfl

theorem gathered_eq (answers : List (String × Except Fault α)) : gathered answers =
    ((answers.map Prod.snd).mapM fun answer => answer).map ((answers.map Prod.fst).zip ·) := by
  induction answers with
  | nil => rfl
  | cons answer rest ih =>
      rw [gathered_cons, ih, List.map_cons, List.map_cons, List.mapM_cons]
      cases answer.2 with
      | error fault => rfl
      | ok a => cases (rest.map Prod.snd).mapM fun answer => answer <;> rfl

theorem map_gathered (answers : List (String × Except Fault α)) :
    (gathered answers).map (List.map Prod.snd) =
      (answers.map Prod.snd).mapM fun answer => answer := by
  induction answers with
  | nil => rfl
  | cons answer rest ih =>
      rw [gathered_cons, List.map_cons, List.mapM_cons, ← ih]
      cases answer.2 with
      | error fault => rfl
      | ok a => cases gathered rest <;> rfl

theorem forall₂_of_gathered {all : List (String × α)} (h : gathered answers = .ok all) :
    List.Forall₂ (fun answer told => answer.1 = told.1 ∧ answer.2 = .ok told.2) answers all := by
  induction answers generalizing all with
  | nil =>
      cases h
      exact .nil
  | cons answer rest ih =>
      rw [gathered_cons] at h
      obtain ⟨a, ha, h⟩ := exists_of_bind_eq_ok h
      obtain ⟨more, hmore, h⟩ := exists_of_bind_eq_ok h
      cases h
      exact .cons ⟨rfl, ha⟩ (ih hmore)

theorem map_fst_of_gathered {all : List (String × α)} (h : gathered answers = .ok all) :
    all.map Prod.fst = answers.map Prod.fst := by
  have h := forall₂_of_gathered h
  clear * - h
  induction h with
  | nil => rfl
  | cons hfirst _ ih => rw [List.map_cons, List.map_cons, hfirst.1, ih]

/-- What is gathered from several sources is what is gathered from each. -/
theorem gathered_flatMap {answers : Routine → List (String × Except Fault α)}
    {all : Routine → List (String × α)} {routines : List Routine}
    (h : ∀ r ∈ routines, gathered (answers r) = .ok (all r)) :
    gathered (routines.flatMap answers) = .ok (routines.flatMap all) := by
  induction routines with
  | nil => rfl
  | cons routine rest ih =>
      obtain ⟨hfirst, hrest⟩ := List.forall_mem_cons.mp h
      rw [gathered] at hfirst
      rw [List.flatMap_cons, gathered, List.mapM_append, hfirst]
      exact congrArg (Except.map (all routine ++ ·)) (ih hrest)

end Gathered

/-- What an engine gives out for an event: results, chains, and how many routines it passes over. -/
structure Gives (perform : X → Context → Fields → Activity (Engine X) Returned) (key : String)
    (payload : Fields) (scope : String) (engine : Engine X)
    (results : Except Fault (List StepResult))
    (chains : Except Fault (List (String × List StepResult))) (skipped : Nat) : Prop where
  dispatch : ((dispatch perform key payload scope).run engine).1 = results
  counted : ((dispatchCounted perform key payload scope false).run engine).1 =
    results.map (·, skipped)
  followed : ((dispatchCounted perform key payload scope true).run engine).1 =
    chains.map fun chains => (chains.flatMap (·.2), skipped)
  chains : ((dispatchChains perform key payload scope).run engine).1 = chains

/-- An engine gives out nothing for an event that breaks off while it is matched. -/
theorem gives_of_matchAll_error {fault : Fault}
    (h : (matchAll key payload scope).perform engine = (.error fault, engine')) (skipped : Nat) :
    Gives perform key payload scope engine (.error fault) (.error fault) skipped := by
  have hmatched {γ : Type} (f : Matches → Activity (Engine X) γ) :
      (Activity.ofOperation (matchAll key payload scope) >>= f).run engine =
        (.error fault, engine') := by
    rw [Activity.run_bind, Activity.run_ofOperation, h]
  have hcounted (follow : Bool) : (dispatchCounted perform key payload scope follow).run engine =
      (.error fault, engine') :=
    hmatched _
  refine ⟨?_, congrArg Prod.fst (hcounted false), congrArg Prod.fst (hcounted true),
    congrArg Prod.fst (hmatched _)⟩
  rw [dispatch, Activity.run_bind, hcounted]

/-- An event breaks off if a routine of the scope has a trigger without words. -/
theorem Supplies.gives_wordless (h : engine.Supplies settings registry listed)
    (hlist : ((Engine.stored (Store.listRoutines scope none)).perform engine).1 = .ok listed)
    (hwordless : ∃ r ∈ listed, verdictOf settings key payload r = .wordless) (skipped : Nat) :
    Gives perform key payload scope engine (.error (.oversizeNumber .written))
      (.error (.oversizeNumber .written)) skipped := by
  have hlisted : (Engine.stored (Store.listRoutines scope none)).perform engine =
      (.ok listed, engine) :=
    perform_stored_same rfl (Prod.ext hlist (Store.perform_listRoutines_snd scope none _))
  obtain ⟨engine', hperform⟩ := h.perform_matchEach_wordless key payload scope
    (List.Subset.refl listed) hwordless {}
  exact gives_of_matchAll_error key payload scope
    ((Operation.perform_bind_ok hlisted).trans hperform) skipped

/-- Whatever routines an engine supplies, it gives out the answers of each. -/
theorem Supplies.gives {results : Routine → List (String × Except Fault StepResult)}
    {chains : Routine → List (String × Except Fault (List StepResult))}
    (h : engine.Supplies settings registry listed)
    (hlist : ((Engine.stored (Store.listRoutines scope none)).perform engine).1 = .ok listed)
    (hworded : ∀ r ∈ listed, verdictOf settings key payload r ≠ .wordless)
    (hresults : ∀ r ∈ listed, ∀ n, List.Forall₂
      (ComesTo settings registry listed (runFirst perform) crashed)
      ((verdictOf settings key payload r).intents payload scope r n) (results r))
    (hchains : ∀ r ∈ listed, ∀ n, List.Forall₂
      (ComesTo settings registry listed (runChain perform) crashedChain)
      ((verdictOf settings key payload r).intents payload scope r n) (chains r)) :
    Gives perform key payload scope engine
      ((gathered (listed.flatMap results)).map (List.map Prod.snd))
      (gathered (listed.flatMap chains)) (total (passes settings key payload) listed) := by
  obtain ⟨intents, between, hmatch, hintents, hbetween⟩ :=
    h.perform_matchAll key payload scope hlist hworded hresults
  obtain ⟨intents', between', hmatch', hintents', hbetween'⟩ :=
    h.perform_matchAll key payload scope hlist hworded hchains
  cases hmatch.symm.trans hmatch'
  obtain ⟨hroutines, hisolated⟩ := yields_isolated hintents'
  obtain ⟨engine₁, hall, -⟩ := (yields_isolated hintents).2.run hbetween
  obtain ⟨engine₂, hchained, -⟩ := hisolated.run hbetween
  have hmatched {γ : Type} (f : Matches → Activity (Engine X) γ) :
      (Activity.ofOperation (matchAll key payload scope) >>= f).run engine =
        (f ⟨intents, total (passes settings key payload) listed⟩).run
          between := by
    rw [Activity.run_bind, Activity.run_ofOperation, hmatch]
  rw [map_gathered, gathered_eq, ← hroutines]
  -- what comes of a call is what comes of carrying out the intents, handed on
  have hfollow : ((runChains perform intents).run between).1 =
      (((listed.flatMap chains).map Prod.snd).mapM fun answer => answer).map
        ((intents.map Intent.routine).zip ·) := by
    rw [runChains, Activity.run_bind, hchained]
    cases ((listed.flatMap chains).map Prod.snd).mapM fun answer => answer <;> rfl
  have hcounted : ((dispatchCounted perform key payload scope false).run engine).1 =
      (((listed.flatMap results).map Prod.snd).mapM fun answer => answer).map
        (·, total (passes settings key payload) listed) := by
    refine congrArg Prod.fst ((hmatched _).trans (Activity.run_bind _ _ between)) |>.trans ?_
    rw [runAll, hall]
    cases ((listed.flatMap results).map Prod.snd).mapM fun answer => answer <;> rfl
  refine ⟨?_, hcounted, ?_, ?_⟩
  · rw [dispatch, Activity.run_bind]
    rcases hrun : (dispatchCounted perform key payload scope false).run engine with ⟨outcome, s⟩
    rw [hrun] at hcounted
    obtain rfl : outcome = _ := hcounted
    cases ((listed.flatMap results).map Prod.snd).mapM fun answer => answer <;> rfl
  · refine congrArg Prod.fst ((hmatched _).trans (Activity.run_bind _ _ between)) |>.trans ?_
    rcases hrun : (runChains perform intents).run between with ⟨outcome, s⟩
    rw [hrun] at hfollow
    obtain rfl : outcome = _ := hfollow
    cases ((listed.flatMap chains).map Prod.snd).mapM fun answer => answer <;> rfl
  · rw [dispatchChains, hmatched, hfollow]

/-- The engine supplies the routines that a scope has. -/
structure Lists (settings : Settings) (registry : Registry X) (scope : String)
    (listed : List Routine) (engine : Engine X) : Prop extends
    Supplies settings registry listed engine where
  listing : ((Engine.stored (Store.listRoutines scope none)).perform engine).1 = .ok listed

/-- The engine answers an event, whether it is followed or not. -/
def Answers (perform : X → Context → Fields → Activity (Engine X) Returned) (key : String)
    (payload : Fields) (scope : String) (engine : Engine X) : Prop :=
  (∃ results, ((dispatch perform key payload scope).run engine).1 = .ok results) ∧
    ∃ chains, ((dispatchChains perform key payload scope).run engine).1 = .ok chains

/-- Routines that are dispatched together are independent, when the handlers their steps look up are
dependable. What an engine gives out for a scope is what engines give out that have one of the
routines alone in the scope and answer, one after the other: at most one result for each routine, and
at most one chain, under the id of the routine. -/
theorem gives_as_alone {whole : Engine X} {alone : Routine → Engine X}
    (hequipped : ∀ r ∈ listed, Equipped perform settings registry r)
    (hwhole : whole.Lists settings registry scope listed)
    (halone : ∀ r ∈ listed, (alone r).Lists settings registry scope [r])
    (hanswers : ∀ r ∈ listed, Answers perform key payload scope (alone r)) :
    ∃ (results : Routine → List StepResult) (chains : Routine → List (String × List StepResult))
      (passes : Routine → Nat),
      (∀ r ∈ listed,
        Gives perform key payload scope (alone r) (.ok (results r)) (.ok (chains r)) (passes r) ∧
        (results r).length ≤ 1 ∧ (chains r).length ≤ 1 ∧ ∀ chain ∈ chains r, chain.1 = r.id) ∧
      Gives perform key payload scope whole (.ok (listed.flatMap results))
        (.ok (listed.flatMap chains)) (total passes listed) := by
  have hresults (r : Routine) (hr : r ∈ listed) :=
    exists_answers key payload scope crashed (fun _ _ _ => rfl)
      fun step hstep context => determined_runFirst (hequipped r hr) hstep context
  have hchains (r : Routine) (hr : r ∈ listed) :=
    exists_answers key payload scope crashedChain (fun _ _ _ => rfl)
      fun step hstep context => determined_runChain (hequipped r hr) hstep context
  choose! results hresult _ hresults using hresults
  choose! chains hchain hkey hchains using hchains
  have hworded (r : Routine) (hr : r ∈ listed) : verdictOf settings key payload r ≠ .wordless := by
    intro hwordless
    obtain ⟨⟨_, hok⟩, -⟩ := hanswers r hr
    have hgives : Gives perform key payload scope (alone r) _ _ 0 :=
      (halone r hr).toSupplies.gives_wordless key payload scope (halone r hr).listing
        ⟨r, List.mem_singleton_self r, hwordless⟩ 0
    cases hok.symm.trans hgives.dispatch
  have hgives (r : Routine) (hr : r ∈ listed) : Gives perform key payload scope (alone r)
      ((gathered (results r)).map (List.map Prod.snd)) (gathered (chains r))
      (passes settings key payload r) := by
    have hgives := (halone r hr).toSupplies.gives key payload scope (halone r hr).listing
      (List.forall_mem_singleton.mpr (hworded r hr))
      (List.forall_mem_singleton.mpr fun n => hresults r hr [r] (List.mem_singleton_self r) n)
      (List.forall_mem_singleton.mpr fun n => hchains r hr [r] (List.mem_singleton_self r) n)
    simpa [total] using hgives
  have htold (r : Routine) (hr : r ∈ listed) : ∃ (first : List (String × StepResult))
      (whole : List (String × List StepResult)),
      gathered (results r) = .ok first ∧ gathered (chains r) = .ok whole := by
    obtain ⟨⟨_, hfirst⟩, _, hwhole⟩ := hanswers r hr
    rw [(hgives r hr).dispatch] at hfirst
    rw [(hgives r hr).chains] at hwhole
    cases hgathered : gathered (results r) with
    | error fault =>
        rw [hgathered] at hfirst
        cases hfirst
    | ok first => exact ⟨first, _, rfl, hwhole⟩
  choose! first whole' hfirst hwhole' using htold
  refine ⟨fun r => (first r).map Prod.snd, whole', passes settings key payload,
    fun r hr => ⟨?_, ?_, ?_, ?_⟩, ?_⟩
  · have hgives := hgives r hr
    rwa [hfirst r hr, hwhole' r hr] at hgives
  · rw [List.length_map, ← (forall₂_of_gathered (hfirst r hr)).length_eq]
    exact hresult r hr
  · rw [← (forall₂_of_gathered (hwhole' r hr)).length_eq]
    exact hchain r hr
  · have hnames : ∀ name ∈ (whole' r).map Prod.fst, name = r.id := by
      rw [map_fst_of_gathered (hwhole' r hr)]
      exact List.forall_mem_map.mpr (hkey r hr)
    exact List.forall_mem_map.mp hnames
  · have hgives := hwhole.toSupplies.gives key payload scope hwhole.listing hworded
      (fun r hr n => hresults r hr listed hr n) fun r hr n => hchains r hr listed hr n
    rw [gathered_flatMap hfirst, gathered_flatMap hwhole'] at hgives
    rwa [Except.map, List.map_flatMap] at hgives

end Event

end Carrying

section Siblings

theorem exists_of_isOk {outcome : Except Fault α} (h : outcome.isOk) :
    ∃ a, outcome = .ok a := by
  cases outcome with
  | error fault => cases h
  | ok a => exact ⟨a, rfl⟩

/-- One handler gives up, and one answers with a number. -/
def unruly (answers : Bool) (_ : Context) (_ : Fields) : Activity (Engine Bool) Returned :=
  .ended (if answers then .ok (.value (.int 1)) else .error (.handler (.reported "Out of order.")))

def unrulyRegistry : Registry Bool :=
  [("fail", { handler := .custom false }), ("number", { handler := .custom true }),
    (Builtin.addTag.key, { handler := .builtin .addTag })]

theorem equipped_unruly (routine : Routine) : Equipped unruly settings unrulyRegistry routine := by
  intro step _ handler hfind
  have hmem : ∃ entry ∈ unrulyRegistry, entry.2.handler = handler := by
    unfold Registry.find at hfind
    split at hfind
    · cases hfind
    · split at hfind
      · split at hfind
        · exact ⟨_, Dict.mem_of_get? ‹_›, Except.ok.inj hfind⟩
        · cases hfind
      · cases hfind
      · cases hfind
      · cases hfind
  obtain ⟨entry, hentry, rfl⟩ := hmem
  simp only [unrulyRegistry, List.mem_cons, List.not_mem_nil, or_false] at hentry
  rcases hentry with rfl | rfl | rfl
  · exact dependable_custom fun _ _ => rfl
  · exact dependable_custom fun _ _ => rfl
  · exact dependable_builtin rfl

/-- A routine that carries out one step, if any. -/
def unrulyRoutine (n : Nat) (steps : List Step) (status : RoutineStatus) : Routine where
  id := Identifier.ofNumber n
  template := "t"
  scope := "s"
  name := "n"
  status := status
  definition :=
    { steps := { id := "go", type := "trigger", key := some "k" } :: steps
      edges := steps.map fun step => { source := "go", target := step.id } }
  created := ⟨n, none⟩

/-- The handlers of the first three give up, are unknown and answer with a number. Then come a
routine whose definition is no graph, one that is paused and one that leaves a tag. -/
def unrulyRoutines : List Routine :=
  [unrulyRoutine 0 [{ id := "act", type := "action", key := some "fail" }] .active,
    unrulyRoutine 1 [{ id := "act", type := "action", key := some "none" }] .active,
    unrulyRoutine 2 [{ id := "act", type := "action", key := some "number" }] .active,
    unrulyRoutine 3 [tag, tag] .active, unrulyRoutine 4 [tag] .paused,
    unrulyRoutine 5 [tag] .active]
where
  tag : Step := { id := "act", type := "tag", config := [("tag_name", .text "done")] }

/-- Each routine has its first version. -/
def unrulyRecords (routines : List Routine) : Memory :=
  routines.foldl (fun records r =>
    { records with routines := records.routines ++ [r] }.insertSnapshot
      ⟨r.id, 1, r.definition, r.createdBy⟩) {}

def unrulyEngine (routines : List Routine) : Engine Bool where
  settings := {}
  store := StoreKind.memory.hold (unrulyRecords routines)
  registry := unrulyRegistry
  graphs := { limit := 1 }
  table := { limit := 1 }
  made := 6

theorem faithful_unrulyEngine :
    (unrulyEngine unrulyRoutines).Faithful .memory 1 (unrulyRecords unrulyRoutines) := by
  refine ⟨⟨rfl, ?_⟩, fun _ hentry => absurd hentry List.not_mem_nil,
    fun _ hentry => absurd hentry List.not_mem_nil, rfl, Nat.zero_le 1⟩
  exact ((((((Memory.Chronicled.empty.create (Nat.zero_le 0) rfl rfl rfl).create
    (Nat.le_refl 1) rfl rfl rfl).create (Nat.le_refl 2) rfl rfl rfl).create
    (Nat.le_refl 3) rfl rfl rfl).create (Nat.le_refl 4) rfl rfl rfl).create
    (Nat.le_refl 5) rfl rfl rfl)

/-- No graph is at hand. -/
theorem supplies_unrulyEngine {routines : List Routine}
    (h : ∀ r ∈ routines, (unrulyEngine routines).store.answer? r.id = some r) :
    (unrulyEngine routines).Supplies {} unrulyRegistry routines :=
  ⟨rfl, rfl, h, fun _ _ _ hentry => absurd hentry List.not_mem_nil⟩

/-- The routines a store in memory holds. -/
def heldRoutines : Store → Option (List Routine)
  | .memory records => some records.routines
  | .tables _ => none

theorem listing_of_held {engine : Engine X} {held routines : List Routine}
    (hheld : heldRoutines engine.store = some held)
    (hscope : held.filter
      (fun r => r.scope = "s" && (none : Option RoutineStatus).all (· = r.status)) = routines)
    (hclocks : Routine.areComparable routines)
    (hsorted : routines.Pairwise fun a b => a.created.instant ≤ b.created.instant) :
    ((stored (Store.listRoutines "s" none)).perform engine).1 = .ok routines := by
  obtain ⟨records, hstore, rfl⟩ : ∃ records, engine.store = .memory records ∧
      records.routines = held := by
    cases hstore : engine.store with
    | memory records =>
        rw [hstore] at hheld
        exact ⟨records, rfl, Option.some.inj hheld⟩
    | tables rows =>
        rw [hstore] at hheld
        cases hheld
  have hlist : (stored (Store.listRoutines "s" none)).perform engine =
      (records.listRoutines "s" none, engine) :=
    perform_stored_same hstore rfl
  rw [hlist, Memory.listRoutines, hscope, if_pos hclocks, Routine.sorted,
    List.mergeSort_of_pairwise (by simpa using hsorted)]

/-- Next to siblings of every kind the last routine leaves its tag. -/
theorem gives_as_alone_beside_unruly :
    (∀ r ∈ unrulyRoutines, Equipped unruly {} unrulyRegistry r) ∧
    (unrulyEngine unrulyRoutines).Lists {} unrulyRegistry "s" unrulyRoutines ∧
    (∀ r ∈ unrulyRoutines, (unrulyEngine [r]).Lists {} unrulyRegistry "s" [r]) ∧
    (∀ r ∈ unrulyRoutines, Answers unruly "k" [] "s" (unrulyEngine [r])) ∧
    ∃ (results : Routine → List StepResult) (chains : Routine → List (String × List StepResult))
      (passes : Routine → Nat),
      (∀ r ∈ unrulyRoutines,
        Gives unruly "k" [] "s" (unrulyEngine [r]) (.ok (results r)) (.ok (chains r)) (passes r) ∧
        (results r).length ≤ 1 ∧ (chains r).length ≤ 1 ∧ ∀ chain ∈ chains r, chain.1 = r.id) ∧
      Gives unruly "k" [] "s" (unrulyEngine unrulyRoutines) (.ok (unrulyRoutines.flatMap results))
        (.ok (unrulyRoutines.flatMap chains)) (total passes unrulyRoutines) := by
  have hequipped : ∀ r ∈ unrulyRoutines, Equipped unruly {} unrulyRegistry r :=
    fun r _ => equipped_unruly r
  have hwhole : (unrulyEngine unrulyRoutines).Lists {} unrulyRegistry "s" unrulyRoutines :=
    ⟨.of_faithful faithful_unrulyEngine (by decide +kernel),
      listing_of_held rfl (by decide +kernel) (by decide +kernel) (by decide +kernel)⟩
  have halone : ∀ r ∈ unrulyRoutines, (unrulyEngine [r]).Lists {} unrulyRegistry "s" [r] := by
    have hfound : ∀ r ∈ unrulyRoutines, (unrulyEngine [r]).store.answer? r.id = some r := by
      decide +kernel
    have hscope : ∀ r ∈ unrulyRoutines, (unrulyRecords [r]).routines.filter
        (fun r => r.scope = "s" && (none : Option RoutineStatus).all (· = r.status)) = [r] := by
      decide +kernel
    have hclocks : ∀ r ∈ unrulyRoutines, Routine.areComparable [r] = true := by decide +kernel
    intro r hr
    refine ⟨supplies_unrulyEngine fun r' hr' => ?_,
      listing_of_held rfl (hscope r hr) (hclocks r hr) (List.pairwise_singleton _ r)⟩
    obtain rfl := List.mem_singleton.mp hr'
    exact hfound r' hr
  have hanswers : ∀ r ∈ unrulyRoutines, Answers unruly "k" [] "s" (unrulyEngine [r]) := by
    have hok : ∀ r ∈ unrulyRoutines,
        ((dispatch unruly "k" [] "s").run (unrulyEngine [r])).1.isOk ∧
          ((dispatchChains unruly "k" [] "s").run (unrulyEngine [r])).1.isOk := by
      decide +kernel
    exact fun r hr => ⟨exists_of_isOk (hok r hr).1, exists_of_isOk (hok r hr).2⟩
  exact ⟨hequipped, hwhole, halone, hanswers,
    gives_as_alone "k" [] "s" hequipped hwhole halone hanswers⟩

/-- What is done for an event when the routines of the scope are known. -/
def passed (perform : X → Context → Fields → Activity (Engine X) Returned) (key : String)
    (payload : Fields) (listed : List Routine) : Activity (Engine X) (List StepResult) := do
  let found ← Activity.ofOperation (listed.foldlM (matchRoutine key payload "s") {})
  runAll perform found.intents

theorem run_dispatch_of_listing {perform : X → Context → Fields → Activity (Engine X) Returned}
    (key : String) (payload : Fields) {engine : Engine X} {listed : List Routine}
    (hlist : ((stored (Store.listRoutines "s" none)).perform engine).1 = .ok listed) :
    (dispatch perform key payload "s").run engine =
      (passed perform key payload listed).run engine := by
  have hlisted : (stored (Store.listRoutines "s" none)).perform engine = (.ok listed, engine) :=
    perform_stored_same rfl (Prod.ext hlist (Store.perform_listRoutines_snd "s" none _))
  have hmatch : (matchAll key payload "s").perform engine =
      (listed.foldlM (matchRoutine key payload "s") {}).perform engine :=
    Operation.perform_bind_ok hlisted
  rw [dispatch, Activity.run_bind, dispatchCounted, Activity.run_bind, Activity.run_ofOperation,
    hmatch, passed, Activity.run_bind, Activity.run_ofOperation]
  rcases (listed.foldlM (matchRoutine key payload "s") {}).perform engine with ⟨_ | found, between⟩
  · rfl
  · dsimp only
    rw [if_neg Bool.false_ne_true, Activity.run_bind]
    rcases (runAll perform found.intents).run between with ⟨_ | results, after⟩ <;> rfl

/-- An event before and after a routine is written over behind the engine. -/
def aroundWriting (perform : X → Context → Fields → Activity (Engine X) Returned) (new : Routine)
    (key : String) (payload : Fields) : Activity (Engine X) (List StepResult) := do
  let _ ← dispatch perform key payload "s"
  Activity.ofOperation (stored (Store.writeRoutine new))
  dispatch perform key payload "s"

theorem run_aroundWriting {perform : X → Context → Fields → Activity (Engine X) Returned}
    {new : Routine} {key : String} {payload : Fields} {engine : Engine X}
    {listed listed' : List Routine}
    (hbefore : ((stored (Store.listRoutines "s" none)).perform engine).1 = .ok listed) :
    let between := ((passed perform key payload listed).run engine).2
    let written := ((stored (Store.writeRoutine new)).perform between).2
    ((passed perform key payload listed).run engine).1.isOk →
      ((stored (Store.writeRoutine new)).perform between).1.isOk →
      ((stored (Store.listRoutines "s" none)).perform written).1 = .ok listed' →
      (aroundWriting perform new key payload).run engine =
        (passed perform key payload listed').run written := by
  intro between written hfirst hwrite hafter
  rw [aroundWriting, Activity.run_bind, run_dispatch_of_listing key payload hbefore]
  rcases hrun : (passed perform key payload listed).run engine with ⟨_ | results, s⟩
  · rw [hrun] at hfirst
    cases hfirst
  obtain rfl : between = s := congrArg Prod.snd hrun
  dsimp only
  rw [Activity.run_bind, Activity.run_ofOperation]
  rcases hperform : (stored (Store.writeRoutine new)).perform between with ⟨_ | _, t⟩
  · rw [hperform] at hwrite
    cases hwrite
  obtain rfl : written = t := congrArg Prod.snd hperform
  exact run_dispatch_of_listing key payload hafter

/-- A definition may be written over behind the engine without a new version. An engine that has the
graph at hand does not notice, and one that has given it up for the graph of a sibling does. So the
routine gives out its old tag alone and its new one beside the sibling. -/
theorem result_ne_alone_at_overwritten_definition :
    let tagging (tag : String) : Step :=
      { id := "act", type := "tag", config := [("tag_name", .text tag)] }
    let old := unrulyRoutine 0 [tagging "old"] .active
    let new := unrulyRoutine 0 [tagging "new"] .active
    let sibling := unrulyRoutine 1 [tagging "done"] .active
    (∀ r ∈ [old, new, sibling], Equipped unruly {} unrulyRegistry r) ∧
      ((aroundWriting unruly new "k" []).run (unrulyEngine [old])).1.map
        (List.map StepResult.narrative) = .ok ["Tag added: old."] ∧
      ((aroundWriting unruly new "k" []).run (unrulyEngine [old, sibling])).1.map
        (List.map StepResult.narrative) = .ok ["Tag added: new.", "Tag added: done."] := by
  intro tagging old new sibling
  refine ⟨fun r _ => equipped_unruly r, by decide +kernel, ?_⟩
  have hbefore : ((stored (Store.listRoutines "s" none)).perform
      (unrulyEngine [old, sibling])).1 = .ok [old, sibling] :=
    listing_of_held rfl (by decide +kernel) (by decide +kernel) (by decide +kernel)
  have hafter {engine : Engine Bool}
      (hheld : heldRoutines engine.store = some [new, sibling]) :
      ((stored (Store.listRoutines "s" none)).perform engine).1 = .ok [new, sibling] :=
    listing_of_held hheld (by decide +kernel) (by decide +kernel) (by decide +kernel)
  rw [run_aroundWriting hbefore (by decide +kernel) (by decide +kernel)
    (hafter (by decide +kernel))]
  decide +kernel

end Siblings

end Workflow.Engine
