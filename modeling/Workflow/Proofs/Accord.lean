import Workflow.Proofs.Conversation.Trail
import Workflow.Proofs.Dispatch.Company

/-!
# A chain and a conversation walk the same route

A conversation that starts passes the trigger and then the route of the step after it. A chain
pursues the route of the first step that is not the trigger. Where these two steps are the same the
chain carries out what the conversation passes, and stops on the way only after a failure.
-/

namespace Workflow

namespace Graph

variable {graph : Graph}

theorem flows_trigger (graph : Graph) : graph.trigger.interactive = false := by
  have hkind : graph.trigger.isTrigger = true :=
    (List.mem_filter.mp (List.head_mem graph.triggers_ne_nil)).2
  have hkind : graph.trigger.kind = .trigger := by simpa [Step.isTrigger] using hkind
  rw [Step.interactive, hkind]
  rfl

/-- What is passed after the trigger is the route of the step after it, if there is one. -/
theorem Route.of_trigger {rest : List Step} (h : graph.Route graph.trigger (graph.trigger :: rest)) :
    (rest = [] ∧ graph.stepAfter? graph.trigger.id = none) ∨
      ∃ step, graph.stepAfter? graph.trigger.id = some step ∧ graph.Route step rest := by
  cases h with
  | waits waiting => exact nomatch (flows_trigger graph).symm.trans waiting
  | ends _ last => exact .inl ⟨rfl, stepAfter?_eq_none_iff.mpr last⟩
  | goes _ follows rest => exact .inr ⟨_, follows, rest⟩

/-- A step has one route. -/
theorem Route.unique {step : Step} {route route' : List Step} (h : graph.Route step route)
    (h' : graph.Route step route') : route = route' := by
  induction h generalizing route' with
  | waits waiting =>
      cases h' with
      | waits _ => rfl
      | ends flowing _ => exact nomatch waiting.symm.trans flowing
      | goes flowing _ _ => exact nomatch waiting.symm.trans flowing
  | ends flowing last =>
      cases h' with
      | waits waiting => exact nomatch waiting.symm.trans flowing
      | ends _ _ => rfl
      | goes _ follows _ => exact nomatch (stepAfter?_eq_none_iff.mpr last).symm.trans follows
  | goes flowing follows _ ih =>
      cases h' with
      | waits waiting => exact nomatch waiting.symm.trans flowing
      | ends _ last => exact nomatch (stepAfter?_eq_none_iff.mpr last).symm.trans follows
      | goes _ follows' rest =>
          obtain rfl := Option.some.inj (follows.symm.trans follows')
          rw [ih rest]

end Graph

theorem Pursues.length_eq {route : List Step} {results : List StepResult} (h : Pursues route results)
    (hall : ∀ result ∈ results, result.success = true) : results.length = route.length := by
  refine Nat.le_antisymm h.length_le (Nat.le_of_not_lt fun hlt => ?_)
  obtain ⟨last, hlast, hfailure⟩ := h.last_of_length_lt hlt
  exact nomatch (hall last (List.mem_of_getLast? hlast)).symm.trans hfailure

namespace Conversation

/-- A conversation that starts without a fault walks from the trigger. -/
theorem walked_start {c : Conversation} {observer : Observer} (hroutine : c.routine ≠ "")
    (hidle : c.state = .idle)
    (h : ∀ fault, (c.meet ⟨.start, .keeping, observer⟩).response ≠ .error fault) :
    ∃ accounts, Walked c c.graph.trigger accounts
        (c.meet ⟨.start, .keeping, observer⟩).conversation ∧
      resultsOf (c.meet ⟨.start, .keeping, observer⟩).effects =
        accounts.map fun account => (account.step, account.result) := by
  obtain ⟨accounts, left, hturned, hreads⟩ :=
    turned_meet hroutine (⟨rfl, fun fault hfault => absurd hfault (h fault)⟩ :
      c.Smooth ⟨.start, .keeping, observer⟩) []
  refine ⟨accounts, ?_, by rw [resultsOf_eq_accountsOf, hreads.accountsOf_eq]⟩
  generalize (c.meet ⟨.start, .keeping, observer⟩).conversation = c' at hturned
  cases hturned with
  | quiet messages hstart _ => exact absurd hidle (hstart rfl)
  | started _ walked => exact walked

end Conversation

namespace Engine

variable {X : Type} {kind : StoreKind} {graph : Graph} {engine : Engine X} {routine : Routine}

/-- Nothing was added yet to a run that is still to begin. -/
theorem Serves.entries_of_le {id : String} (h : engine.Serves kind id graph) {n : Nat}
    (hn : engine.made ≤ n) : engine.entries (Identifier.ofNumber n) = .ok [] := by
  obtain ⟨records, hhold, -, -, hfresh⟩ := h.stored
  rw [entries_eq hhold]
  refine congrArg Except.ok (List.filter_eq_nil_iff.mpr fun entry hentry => ?_)
  simpa using (hfresh entry hentry n hn).2

variable {perform : X → Context → Fields → Activity (Engine X) Returned}

/-- A background chain and a conversation walk the same route. The routine is stored and active, its
graph goes on from the trigger to the first other step, its trigger fires, and the conversation
starts without a fault. The event means something for every routine of the scope, what handlers come
to can be told, and the keys of steps have words; handlers leave the routine as it is and its results
are kept. Then the entries of the chain are those of the steps that the conversation passes after the
trigger, in their order, up to the first failure. When nothing fails both end at the same step and in
the same way. The chain gives out the results of its entries. -/
theorem dispatchChains_accords
    (hperform : ∀ x context config, Tactful kind routine.id graph (perform x context config))
    (hspeaks : ∀ x context config, Activity.Speaks (perform x context config))
    (hkeys : ∀ step ∈ graph.steps, step.handlerKey.writable = true)
    (hsame : graph.firstActionable? = graph.stepAfter? graph.trigger.id)
    (hserves : engine.Serves kind routine.id graph) {scope : String} {listed : List Routine}
    (hlist : ((stored (Store.listRoutines scope none)).perform engine).1 = .ok listed)
    (hroutine : routine ∈ listed) (hactive : routine.status = .active) {key : String}
    {payload : Fields} (hfires : graph.trigger.fires (some key) payload)
    {found : Matches} (hfound : ((matchAll key payload scope).perform engine).1 = .ok found)
    {session name : String} {bindings : Variables} {observer : Observer} (hname : name ≠ "")
    (hstart : ∀ fault, (Conversation.meet { graph, id := session, routine := name, bindings }
      ⟨.start, .keeping, observer⟩).response ≠ .error fault) :
    let outcome := Conversation.meet { graph, id := session, routine := name, bindings }
      ⟨.start, .keeping, observer⟩
    ∃ rest chains after,
      (resultsOf outcome.effects).map Prod.fst = graph.trigger :: rest ∧
      (dispatchChains perform key payload scope).run engine = (.ok chains, after) ∧
      (rest = [] → chains.filter (fun chain => chain.1 = routine.id) = []) ∧
      (rest ≠ [] → ∃ results execution entries,
        chains.filter (fun chain => chain.1 = routine.id) = [(routine.id, results)] ∧
        engine.entries execution = .ok [] ∧ after.entries execution = .ok entries ∧
        (∀ entry ∈ entries, entry.routine = routine.id) ∧
        entries.map Entry.result = results ∧ results ≠ [] ∧
        entries.map Entry.step = (rest.take results.length).map Step.id ∧
        (∀ result ∈ results.dropLast, result.success = true) ∧
        (results.length < rest.length →
          ∃ last, results.getLast? = some last ∧ last.success = false) ∧
        ((∀ result ∈ results, result.success = true) →
          entries.map Entry.step = rest.map Step.id ∧ ∃ step last,
            rest.getLast? = some step ∧ results.getLast? = some last ∧
            outcome.conversation.node = some step.id ∧
            ((step.interactive = true ∧ last.status = .suspended ∧
                outcome.conversation.state = .suspended) ∨
              (step.interactive = false ∧ graph.stepAfter? step.id = none ∧
                last.status = .completed ∧ outcome.conversation.state = .completed)))) := by
  intro outcome
  obtain ⟨accounts, ⟨hroute, -, last, messages, bindings', hlast, hstands⟩, hresults⟩ :=
    Conversation.walked_start (c := { graph, id := session, routine := name, bindings }) hname rfl
      hstart
  have hends := (Account.last_of_route hroute graph.trigger_mem_steps hlast).2
  obtain ⟨rest, hrest⟩ := hroute.exists_cons
  obtain ⟨chains, after, hrun, hnone, hsome⟩ :=
    run_dispatchChains key payload scope hperform hspeaks hkeys hserves hlist hroutine rfl hactive
      hfires hfound
  rw [hsame] at hnone hsome
  rw [hrest] at hroute
  refine ⟨rest, chains, after, ?_, hrun, ?_⟩
  · rw [hresults, List.map_map]
    exact hrest
  rcases hroute.of_trigger with ⟨rfl, hlast⟩ | ⟨step, hstep, hrestRoute⟩
  · exact ⟨fun _ => hnone hlast, fun hne => absurd rfl hne⟩
  refine ⟨fun hnil => absurd hnil hrestRoute.ne_nil, fun hne => ?_⟩
  obtain ⟨route, results, n, hroute', hpursues, hn, hchain, entries, hentries, hmine, hsteps,
    hresults'⟩ := hsome step hstep
  obtain rfl := hroute'.unique hrestRoute
  rw [hserves.entries_of_le hn] at hentries
  refine ⟨results, Identifier.ofNumber n, entries, hchain, hserves.entries_of_le hn, hentries, hmine,
    hresults', hpursues.ne_nil, hsteps, fun _ hmem => hpursues.success_of_mem_dropLast hmem,
    hpursues.last_of_length_lt, fun hall => ?_⟩
  have hlength := hpursues.length_eq hall
  refine ⟨by rw [hsteps, hlength, List.take_length], ?_⟩
  obtain ⟨step', result, hlast', hresult, fits⟩ := hpursues.fits_of_length_eq hlength
  -- the last step of the route is that of the last account
  obtain rfl : last.step = step' := by
    have hsteps' := congrArg List.getLast? hrest
    rw [List.getLast?_map, hlast, List.getLast?_cons, hlast'] at hsteps'
    exact Option.some.inj hsteps'
  have houtcome : outcome.conversation = _ := hstands
  refine ⟨last.step, result, hlast', hresult, by rw [houtcome], ?_⟩
  have hsuccess := hall result (List.mem_of_getLast? hresult)
  cases waits : last.step.interactive with
  | true =>
      refine .inl ⟨rfl, by rw [fits.waits waits]; rfl, by rw [houtcome, waits]; rfl⟩
  | false =>
      refine .inr ⟨rfl, hends.resolve_left (by rw [waits]; exact Bool.false_ne_true), ?_, ?_⟩
      · rw [(fits.flows waits).2, hsuccess]
        rfl
      · rw [houtcome, waits]
        rfl

/-- A handler that passes on the event by which it is called to another scope, so that a routine of
that scope leaves its tag while the one the handler is called for is under way. -/
theorem dispatchChains_accords_at_echo :
    let d : Definition :=
      { steps := [{ id := "go", type := "trigger", key := some "k" },
          { id := "echo", type := "action", key := some "echo" }, { id := "ask", type := "buttons" }]
        edges := [{ source := "go", target := "echo" }, { source := "echo", target := "ask" }] }
    let tagging : Definition :=
      { steps := [{ id := "go", type := "trigger", key := some "k" },
          { id := "mark", type := "tag", config := [("tag_name", .text "heard")] }]
        edges := [{ source := "go", target := "mark" }] }
    let graph : Graph := ⟨Engine.rules {}, d, by decide +kernel⟩
    let perform : Unit → Context → Fields → Activity (Engine Unit) Returned := fun _ _ _ =>
      (dispatchChains (fun _ _ _ => .ended (.ok (.value .null))) "k" [] "o").andThen
        fun _ => .ended (.ok (.value (.text "Passed on.")))
    let routine : Routine :=
      { id := "r", template := "t", scope := "s", name := "n", definition := d, created := ⟨0, none⟩ }
    let other : Routine := { routine with id := "q", scope := "o", definition := tagging }
    let engine : Engine Unit :=
      { settings := {}, store := .memory { routines := [routine, other] }
        registry := ("echo", { handler := .custom () }) :: Registry.standard
        graphs := { limit := 1 }, table := { limit := 1 } }
    let outcome := Conversation.meet { graph, id := "c", routine := "r" }
      ⟨.start, .keeping, fun _ => .ok ()⟩
    (∀ x context config, Tactful .memory "r" graph (perform x context config)) ∧
      (∀ x context config, Activity.Speaks (perform x context config)) ∧
      engine.Serves .memory "r" graph ∧ graph.firstActionable? = graph.stepAfter? graph.trigger.id ∧
      (resultsOf outcome.effects).map (fun kept => kept.1.id) = ["go", "echo", "ask"] ∧
      ∃ chains after execution entries,
        (dispatchChains perform "k" [] "s").run engine = (.ok chains, after) ∧
        after.entries execution = .ok entries ∧ entries.map Entry.step = ["echo", "ask"] ∧
        ((Store.entriesOf other.id { limit := 9, offset := 0 }).perform after.store).1.map
          (List.map Entry.step) = .ok ["mark"] := by
  intro d tagging graph perform routine other engine outcome
  have htactful : ∀ x context config, Tactful .memory "r" graph (perform x context config) :=
    fun _ _ _ s hs => (tactful_dispatchChains "k" [] "o" (fun _ _ _ t _ => .ended _ t) s hs).andThen
      Spares.goesOn fun _ t _ => .ended _ t
  have hspeaks : ∀ x context config, Activity.Speaks (perform x context config) :=
    fun _ _ _ => Activity.speaks_andThen fun _ => Activity.speaks_ended (.value _)
  have hserves : engine.Serves .memory "r" graph :=
    ⟨⟨by decide +kernel, fun _ _ _ hentry => absurd hentry List.not_mem_nil⟩, rfl, rfl,
      { routines := [routine, other] }, rfl,
      List.forall_mem_cons.mpr ⟨by decide, List.forall_mem_singleton.mpr (by decide)⟩, by decide,
      fun _ hentry => absurd hentry List.not_mem_nil⟩
  have hsame : graph.firstActionable? = graph.stepAfter? graph.trigger.id := by decide +kernel
  have hsteps : (resultsOf outcome.effects).map (fun kept => kept.1.id) = ["go", "echo", "ask"] := by
    decide +kernel
  refine ⟨htactful, hspeaks, hserves, hsame, hsteps, ?_⟩
  have hlist : ((stored (Store.listRoutines "s" none)).perform engine).1 = .ok [routine] := by
    decide +kernel
  have hstart (fault : Fault) : outcome.response ≠ .error fault := by
    rw [show outcome.response = .ok (.state .suspended) by decide +kernel]
    nofun
  have hfires : graph.trigger.fires (some "k") [] := by decide +kernel
  have hfound : ((matchAll "k" [] "s").perform engine).1 =
      .ok { intents := [{ routine := "r", execution := Identifier.ofNumber 0
                          step := { id := "echo", type := "action", key := some "echo" }
                          context := { routine := "r", scope := "s" } }] } := by
    decide +kernel
  obtain ⟨rest, chains, after, hrest, hrun, -, hsome⟩ :=
    dispatchChains_accords htactful hspeaks (by decide +kernel) hsame hserves hlist
      (List.mem_singleton_self _) rfl hfires hfound (by decide) hstart
  have hids : rest.map Step.id = ["echo", "ask"] := by
    have hall : ((resultsOf outcome.effects).map Prod.fst).map Step.id = ["go", "echo", "ask"] := by
      rw [List.map_map]
      exact hsteps
    rw [hrest] at hall
    exact List.tail_eq_of_cons_eq hall
  obtain ⟨results, execution, entries, hchain, -, hentries, -, -, -, -, -, -, hall⟩ :=
    hsome (by
      rintro rfl
      cases hids)
  have hsuccess : ((dispatchChains perform "k" [] "s").run engine).1.map (fun chains =>
      chains.map fun chain => chain.2.map StepResult.success) = .ok [[true, true]] := by
    decide +kernel
  rw [hrun] at hsuccess
  have hsuccess : chains.map (fun chain => chain.2.map StepResult.success) = [[true, true]] :=
    Except.ok.inj hsuccess
  have hmem : (routine.id, results) ∈ chains :=
    List.mem_of_mem_filter (hchain ▸ List.mem_singleton_self _)
  have hresults : results.map StepResult.success = [true, true] := by
    rw [← List.mem_singleton, ← hsuccess]
    exact List.mem_map.mpr ⟨_, hmem, rfl⟩
  have hother : ((Store.entriesOf other.id { limit := 9, offset := 0 }).perform
      ((dispatchChains perform "k" [] "s").run engine).2.store).1.map (List.map Entry.step) =
        .ok ["mark"] := by
    decide +kernel
  rw [hrun] at hother
  refine ⟨chains, after, execution, entries, hrun, hentries, ?_, hother⟩
  refine (hall fun result hresult => ?_).1.trans hids
  have hsucceeds : result.success ∈ [true, true] := hresults ▸ List.mem_map_of_mem hresult
  simpa using hsucceeds

/-- A handler may use up the room for the results of its own routine. Then the chain goes on and gives
out its results, and none of them is kept. -/
theorem dispatchChains_keeps_nothing_without_room :
    let d : Definition :=
      { steps := [{ id := "go", type := "trigger", key := some "k" },
          { id := "note", type := "action", key := some "note" }]
        edges := [{ source := "go", target := "note" }] }
    let graph : Graph := ⟨Engine.rules {}, d, by decide +kernel⟩
    let perform : Unit → Context → Fields → Activity (Engine Unit) Returned := fun _ _ _ => do
      Activity.ofOperation (modify fun engine => { engine with unwritable := [("r", "no room")] })
      return .value (.text "Noted.")
    let routine : Routine :=
      { id := "r", template := "t", scope := "s", name := "n", definition := d, created := ⟨0, none⟩ }
    let engine : Engine Unit :=
      { settings := {}, store := .memory { routines := [routine] }
        registry := ("note", { handler := .custom () }) :: Registry.standard
        graphs := { limit := 1 }, table := { limit := 1 } }
    let outcome := Conversation.meet { graph, id := "c", routine := "r" }
      ⟨.start, .keeping, fun _ => .ok ()⟩
    let after := ((dispatchChains perform "k" [] "s").run engine).2
    (∀ x context config, ∀ s : Engine Unit, ((perform x context config).run s).2.store = s.store) ∧
      engine.Serves .memory "r" graph ∧ graph.firstActionable? = graph.stepAfter? graph.trigger.id ∧
      outcome.response = .ok (.state .completed) ∧
      (resultsOf outcome.effects).map (fun kept => kept.1.id) = ["go", "note"] ∧
      ((dispatchChains perform "k" [] "s").run engine).1.map
        (List.map fun chain => (chain.1, chain.2.map StepResult.success)) = .ok [("r", [true])] ∧
      ((Store.entriesOf "r" { limit := 9, offset := 0 }).perform after.store).1.map
        (List.map Entry.step) = .ok [] := by
  intro d graph perform routine engine outcome after
  have hserves : engine.Serves .memory "r" graph :=
    ⟨⟨by decide +kernel, fun _ _ _ hentry => absurd hentry List.not_mem_nil⟩, rfl, rfl,
      { routines := [routine] }, rfl, List.forall_mem_singleton.mpr (by decide), by decide,
      fun _ hentry => absurd hentry List.not_mem_nil⟩
  exact ⟨fun _ _ _ _ => rfl, hserves, by decide +kernel, by decide +kernel, by decide +kernel,
    by decide +kernel, by decide +kernel⟩

end Engine

end Workflow
