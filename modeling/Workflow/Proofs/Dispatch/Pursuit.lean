import Workflow.Proofs.Dispatch.Chain
import Workflow.Proofs.Dispatch.Serving
import Workflow.Proofs.Handler.Worded

/-!
# What a chain adds to its run

A chain carries out the steps of a route one after the other and adds the result of each to its run.
It leaves the route early only when a step fails. `Pursues` says this of the results, and
`Engine.Adds` says of two engines that entries with given results were added to a run.
-/

namespace Workflow

/-- The result is one that the step can have in a chain. -/
structure StepResult.Fits (result : StepResult) (step : Step) : Prop where
  waits : step.interactive = true → result = .waiting step
  flows : step.interactive = false → result.continues = result.success ∧
    result.status = if result.success then .completed else .failed

/-- The results are those of the first steps of a route. Each but the last is a success, and the
route is left early only after a failure. -/
inductive Pursues : List Step → List StepResult → Prop
  | arrived {step : Step} {result : StepResult} (fits : result.Fits step) : Pursues [step] [result]
  | failed {step : Step} {result : StepResult} (rest : List Step) (fits : result.Fits step)
      (failure : result.success = false) : Pursues (step :: rest) [result]
  | further {step : Step} {result : StepResult} {rest : List Step} {results : List StepResult}
      (fits : result.Fits step) (success : result.success = true) (later : Pursues rest results) :
      Pursues (step :: rest) (result :: results)

namespace Pursues

variable {route : List Step} {results : List StepResult}

theorem length_le (h : Pursues route results) : results.length ≤ route.length := by
  induction h with
  | arrived _ => exact Nat.le_refl 1
  | failed rest _ _ => exact Nat.succ_le_succ (Nat.zero_le rest.length)
  | further _ _ _ ih => exact Nat.succ_le_succ ih

theorem ne_nil (h : Pursues route results) : results ≠ [] := by
  cases h <;> exact List.cons_ne_nil _ _

theorem success_of_mem_dropLast (h : Pursues route results) {result : StepResult}
    (hmem : result ∈ results.dropLast) : result.success = true := by
  induction h with
  | arrived _ => cases hmem
  | failed _ _ _ => cases hmem
  | further _ success later ih =>
      rw [List.dropLast_cons_of_ne_nil later.ne_nil] at hmem
      rcases List.mem_cons.mp hmem with rfl | hmem
      · exact success
      · exact ih hmem

/-- A route that is not pursued to its end has a failure as its last result. -/
theorem last_of_length_lt (h : Pursues route results) (hlt : results.length < route.length) :
    ∃ last, results.getLast? = some last ∧ last.success = false := by
  induction h with
  | arrived _ => exact absurd hlt (Nat.lt_irrefl 1)
  | @failed _ result _ _ failure => exact ⟨result, rfl, failure⟩
  | further _ _ later ih =>
      obtain ⟨last, hlast, hfailure⟩ := ih (Nat.lt_of_succ_lt_succ hlt)
      exact ⟨last, by rw [List.getLast?_cons, hlast, Option.getD_some], hfailure⟩

/-- A route that is pursued to its end ends with the result of its last step. -/
theorem fits_of_length_eq (h : Pursues route results) (heq : results.length = route.length) :
    ∃ step result, route.getLast? = some step ∧ results.getLast? = some result ∧
      result.Fits step := by
  induction h with
  | @arrived step result fits => exact ⟨step, result, rfl, rfl, fits⟩
  | @failed step result rest fits _ =>
      obtain rfl : rest = [] := List.eq_nil_of_length_eq_zero (Nat.succ.inj heq).symm
      exact ⟨step, result, rfl, rfl, fits⟩
  | further _ _ _ ih =>
      obtain ⟨step, result, hstep, hresult, fits⟩ := ih (Nat.succ.inj heq)
      exact ⟨step, result, by rw [List.getLast?_cons, hstep, Option.getD_some],
        by rw [List.getLast?_cons, hresult, Option.getD_some], fits⟩

end Pursues

namespace Engine

variable {X : Type} {kind : StoreKind} {id : String} {graph : Graph}
variable {engine between engine' : Engine X}

/-- Entries with the results of steps of a routine were added to a run. -/
def Adds (id execution : String) (steps : List Step) (results : List StepResult)
    (engine engine' : Engine X) : Prop :=
  ∃ entries, engine'.entries execution = (engine.entries execution).map (· ++ entries) ∧
    (∀ entry ∈ entries, entry.routine = id) ∧
    entries.map Entry.step = steps.map Step.id ∧ entries.map Entry.result = results

theorem Adds.append {execution : String} {steps steps' : List Step}
    {results results' : List StepResult} (first : Adds id execution steps results engine between)
    (rest : Adds id execution steps' results' between engine') :
    Adds id execution (steps ++ steps') (results ++ results') engine engine' := by
  obtain ⟨entries, hentries, hroutine, hsteps, hresults⟩ := first
  obtain ⟨entries', hentries', hroutine', hsteps', hresults'⟩ := rest
  refine ⟨entries ++ entries', ?_, ?_, ?_, ?_⟩
  · rw [hentries', hentries]
    cases engine.entries execution with
    | error fault => rfl
    | ok before => exact congrArg Except.ok (List.append_assoc before entries entries')
  · exact List.forall_mem_append.mpr ⟨hroutine, hroutine'⟩
  · rw [List.map_append, List.map_append, hsteps, hsteps']
  · rw [List.map_append, hresults, hresults']

theorem Adds.of_eq {execution : String} {steps : List Step} {results : List StepResult}
    {start stop : Engine X} (h : Adds id execution steps results engine engine')
    (hstart : engine.entries execution = start.entries execution)
    (hstop : stop.entries execution = engine'.entries execution) :
    Adds id execution steps results start stop := by
  obtain ⟨entries, hentries, hrest⟩ := h
  exact ⟨entries, by rw [hstop, hentries, hstart], hrest⟩

open Activity (Ends Guarantees Speaks)

variable {perform : X → Context → Fields → Activity (Engine X) Returned}
variable {rely : Engine X → Engine X → Prop} {n : Nat} {intent : Intent}

/-- A step that is carried out with a result was a success, after which the routine goes on, or a
failure. -/
theorem result_of_ends_execute {result : StepResult}
    (hends : Ends rely ((surroundings perform).execute intent) engine (.ok result) engine') :
    result.continues = result.success ∧
      result.status = if result.success then .completed else .failed := by
  rcases ends_execute_iff.mp hends with ⟨result, _, hresult, hcause, -⟩ | ⟨_, hfault, -⟩
  · obtain rfl := Except.ok.inj hresult
    rcases hcause with ⟨_, -, rfl⟩ | ⟨_, _, -, -, -, rfl⟩ <;> exact ⟨rfl, rfl⟩
  · cases hfault

/-- If the handlers speak and the key has words, there is a result. -/
theorem ends_execute (hspeaks : ∀ x context config, Speaks (perform x context config))
    (hkey : intent.step.handlerKey.writable = true) {outcome : Except Fault StepResult}
    (hends : Ends rely ((surroundings perform).execute intent) engine outcome engine') :
    ∃ result, outcome = .ok result ∧ result.continues = result.success ∧
      result.status = if result.success then .completed else .failed := by
  cases outcome with
  | ok result => exact ⟨result, rfl, result_of_ends_execute hends⟩
  | error fault =>
      rcases ends_execute_iff.mp hends with ⟨_, _, hresult, -⟩ | ⟨_, -, hbreaks⟩
      · cases hresult
      · exact absurd hbreaks (not_breaks hspeaks hkey)

variable (hperform : ∀ x context config, Tactful kind id graph (perform x context config))
variable (hspeaks : ∀ x context config, Speaks (perform x context config))
variable (hrely : ∀ s t, rely s t → Spares kind id graph (· = n) s t)

include hperform hspeaks hrely

/-- A step of the routine adds its result to the run. -/
theorem ends_runStep (hkey : intent.step.handlerKey.writable = true) (mine : intent.routine = id)
    (hrun : intent.execution = Identifier.ofNumber n) (h : engine.Serves kind id graph)
    (hn : n < engine.made) {outcome : Except Fault StepResult}
    (hends : Ends rely (runStep perform intent) engine outcome engine') :
    ∃ result, outcome = .ok result ∧ result.Fits intent.step ∧ engine'.Serves kind id graph ∧
      n < engine'.made ∧ Adds id intent.execution [intent.step] [result] engine engine' := by
  have haudit {s s' : Engine X} {result : StepResult} {outcome : Except Fault StepResult}
      (hs : s.Serves kind id graph) (hn : n < s.made)
      (hends : Ends rely (do
        Activity.ofOperation (auditResult intent result)
        pure result) s outcome s') :
      outcome = .ok result ∧ s'.Serves kind id graph ∧ n < s'.made ∧
        Adds id intent.execution [intent.step] [result] s s' := by
    obtain ⟨t, hperform, ht, hmade, -, hadded⟩ := perform_auditResult hs hrun hn result
    have hlast := (Activity.ends_ofOperation_bind_iff hperform).mp hends
    obtain ⟨rfl, rfl⟩ := Activity.ends_ended_iff.mp hlast
    obtain ⟨name, hentries⟩ := hadded mine
    exact ⟨rfl, ht, Nat.lt_of_lt_of_le hn hmade, _, hentries, by simp [Entry.ofResult],
      by simp [Entry.ofResult], by simp [Entry.ofResult]⟩
  unfold runStep at hends
  split at hends
  · obtain ⟨rfl, hrest⟩ := haudit h hn hends
    rename_i waits
    exact ⟨_, rfl,
      ⟨fun _ => rfl, fun flows => absurd (flows.symm.trans waits) Bool.false_ne_true⟩, hrest⟩
  · rename_i flows
    have hspares := spares_execute hperform intent h fun m (hm : m = n) => hm ▸ hn
    rcases Activity.ends_bind_iff.mp hends with ⟨_, rfl, hfault⟩ | ⟨result, s, hexecute, hends⟩
    · obtain ⟨_, hok, -⟩ := ends_execute hspeaks hkey hfault
      cases hok
    · have hfits := result_of_ends_execute hexecute
      obtain ⟨hs, hmade, hsame⟩ := hspares.ends Spares.goesOn hrely hexecute h
      obtain ⟨rfl, hserves, hn', hadds⟩ := haudit hs (Nat.lt_of_lt_of_le hn hmade) hends
      refine ⟨result, rfl, ⟨fun waits => absurd waits flows, fun _ => hfits⟩, hserves, hn', ?_⟩
      exact hadds.of_eq (by rw [hrun, hsame n rfl]) rfl

variable (hkeys : ∀ step ∈ graph.steps, step.handlerKey.writable = true)

include hkeys

/-- A run of steps pursues the route of its first step, by induction on the route. -/
theorem ends_runSteps {route : List Step} (hroute : graph.Route intent.step route)
    (hstep : intent.step ∈ graph.steps) {fuel : Nat} (hfuel : route.length ≤ fuel)
    (mine : intent.routine = id) (hrun : intent.execution = Identifier.ofNumber n)
    (h : engine.Serves kind id graph) (hn : n < engine.made)
    {outcome : Except Fault (List StepResult)}
    (hends : Ends rely (runSteps perform fuel intent) engine outcome engine') :
    ∃ results, outcome = .ok results ∧ Pursues route results ∧ engine'.Serves kind id graph ∧
      Adds id intent.execution (route.take results.length) results engine engine' := by
  induction route generalizing intent engine engine' outcome fuel with
  | nil => exact absurd rfl hroute.ne_nil
  | cons step rest ih =>
  obtain ⟨fuel, rfl⟩ : ∃ k, fuel = k + 1 :=
    Nat.exists_eq_add_of_le' (Nat.le_trans (Nat.succ_le_succ (Nat.zero_le rest.length)) hfuel)
  obtain rfl : step = intent.step := by
    obtain ⟨_, heq⟩ := hroute.exists_cons
    exact (List.cons.inj heq).1
  -- the step itself
  rcases Activity.ends_bind_iff.mp hends with ⟨_, rfl, hfault⟩ | ⟨result, s, hfirst, hends⟩
  · obtain ⟨_, hok, -⟩ :=
      ends_runStep hperform hspeaks hrely (hkeys _ hstep) mine hrun h hn hfault
    cases hok
  obtain ⟨_, hresult, fits, hs, hn, hadds⟩ :=
    ends_runStep hperform hspeaks hrely (hkeys _ hstep) mine hrun h hn hfirst
  cases hresult
  -- what comes after it
  obtain ⟨next, graphs, hnext, hserves, houtcome⟩ := perform_nextIntent hs intent result
  obtain rfl := houtcome mine hstep
  have hstops (hnone : (if result.continues then
      Except.ok ((graph.stepAfter? intent.step.id).map (intent.onward result))
      else .ok none) = (.ok none : Except Fault (Option Intent))) :
      outcome = .ok [result] ∧ engine' = { s with graphs } := by
    rw [hnone] at hnext
    exact Activity.ends_ended_iff.mp ((Activity.ends_ofOperation_bind_iff hnext).mp hends)
  have hone {rest : List Step} : Adds id intent.execution
      ((intent.step :: rest).take [result].length) [result] engine { s with graphs } :=
    hadds.of_eq rfl rfl
  cases hroute with
  | waits waiting =>
      obtain ⟨rfl, rfl⟩ := hstops (by rw [fits.waits waiting]; rfl)
      exact ⟨_, rfl, .arrived fits, hserves, hone⟩
  | ends flowing last =>
      obtain ⟨rfl, rfl⟩ := hstops (by
        rw [Graph.stepAfter?_eq_none_iff.mpr last]
        cases result.continues <;> rfl)
      exact ⟨_, rfl, .arrived fits, hserves, hone⟩
  | @goes _ following _ flowing follows hrest =>
      cases hsuccess : result.success with
      | false =>
          obtain ⟨rfl, rfl⟩ := hstops (by rw [(fits.flows flowing).1, hsuccess]; rfl)
          exact ⟨_, rfl, .failed rest fits hsuccess, hserves, hone⟩
      | true =>
          rw [(fits.flows flowing).1, hsuccess, if_pos rfl, follows] at hnext
          have hlast := (Activity.ends_ofOperation_bind_iff hnext).mp hends
          have hlater {outcome : Except Fault (List StepResult)} {t : Engine X}
              (hends : Ends rely (runSteps perform fuel (intent.onward result following))
                { s with graphs } outcome t) :=
            @ih _ _ (intent.onward result following) hrest (Graph.mem_steps_of_stepAfter? follows)
              _ (Nat.le_of_succ_le_succ hfuel) mine hrun hserves hn _ hends
          rcases Activity.ends_bind_iff.mp hlast with ⟨_, rfl, hfault⟩ | ⟨results, t, hok, hlast⟩
          · obtain ⟨_, hok, -⟩ := hlater hfault
            cases hok
          · obtain ⟨_, hresults, hpursues, ht, hadds'⟩ := hlater hok
            cases hresults
            obtain ⟨rfl, rfl⟩ := Activity.ends_ended_iff.mp hlast
            exact ⟨_, rfl, .further fits hsuccess hpursues, ht, (hadds.of_eq rfl rfl).append hadds'⟩

/-- The chain of an intent pursues the route of its step. -/
theorem ends_runChain {route : List Step} (hroute : graph.Route intent.step route)
    (hstep : intent.step ∈ graph.steps) (mine : intent.routine = id)
    (hrun : intent.execution = Identifier.ofNumber n) (h : engine.Serves kind id graph)
    (hn : n < engine.made) {outcome : Except Fault (List StepResult)}
    (hends : Ends rely (runChain perform intent) engine outcome engine') :
    ∃ results, outcome = .ok results ∧ Pursues route results ∧ engine'.Serves kind id graph ∧
      Adds id intent.execution (route.take results.length) results engine engine' := by
  obtain ⟨count, hcount, hlength⟩ := perform_stepCount engine intent.routine
  have hfuel : route.length ≤ count + chainAllowance := by
    have hsize : count = graph.size := hlength _ (mine ▸ h.steady.stored)
    rw [hsize]
    exact Nat.le_add_right_of_le (hroute.length_le hstep)
  exact ends_runSteps hperform hspeaks hrely hkeys hroute hstep hfuel mine hrun h hn
    ((Activity.ends_ofOperation_bind_iff hcount).mp hends)

end Engine

end Workflow
