import Workflow.Proofs.Dispatch.Abiding
import Workflow.Proofs.Dispatch.Tally
import Workflow.Proofs.Lifecycle.Accepted

/-!
# The account of an event

Every routine of a scope falls into one class when an event is passed on: its definition is no
graph, its trigger does not fire, it is not active, it has no step to carry out, or it is due. Those
that are due are answered for, one after the other, and those that are not active are passed over.
A trigger with a keyword that has no text is in a class of its own, and ends the call. What an engine
counts during its life comes to what it passes over for all events together, those included that
handlers pass on.
-/

namespace Workflow

/-- The event that an errand passes on, with its scope. -/
def Errand.event? : Errand → Option (String × Fields × String)
  | .dispatch key payload scope => some (key, payload, scope)
  | .dispatchCounted key payload scope _ => some (key, payload, scope)
  | .dispatchChains key payload scope => some (key, payload, scope)
  | _ => none

namespace Engine

open Activity (Abides Ends)
open Operation (Respects)

variable {X α : Type} {kind : StoreKind} {limit : Nat} {records : Memory}
variable {engine engine' : Engine X} {events : String × Fields × String → Prop}

section Classes

variable {settings : Settings} {key : String} {payload : Fields} {routine : Routine}

/-- What an event means for a routine. -/
inductive Meets (settings : Settings) (key : String) (payload : Fields) (routine : Routine) :
    Verdict → Prop
  /-- Something is wrong with the definition. -/
  | broken (refused : Graph.violations (rules settings) routine.definition ≠ []) :
      Meets settings key payload routine .broken
  /-- The definition is a graph whose trigger has a keyword without a text. -/
  | wordless (graph : Graph) (checked : graph.rules = rules settings)
      (defined : graph.definition = routine.definition)
      (wordless : graph.trigger.wordless (some key) = true) :
      Meets settings key payload routine .wordless
  /-- The definition is a graph whose trigger does not fire. -/
  | silent (graph : Graph) (checked : graph.rules = rules settings)
      (defined : graph.definition = routine.definition)
      (worded : graph.trigger.wordless (some key) = false)
      (quiet : graph.trigger.fires (some key) payload = false) :
      Meets settings key payload routine .silent
  /-- The trigger fires, and the routine is not active. -/
  | inactive (graph : Graph) (checked : graph.rules = rules settings)
      (defined : graph.definition = routine.definition)
      (worded : graph.trigger.wordless (some key) = false)
      (fires : graph.trigger.fires (some key) payload = true)
      (resting : routine.status ≠ .active) : Meets settings key payload routine .inactive
  /-- The trigger of the active routine fires, and it is the only step. -/
  | stepless (graph : Graph) (checked : graph.rules = rules settings)
      (defined : graph.definition = routine.definition)
      (worded : graph.trigger.wordless (some key) = false)
      (fires : graph.trigger.fires (some key) payload = true) (active : routine.status = .active)
      (alone : ∀ step ∈ graph.steps, step.id = graph.trigger.id) :
      Meets settings key payload routine .stepless
  /-- The trigger of the active routine fires, and this is the first step to carry out. -/
  | due (graph : Graph) (checked : graph.rules = rules settings)
      (defined : graph.definition = routine.definition)
      (worded : graph.trigger.wordless (some key) = false)
      (fires : graph.trigger.fires (some key) payload = true) (active : routine.status = .active)
      (step : Step) (first : graph.firstActionable? = some step) :
      Meets settings key payload routine (.due step)

theorem verdictOf_eq_verdictOn {graph : Graph} (hchecked : graph.rules = rules settings)
    (hdefined : graph.definition = routine.definition) :
    verdictOf settings key payload routine = verdictOn graph routine.status key payload := by
  rw [verdictOf, ← hdefined, ← hchecked, Graph.ofDefinition_definition]

/-- A routine falls into one class and no other. -/
theorem meets_iff {meant : Verdict} :
    Meets settings key payload routine meant ↔ verdictOf settings key payload routine = meant := by
  constructor
  · intro h
    cases h with
    | broken refused => rw [verdictOf, Graph.ofDefinition_eq_error refused]
    | wordless graph checked defined wordless =>
        simp [verdictOf_eq_verdictOn checked defined, verdictOn, wordless]
    | silent graph checked defined worded quiet =>
        simp [verdictOf_eq_verdictOn checked defined, verdictOn, worded, quiet]
    | inactive graph checked defined worded fires resting =>
        simp [verdictOf_eq_verdictOn checked defined, verdictOn, worded, fires, resting]
    | stepless graph checked defined worded fires active alone =>
        have hnone : graph.firstActionable? = none := by
          simpa [Graph.firstActionable?] using alone
        simp [verdictOf_eq_verdictOn checked defined, verdictOn, worded, fires, active, hnone]
    | due graph checked defined worded fires active step first =>
        simp [verdictOf_eq_verdictOn checked defined, verdictOn, worded, fires, active, first]
  · rintro rfl
    cases hgraph : Graph.ofDefinition (rules settings) routine.definition with
    | error fault =>
        have hbroken : verdictOf settings key payload routine = .broken := by
          rw [verdictOf, hgraph]
        rw [hbroken]
        refine .broken fun haccepted => ?_
        obtain ⟨graph, hgraph'⟩ := Graph.exists_ofDefinition haccepted
        cases hgraph.symm.trans hgraph'
    | ok graph =>
        have hchecked := Graph.rules_of_ofDefinition hgraph
        have hdefined := (Graph.of_ofDefinition hgraph).2
        rw [verdictOf_eq_verdictOn hchecked hdefined, verdictOn]
        split
        · exact .wordless graph hchecked hdefined ‹_›
        · have hworded : graph.trigger.wordless (some key) = false := by simp_all
          split
          · exact .silent graph hchecked hdefined hworded (by simp_all)
          · have hfires : graph.trigger.fires (some key) payload = true := by simp_all
            split
            · exact .inactive graph hchecked hdefined hworded hfires ‹_›
            · have hactive : routine.status = .active := not_not.mp ‹_›
              split
              · exact .due graph hchecked hdefined hworded hfires hactive _ ‹_›
              · refine .stepless graph hchecked hdefined hworded hfires hactive ?_
                simpa [Graph.firstActionable?] using ‹graph.firstActionable? = none›

end Classes

section Events

/-- The routines are those that one of the events passes over, in the order in which the store of an
engine lists them. -/
def OfEvent (X : Type) (kind : StoreKind) (limit : Nat) (events : String × Fields × String → Prop)
    (settings : Settings) (gates : List Skip) : Prop :=
  ∃ (engine : Engine X) (records : Memory) (key : String) (payload : Fields) (scope : String)
    (listed : List Routine), events (key, payload, scope) ∧ engine.Faithful kind limit records ∧
      engine.settings = settings ∧ engine.listing scope = .ok listed ∧
      gates = passedOver settings key payload (reached settings key payload listed)

/-- The graphs at hand stay faithful, and routines are passed over for some events only. -/
def ForEvents (kind : StoreKind) (limit : Nat) (events : String × Fields × String → Prop)
    (engine engine' : Engine X) : Prop :=
  ∀ records, engine.Faithful kind limit records →
    (∃ records', engine'.Faithful kind limit records') ∧
    ∃ calls : List (List Skip),
      (∀ gates ∈ calls, OfEvent X kind limit events engine.settings gates) ∧
      Passes calls.flatten engine engine'

instance : IsPreorder (Engine X) (ForEvents kind limit events) where
  refl engine records h := ⟨⟨records, h⟩, [], nofun, refl_of (Passes []) engine⟩
  trans engine between engine' first rest records h := by
    obtain ⟨⟨records', h'⟩, calls, hcalls, hfirst⟩ := first records h
    obtain ⟨hafter, calls', hcalls', hrest⟩ := rest records' h'
    refine ⟨hafter, calls ++ calls', List.forall_mem_append.mpr ⟨hcalls, ?_⟩, ?_⟩
    · rwa [← hfirst.settings]
    · rw [List.flatten_append]
      exact hfirst.append hrest

theorem Faithful.rebuilt (h : engine.Faithful kind limit records) :
    Rebuilt kind limit [] engine engine.rebuilt := ⟨rfl, records, h, nofun⟩

/-- Work that is blind to the graphs at hand and passes over no routine. -/
theorem forEvents_of_plain {operation : Work X α}
    (hblind : Operation.Blind (Rebuilt kind limit []) operation)
    (hplain : Respects Plain operation) :
    Respects (ForEvents kind limit events) operation := by
  intro engine records h
  obtain ⟨-, records', h', -⟩ := (hblind _ _ h.rebuilt).2
  exact ⟨⟨records', h'⟩, [], nofun, (hplain engine).passes⟩

variable (key : String) (payload : Fields) (scope : String)

/-- What an event brings about, and what it passes over. -/
theorem outcome_matchAll (h : engine.Faithful kind limit records) {listed : List Routine}
    (hlist : engine.listing scope = .ok listed) :
    ∃ (outcome : Except Fault Matches) (engine' : Engine X),
      (matchAll key payload scope).perform engine = (outcome, engine') ∧
      Passes (passedOver engine.settings key payload (reached engine.settings key payload listed))
        engine engine' ∧
      (∃ records', engine'.Faithful kind limit records') ∧
      ((∃ r ∈ listed, verdictOf engine.settings key payload r = .wordless) →
        outcome = .error (.oversizeNumber .written)) ∧
      ((∀ r ∈ listed, verdictOf engine.settings key payload r ≠ .wordless) → ∃ intents,
        outcome = .ok ⟨intents, (passedOver engine.settings key payload listed).length⟩ ∧
        List.Forall₂ (Intends payload scope) (due engine.settings key payload listed) intents) := by
  obtain ⟨outcome, engine', hmatch, hpasses, hfound⟩ := passes_matchAll key payload scope h hlist
  obtain ⟨-, records', h', -⟩ := (blind_matchAll key payload scope _ _ h.rebuilt).2
  rw [hmatch] at h'
  exact ⟨outcome, engine', hmatch, hpasses, ⟨records', h'⟩, hfound⟩

theorem forEvents_matchAll (hevent : events (key, payload, scope)) :
    Respects (ForEvents kind limit events) (matchAll key payload scope : Work X Matches) := by
  intro engine records h
  cases hlist : engine.listing scope with
  | error fault =>
      rw [perform_matchAll_error key payload scope hlist]
      exact refl_of (ForEvents kind limit events) engine records h
  | ok listed =>
      obtain ⟨_, engine', hmatch, hpasses, h', -⟩ := outcome_matchAll key payload scope h hlist
      rw [hmatch]
      refine ⟨h', [passedOver engine.settings key payload
        (reached engine.settings key payload listed)], List.forall_mem_singleton.mpr ?_, ?_⟩
      · exact ⟨engine, records, key, payload, scope, listed, hevent, h, rfl, hlist, rfl⟩
      · rwa [List.flatten_singleton]

end Events

section Handlers

variable {perform : X → Context → Fields → Activity (Engine X) Returned}
variable
  (hperform : ∀ x context config, Abides (ForEvents kind limit events) (perform x context config))

include hperform

theorem abiding_forEvents : Abiding perform (ForEvents kind limit events) where
  executed _ _ _ _ _ := forEvents_of_plain ((aside_notify _).blind []) (plain_notify rfl)
  send mail := forEvents_of_plain ((aside_send mail).blind []) (plain_send mail)
  audit intent result := forEvents_of_plain ((aside_auditResult intent result).blind [])
    (plain_auditResult intent result)
  next intent result := forEvents_of_plain (blind_nextIntent intent result)
    (plain_nextIntent intent result)
  count id := forEvents_of_plain ((aside_stepCount id).blind []) (plain_stepCount id)
  perform := hperform

omit hperform in
/-- An errand that passes on no event passes over no routine. -/
theorem exists_plain {errand : Errand} (h : errand.event? = none) :
    ∃ operation : Work X Report, runErrand perform errand = .ofOperation operation ∧
      Operation.Blind (Rebuilt kind limit []) operation ∧ Respects Plain operation := by
  cases errand with
  | instantiate template scope configuration name createdBy =>
      exact ⟨_, rfl, ((aside_instantiate ..).map _).blind [],
        .map _ (plain_instantiate _ _ _ _ _)⟩
  | routine id scope =>
      exact ⟨_, rfl, ((aside_routine id scope).map _).blind [], .map _ (plain_routine id scope)⟩
  | routines scope status =>
      exact ⟨_, rfl, ((aside_routines scope status).map _).blind [], .map _ (plain_stored _)⟩
  | snapshot id definition createdBy =>
      refine ⟨Report.snapshot <$> (do
        let found ← routine id none
        record found.id definition createdBy), ?_, ((aside_snapshot ..).map _).blind [], ?_⟩
      · exact congrArg Activity.ofOperation (map_bind _ _ _).symm
      · exact .map _ (.bind (plain_routine id none) fun _ => plain_record _ _ _)
  | updateDefinition id definition createdBy =>
      refine ⟨_, rfl, ((aside_updateDefinition ..).map _).blind [], .map _ ?_⟩
      exact .bind (plain_editable id) fun _ => .bind (plain_check definition) fun _ =>
        plain_advance _ _ _
  | history id =>
      refine ⟨_, rfl, ((aside_history id).map _).blind [], .map _ ?_⟩
      exact .bind (plain_routine id none) fun _ => plain_stored _
  | version id number =>
      exact ⟨_, rfl, ((aside_version id number).map _).blind [],
        .map _ (plain_version id number)⟩
  | rollback id number createdBy =>
      refine ⟨_, rfl, ((aside_rollback ..).map _).blind [], .map _ ?_⟩
      exact .bind (plain_editable id) fun _ => .bind (plain_version id number) fun _ =>
        plain_advance _ _ _
  | setStatus id status =>
      exact ⟨_, rfl, ((aside_setStatus id status).map _).blind [],
        .map _ (plain_setStatus id status)⟩
  | dispatch | dispatchCounted | dispatchChains => cases h

/-- Handlers that work by errands pass over routines only for the events that these pass on. -/
theorem abides_runErrand {errand : Errand}
    (hevents : ∀ event, errand.event? = some event → events event) :
    Abides (ForEvents kind limit events) (runErrand perform errand) := by
  have habiding := abiding_forEvents hperform
  cases hevent : errand.event? with
  | none =>
      obtain ⟨operation, hrun, hblind, hplain⟩ :=
        @exists_plain X kind limit perform errand hevent
      rw [hrun]
      exact .ofOperation (forEvents_of_plain hblind hplain)
  | some event =>
      cases errand with
      | dispatch key payload scope =>
          have hmatching := @forEvents_matchAll X kind limit events _ _ _ (hevents _ rfl)
          exact .bind (.bind (habiding.dispatchCounted hmatching false) fun _ => .ended _) fun _ =>
            .ended _
      | dispatchCounted key payload scope follow =>
          exact .bind (habiding.dispatchCounted (forEvents_matchAll _ _ _ (hevents _ rfl)) follow)
            fun _ => .ended _
      | dispatchChains key payload scope =>
          exact .bind (habiding.dispatchChains (forEvents_matchAll _ _ _ (hevents _ rfl))) fun _ =>
            .ended _
      | _ => cases hevent

end Handlers

section Account

variable {perform : X → Context → Fields → Activity (Engine X) Returned}
variable {key : String} {payload : Fields} {scope : String} {follow : Bool} {listed : List Routine}

/-- Routines are passed over for a call, if there is one, and then for some events only. -/
def PassesFor (kind : StoreKind) (limit : Nat) (events : String × Fields × String → Prop)
    (call : Option (List Skip)) (engine engine' : Engine X) : Prop :=
  (∃ records, engine'.Faithful kind limit records) ∧ ∃ nested : List (List Skip),
    (∀ gates ∈ nested, OfEvent X kind limit events engine.settings gates) ∧
      Passes (call.toList ++ nested).flatten engine engine'

/-- What an event passes over that is passed on to a scope, if there is a list of its routines. -/
def passedOver? (engine : Engine X) (key : String) (payload : Fields) (scope : String) :
    Option (List Skip) :=
  (engine.listing scope).toOption.map fun listed =>
    passedOver engine.settings key payload (reached engine.settings key payload listed)

/-- What an errand passes over itself. -/
def gates? (engine : Engine X) (errand : Errand) : Option (List Skip) :=
  errand.event?.bind fun (key, payload, scope) => engine.passedOver? key payload scope

theorem passesFor_of_matchAll {f : Matches → Activity (Engine X) α}
    (h : engine.Faithful kind limit records)
    (hf : ∀ found, Abides (ForEvents kind limit events) (f found)) {outcome : Except Fault α}
    (hends : Ends (ForEvents kind limit events)
      (Activity.ofOperation (matchAll key payload scope) >>= f) engine outcome engine') :
    PassesFor kind limit events (engine.passedOver? key payload scope) engine engine' := by
  rw [passedOver?]
  cases hlist : engine.listing scope with
  | error fault =>
      have hmatch := perform_matchAll_error key payload scope hlist
      rcases Activity.ends_bind_iff.mp hends with ⟨_, -, hfault⟩ | ⟨_, _, hok, -⟩
      · cases hmatch.symm.trans (Activity.ends_ofOperation_iff.mp hfault)
        exact ⟨⟨records, h⟩, [], nofun, refl_of (Passes []) engine⟩
      · cases hmatch.symm.trans (Activity.ends_ofOperation_iff.mp hok)
  | ok listed =>
      obtain ⟨matching, matched, hmatch, hpasses, ⟨records', h'⟩, -⟩ :=
        outcome_matchAll key payload scope h hlist
      rcases Activity.ends_bind_iff.mp hends with ⟨_, -, hfault⟩ | ⟨found, _, hok, hlast⟩
      · cases hmatch.symm.trans (Activity.ends_ofOperation_iff.mp hfault)
        exact ⟨⟨records', h'⟩, [], nofun, by simpa [Except.toOption] using hpasses⟩
      · cases hmatch.symm.trans (Activity.ends_ofOperation_iff.mp hok)
        obtain ⟨hafter, nested, hnested, hrest⟩ := (hf found).ends hlast records' h'
        exact ⟨hafter, nested, hpasses.settings ▸ hnested, hpasses.append hrest⟩

/-- On its own an activity ends as it may among others. -/
theorem ends_run (p : Activity (Engine X) α) (engine : Engine X) :
    Ends (ForEvents kind limit events) p engine (p.run engine).1 (p.run engine).2 :=
  (Activity.ends_eq_iff.mpr rfl).imp fun s _ hsame =>
    hsame ▸ refl_of (ForEvents kind limit events) s

theorem ends_of_bind_ended {β : Type} {rely : Engine X → Engine X → Prop}
    {p : Activity (Engine X) α} {g : α → Except Fault β} {outcome : Except Fault β}
    (hends : Ends rely (p >>= fun a => .ended (g a)) engine outcome engine') :
    ∃ first, Ends rely p engine first engine' := by
  rcases Activity.ends_bind_iff.mp hends with ⟨fault, -, hfault⟩ | ⟨a, between, hok, hlast⟩
  · exact ⟨_, hfault⟩
  · obtain ⟨-, rfl⟩ := Activity.ends_ended_iff.mp hlast
    exact ⟨_, hok⟩

/-- What a routine that is due is answered with: all results of its chain when the event is
followed, and else the result of its first step. It is a fault if what the routine came to cannot be
told. -/
def DueAnswer (kind : StoreKind) (limit : Nat) (events : String × Fields × String → Prop)
    (perform : X → Context → Fields → Activity (Engine X) Returned) (payload : Fields)
    (scope : String) (follow : Bool) (engine engine' : Engine X) (due : Routine × Step)
    (answer : Except Fault (List StepResult)) : Prop :=
  ∃ intent, Intends payload scope due intent ∧
    if follow then
      TellsOf (ForEvents kind limit events) (runChain perform) crashedChain engine engine' intent
        answer
    else
      ∃ first, answer = first.map (fun result => [result]) ∧
        TellsOf (ForEvents kind limit events) (runFirst perform) crashed engine engine' intent first

section DueAnswers

variable {due : Routine × Step} {answer : Except Fault (List StepResult)}
variable {results : List StepResult}

theorem DueAnswer.ne_nil
    (h : DueAnswer kind limit events perform payload scope follow engine engine' due (.ok results)) :
    results ≠ [] := by
  obtain ⟨intent, -, h⟩ := h
  cases follow with
  | true => exact ne_nil_of_tellsOf h
  | false =>
      obtain ⟨first, heq, -⟩ := h
      cases first with
      | error fault => cases heq
      | ok result =>
          rw [Except.ok.inj heq]
          exact List.cons_ne_nil _ _

theorem DueAnswer.length_eq_one
    (h : DueAnswer kind limit events perform payload scope false engine engine' due (.ok results)) :
    results.length = 1 := by
  obtain ⟨intent, -, first, heq, -⟩ := h
  cases first with
  | error fault => cases heq
  | ok result =>
      rw [Except.ok.inj heq]
      rfl

/-- If all that handlers come to has words then there is something to tell of every routine. -/
theorem DueAnswer.exists_results
    (hworded : ∀ x context config, Activity.Worded (perform x context config))
    (h : DueAnswer kind limit events perform payload scope follow engine engine' due answer) :
    ∃ results, answer = .ok results := by
  obtain ⟨intent, -, h⟩ := h
  cases follow with
  | true =>
      obtain ⟨outcome, ⟨_, _, -, hends, -⟩, rfl⟩ := h
      cases outcome with
      | ok results => exact ⟨results, rfl⟩
      | error fault =>
          exact exists_crashedChain intent (worded_runChain hworded intent _ _ _ _ hends fault rfl)
  | false =>
      obtain ⟨_, rfl, outcome, ⟨_, _, -, hends, -⟩, rfl⟩ := h
      cases outcome with
      | ok result => exact ⟨[result], rfl⟩
      | error fault =>
          obtain ⟨result, hresult⟩ :=
            exists_crashed intent (worded_runFirst hworded intent _ _ _ _ hends fault rfl)
          exact ⟨[result], congrArg (Except.map fun result => [result]) hresult⟩

end DueAnswers

theorem mapM_map_singleton (outcomes : List (Except Fault α)) :
    ((outcomes.map (Except.map fun a => [a])).mapM fun outcome => outcome) =
      (outcomes.mapM fun outcome => outcome).map (List.map fun a => [a]) := by
  induction outcomes with
  | nil => rfl
  | cons outcome rest ih =>
      rw [List.map_cons, List.mapM_cons, List.mapM_cons, ih]
      cases outcome with
      | error fault => rfl
      | ok a => cases rest.mapM fun outcome => outcome <;> rfl

section Calls

variable
  (hperform : ∀ x context config, Abides (ForEvents kind limit events) (perform x context config))

include hperform

theorem passesFor_dispatchCounted (h : engine.Faithful kind limit records)
    {outcome : Except Fault (List StepResult × Nat)}
    (hends : Ends (ForEvents kind limit events) (dispatchCounted perform key payload scope follow)
      engine outcome engine') :
    PassesFor kind limit events (engine.passedOver? key payload scope) engine engine' := by
  have habiding := abiding_forEvents hperform
  exact passesFor_of_matchAll h (habiding.runFound follow) hends

/-- What an errand passes over itself comes first. -/
theorem passesFor_runErrand (h : engine.Faithful kind limit records) {errand : Errand}
    {outcome : Except Fault Report}
    (hends : Ends (ForEvents kind limit events) (runErrand perform errand) engine outcome engine') :
    PassesFor kind limit events (engine.gates? errand) engine engine' := by
  have habiding := abiding_forEvents hperform
  cases hevent : errand.event? with
  | none =>
      obtain ⟨hafter, nested, hnested, hpasses⟩ :=
        (abides_runErrand hperform (by rw [hevent]; exact nofun)).ends hends records h
      rw [gates?, hevent]
      exact ⟨hafter, nested, hnested, hpasses⟩
  | some event =>
      cases errand with
      | dispatch key payload scope =>
          obtain ⟨_, hends⟩ := ends_of_bind_ended hends
          obtain ⟨_, hends⟩ := ends_of_bind_ended hends
          exact passesFor_dispatchCounted hperform h hends
      | dispatchCounted key payload scope follow =>
          obtain ⟨_, hends⟩ := ends_of_bind_ended hends
          exact passesFor_dispatchCounted hperform h hends
      | dispatchChains key payload scope =>
          obtain ⟨_, hends⟩ := ends_of_bind_ended hends
          exact passesFor_of_matchAll h (fun found => habiding.runChains found.intents) hends
      | _ => cases hevent

/-- Each routine that is due is answered for, in the order of the list, and the routines that are
passed over are counted, unless a trigger has no words. -/
theorem answers_dispatchCounted (h : engine.Faithful kind limit records)
    (hlist : engine.listing scope = .ok listed) {outcome : Except Fault (List StepResult × Nat)}
    (hends : Ends (ForEvents kind limit events) (dispatchCounted perform key payload scope follow)
      engine outcome engine') :
    ((∃ r ∈ listed, verdictOf engine.settings key payload r = .wordless) →
      outcome = .error (.oversizeNumber .written)) ∧
    ((∀ r ∈ listed, verdictOf engine.settings key payload r ≠ .wordless) →
      ∃ (answers : List (Except Fault (List StepResult))) (found : Matches) (matched : Engine X),
        outcome = (answers.mapM fun answer => answer).map (fun chains =>
          (chains.flatten, (passedOver engine.settings key payload listed).length)) ∧
        (matchAll key payload scope).perform engine = (.ok found, matched) ∧
        List.Forall₂ (DueAnswer kind limit events perform payload scope follow matched engine')
          (due engine.settings key payload listed) answers) := by
  have habiding := abiding_forEvents hperform
  obtain ⟨matching, matched, hmatch, -, -, hwordless, hfound⟩ :=
    outcome_matchAll key payload scope h hlist
  constructor
  · intro hsome
    obtain rfl := hwordless hsome
    rcases Activity.ends_bind_iff.mp hends with ⟨_, rfl, hfault⟩ | ⟨_, _, hok, -⟩
    · cases hmatch.symm.trans (Activity.ends_ofOperation_iff.mp hfault)
      rfl
    · cases hmatch.symm.trans (Activity.ends_ofOperation_iff.mp hok)
  intro hworded
  obtain ⟨intents, rfl, hintends⟩ := hfound hworded
  replace hends := (Activity.ends_ofOperation_bind_iff hmatch).mp hends
  cases follow with
  | true =>
      obtain ⟨_, between, hchains, hlast⟩ := Activity.ends_andThen_iff.mp hends
      obtain ⟨answers, rfl, htold⟩ :=
        exists_told_of_ends (fun intent _ => habiding.runChain intent) hchains
      have htogether : outcome = (answers.mapM fun answer => answer).map (fun chains =>
          (chains.flatten, (passedOver engine.settings key payload listed).length)) ∧
          engine' = between := by
        cases hall : answers.mapM fun answer => answer with
        | error fault =>
            rw [hall] at hlast
            exact Activity.ends_ended_iff.mp hlast
        | ok chains =>
            rw [hall] at hlast
            obtain ⟨rfl, rfl⟩ := Activity.ends_ended_iff.mp hlast
            have hlength : chains.length ≤ (intents.map Intent.routine).length := by
              rw [List.length_map, htold.length_eq, (forall₂_of_mapM hall).length_eq]
            rw [List.flatMap_def, List.map_snd_zip hlength]
            exact ⟨rfl, rfl⟩
      obtain ⟨rfl, rfl⟩ := htogether
      exact ⟨answers, _, matched, rfl, hmatch,
        forall₂_through (fun _ intent _ hintends htold => ⟨intent, hintends, htold⟩) hintends htold⟩
  | false =>
      obtain ⟨firsts, rfl, htold⟩ :=
        exists_told_of_ends (fun intent _ => habiding.runFirst intent) hends
      refine ⟨firsts.map (Except.map fun result => [result]), _, matched, ?_, hmatch, ?_⟩
      · rw [mapM_map_singleton]
        cases firsts.mapM fun first => first with
        | error fault => rfl
        | ok results =>
            refine congrArg (fun all => Except.ok (all, _)) ?_
            rw [← List.flatMap_def, List.flatMap_singleton']
      · refine List.forall₂_map_right_iff.mpr ?_
        exact forall₂_through (fun _ intent first hintends htold =>
          ⟨intent, hintends, first, rfl, htold⟩) hintends htold

end Calls

/-- Errands in a row, and what is passed over for each: for the errand itself, if it passes on an
event, and then for the events that handlers pass on meanwhile. -/
inductive Counted (kind : StoreKind) (limit : Nat) (events : String × Fields × String → Prop)
    (perform : X → Context → Fields → Activity (Engine X) Returned) :
    Engine X → List Errand → List (List Skip) → Prop
  | done (engine : Engine X) : Counted kind limit events perform engine [] []
  | errand {engine : Engine X} {errand : Errand} {rest : List Errand}
      {nested calls : List (List Skip)}
      (others : ∀ gates ∈ nested, OfEvent X kind limit events engine.settings gates)
      (later : Counted kind limit events perform ((runErrand perform errand).run engine).2 rest
        calls) :
      Counted kind limit events perform engine (errand :: rest)
        ((engine.gates? errand).toList ++ nested ++ calls)

variable
  (hperform : ∀ x context config, Abides (ForEvents kind limit events) (perform x context config))

include hperform

/-- By induction on the errands. -/
theorem exists_counted (errands : List Errand) (h : engine.Faithful kind limit records) :
    (∃ records', (runErrands perform errands engine).2.Faithful kind limit records') ∧
      ∃ calls, Counted kind limit events perform engine errands calls ∧
        Passes calls.flatten engine (runErrands perform errands engine).2 := by
  induction errands generalizing engine records with
  | nil => exact ⟨⟨records, h⟩, [], .done engine, refl_of (Passes []) engine⟩
  | cons errand rest ih =>
      obtain ⟨⟨records', h'⟩, nested, hnested, hpasses⟩ :=
        passesFor_runErrand hperform h (ends_run _ _)
      obtain ⟨hafter, calls, hcalls, hrest⟩ := ih h'
      refine ⟨hafter, _, .errand hnested hcalls, ?_⟩
      rw [List.flatten_append]
      exact hpasses.append hrest

end Account

end Engine

end Workflow
