import Workflow.Proofs.Beside
import Workflow.Proofs.Dispatch.AtHand
import Workflow.Proofs.Graph.Route

/-!
# Routines that are served

An engine serves a routine with a graph when the routine it gives out has the definition of the
graph, it accepts this definition, and its store takes the results of the steps. Work is considerate
when it leaves this as it is and adds nothing to the runs that have begun. All that the library does
for an event is considerate, except that each chain adds the results of its own run. So what one
chain adds to its run is not disturbed by those that go beside it.
-/

namespace Workflow

namespace Graph

variable {graph graph' : Graph}

theorem trigger_congr (h : graph'.definition = graph.definition) :
    graph'.trigger = graph.trigger := by
  obtain ⟨rules, d, accepted⟩ := graph
  obtain ⟨rules', d', accepted'⟩ := graph'
  obtain rfl : d' = d := h
  rfl

theorem firstActionable?_congr (h : graph'.definition = graph.definition) :
    graph'.firstActionable? = graph.firstActionable? := by
  simp only [firstActionable?, trigger_congr h, steps, h]

end Graph

namespace Engine

variable {X : Type} {kind : StoreKind} {id : String} {graph : Graph} {engine engine' : Engine X}

/-- The entries that are kept of a run. -/
def entries (engine : Engine X) (execution : String) : Except Fault (List Entry) :=
  ((Store.entriesOfExecution execution).perform engine.store).1

theorem entries_eq {records : Memory} (h : engine.store = kind.hold records) (execution : String) :
    engine.entries execution = .ok (records.entriesOfExecution execution) := by
  rw [entries, h, Store.perform_entriesOfExecution]

/-- The engine gives out the routine with the definition of the graph and accepts it, and its store
has room for the results of the routine. No two routines have one id, and no entry has an identifier
that is still to be given, nor does its run. -/
structure Serves (kind : StoreKind) (id : String) (graph : Graph) (engine : Engine X) : Prop where
  steady : engine.Steady id (some graph.definition)
  rules : Engine.rules engine.settings = graph.rules
  writable : Dict.get? engine.unwritable id = none
  stored : ∃ records, engine.store = kind.hold records ∧ records.Readable ∧
    (records.routines.map Routine.id).Nodup ∧
    ∀ entry ∈ records.entries, ∀ n, engine.made ≤ n →
      entry.id ≠ Identifier.ofNumber n ∧ entry.execution ≠ Identifier.ofNumber n

/-- The engine goes on serving the routine, and nothing is added to the runs that have begun. -/
def Considerate (kind : StoreKind) (id : String) (graph : Graph) (engine engine' : Engine X) :
    Prop :=
  engine.Serves kind id graph → engine'.Serves kind id graph ∧ engine.made ≤ engine'.made ∧
    ∀ n < engine.made,
      engine'.entries (Identifier.ofNumber n) = engine.entries (Identifier.ofNumber n)

/-- The engine goes on serving the routine, and nothing is added to some runs. -/
def Spares (kind : StoreKind) (id : String) (graph : Graph) (runs : Nat → Prop)
    (engine engine' : Engine X) : Prop :=
  engine.Serves kind id graph → engine'.Serves kind id graph ∧ engine.made ≤ engine'.made ∧
    ∀ n, runs n → engine'.entries (Identifier.ofNumber n) = engine.entries (Identifier.ofNumber n)

/-- The engine goes on serving the routine. -/
def GoesOn (kind : StoreKind) (id : String) (graph : Graph) (engine engine' : Engine X) : Prop :=
  engine.Serves kind id graph → engine'.Serves kind id graph ∧ engine.made ≤ engine'.made

instance : IsPreorder (Engine X) (Considerate kind id graph) where
  refl engine h := ⟨h, Nat.le_refl _, fun _ _ => rfl⟩
  trans _ _ _ first rest h := by
    obtain ⟨h', hmade, hentries⟩ := first h
    obtain ⟨h'', hmade', hentries'⟩ := rest h'
    exact ⟨h'', Nat.le_trans hmade hmade', fun n hn =>
      (hentries' n (Nat.lt_of_lt_of_le hn hmade)).trans (hentries n hn)⟩

instance {runs : Nat → Prop} : IsPreorder (Engine X) (Spares kind id graph runs) where
  refl engine h := ⟨h, Nat.le_refl _, fun _ _ => rfl⟩
  trans _ _ _ first rest h := by
    obtain ⟨h', hmade, hentries⟩ := first h
    obtain ⟨h'', hmade', hentries'⟩ := rest h'
    exact ⟨h'', Nat.le_trans hmade hmade', fun n hn => (hentries' n hn).trans (hentries n hn)⟩

instance : IsPreorder (Engine X) (GoesOn kind id graph) where
  refl _ h := ⟨h, Nat.le_refl _⟩
  trans _ _ _ first rest h :=
    have ⟨h', hmade⟩ := first h
    have ⟨h'', hmade'⟩ := rest h'
    ⟨h'', Nat.le_trans hmade hmade'⟩

theorem Spares.goesOn {runs : Nat → Prop} (engine engine' : Engine X)
    (h : Spares kind id graph runs engine engine') : GoesOn kind id graph engine engine' :=
  fun hserves => ⟨(h hserves).1, (h hserves).2.1⟩

theorem Considerate.spares {runs : Nat → Prop} (hruns : ∀ n, runs n → n < engine.made)
    (h : Considerate kind id graph engine engine') : Spares kind id graph runs engine engine' := by
  intro hserves
  obtain ⟨hserves', hmade, hentries⟩ := h hserves
  exact ⟨hserves', hmade, fun n hn => hentries n (hruns n hn)⟩

theorem Serves.of_same (h : engine.Serves kind id graph) (hstore : engine'.store = engine.store)
    (hgraphs : engine'.graphs = engine.graphs) (hsettings : engine'.settings = engine.settings)
    (hunwritable : engine'.unwritable = engine.unwritable) (hmade : engine.made ≤ engine'.made) :
    engine'.Serves kind id graph := by
  obtain ⟨records, hhold, hreadable, hdistinct, hfresh⟩ := h.stored
  exact ⟨h.steady.of_eq (by rw [hstore]) hgraphs, by rw [hsettings, h.rules],
    by rw [hunwritable, h.writable], records, hstore.trans hhold, hreadable, hdistinct,
    fun entry hentry n hn => hfresh entry hentry n (Nat.le_trans hmade hn)⟩

theorem considerate_of_same (hstore : engine'.store = engine.store)
    (hgraphs : engine'.graphs = engine.graphs) (hsettings : engine'.settings = engine.settings)
    (hunwritable : engine'.unwritable = engine.unwritable) (hmade : engine.made ≤ engine'.made) :
    Considerate kind id graph engine engine' := fun h =>
  ⟨h.of_same hstore hgraphs hsettings hunwritable hmade, hmade,
    fun _ _ => by rw [entries, entries, hstore]⟩

open Operation (Respects)
open Activity (Guarantees)

section Library

theorem considerate_count : Respects (Considerate kind id graph) (count : Work X Nat) :=
  fun engine => considerate_of_same rfl rfl rfl rfl (Nat.le_succ engine.made)

theorem considerate_notify (notice : Notice) :
    Respects (Considerate kind id graph) (notify notice : Work X Unit) :=
  fun _ => considerate_of_same rfl rfl rfl rfl (Nat.le_refl _)

theorem considerate_send (mail : Mail) :
    Respects (Considerate kind id graph) (send mail : Work X Receipt) := by
  refine .bind (fun _ => ?_) fun _ => .bind considerate_count fun _ => .pure _
  exact considerate_of_same rfl rfl rfl rfl (Nat.le_refl _)

/-- Asking the store. -/
theorem considerate_stored {α : Type} {work : Store.Work α}
    (h : ∀ store, (work.perform store).2 = store) :
    Respects (Considerate kind id graph) (stored work : Work X α) :=
  fun engine => considerate_of_same (h engine.store) rfl rfl rfl (Nat.le_refl _)

/-- Finding the graph of a routine that is given out, which is the graph for the routine served. -/
theorem Serves.perform_graphOf (h : engine.Serves kind id graph) {routine : Routine}
    (hgiven : ∀ r, engine.store.answer? id = some r → routine.id = r.id → routine = r) :
    ∃ outcome graphs, (graphOf routine).perform engine = (outcome, { engine with graphs }) ∧
      Serves kind id graph { engine with graphs } ∧
      (engine.store.answer? id = some routine →
        ∃ found, outcome = .ok found ∧ found.definition = graph.definition) := by
  have hserves {graphs : GraphCache} (hkept : ∀ r, engine.store.answer? id = some r →
      ∀ entry ∈ graphs.kept, entry.routine = r.id → entry.version = r.version →
        entry.graph.definition = r.definition) : Serves kind id graph { engine with graphs } :=
    ⟨⟨h.steady.stored, hkept⟩, h.rules, h.writable, h.stored⟩
  have hdefinition : engine.store.answer? id = some routine →
      routine.definition = graph.definition := fun hanswer => by
    have hstored := h.steady.stored
    rw [hanswer] at hstored
    exact Option.some.inj hstored
  cases hfind : engine.graphs.find? routine.id routine.version with
  | some entry =>
      have hmem : entry ∈ engine.graphs.kept := List.mem_of_find?_eq_some hfind
      have hkey := List.find?_some hfind
      simp only [GraphCache.isFor, Bool.and_eq_true, decide_eq_true_eq] at hkey
      refine ⟨.ok entry.graph, engine.graphs.touch routine.id routine.version, ?_, ?_, ?_⟩
      · rw [graphOf, Operation.perform_bind_ok (Operation.perform_get engine), hfind]
        rfl
      · exact hserves fun r hr other hother =>
          h.steady.kept r hr other (GraphCache.mem_of_mem_touch hother)
      · exact fun hanswer => ⟨entry.graph, rfl,
          (h.steady.kept routine hanswer entry hmem hkey.1 hkey.2).trans (hdefinition hanswer)⟩
  | none =>
      obtain ⟨graphs, hperform, hgraphs⟩ := perform_graphOf_of_missing hfind
      refine ⟨_, graphs, hperform, hserves fun r hr entry hentry hid hversion => ?_, ?_⟩
      · rcases hgraphs with rfl | ⟨found, hfound, rfl⟩
        · exact h.steady.kept r hr entry hentry hid hversion
        · rcases GraphCache.mem_of_mem_keep hentry with hentry | rfl
          · exact h.steady.kept r hr entry hentry hid hversion
          · rw [← hgiven r hr hid]
            exact (Graph.of_ofDefinition hfound).2
      · intro hanswer
        refine ⟨graph, ?_, rfl⟩
        rw [hdefinition hanswer, h.rules, Graph.ofDefinition_definition]

/-- Asking the store for a routine. -/
theorem Serves.exists_records (h : engine.Serves kind id graph) :
    ∃ records : Memory, engine.store = kind.hold records ∧
      (∀ other, engine.store.answer? other = records.routine? other) ∧
      ∀ other, (Engine.stored (Store.routine? other)).perform engine =
        (.ok (records.routine? other), engine) := by
  obtain ⟨records, hhold, hreadable, -, -⟩ := h.stored
  refine ⟨records, hhold, fun other => ?_, fun other => ?_⟩
  · rw [Store.answer?, hhold, Store.perform_routine? hreadable]
  · exact perform_stored_same hhold (Store.perform_routine? hreadable other)

/-- A routine that is given out under its id is the only one given out under it. -/
theorem Serves.given (h : engine.Serves kind id graph) {routine : Routine}
    (hanswer : engine.store.answer? routine.id = some routine) (r : Routine)
    (hr : engine.store.answer? id = some r) (hid : routine.id = r.id) : routine = r := by
  obtain ⟨records, -, hanswers, -⟩ := h.exists_records
  have hmem := hr
  rw [hanswers] at hmem
  rw [hid, (Memory.mem_of_routine? hmem).2, hr] at hanswer
  exact (Option.some.inj hanswer).symm

/-- What comes after a step of the routine that is served is the step after it in the graph. -/
theorem perform_nextIntent (h : engine.Serves kind id graph) (intent : Intent)
    (result : StepResult) :
    ∃ outcome graphs, (nextIntent intent result).perform engine =
        (outcome, { engine with graphs }) ∧
      Serves kind id graph { engine with graphs } ∧
      (intent.routine = id → intent.step ∈ graph.steps → outcome =
        if result.continues then .ok ((graph.stepAfter? intent.step.id).map (intent.onward result))
        else .ok none) := by
  cases hcontinues : result.continues with
  | false =>
      refine ⟨.ok none, engine.graphs, ?_, h, fun _ _ => rfl⟩
      rw [nextIntent, hcontinues, if_pos (by decide)]
      rfl
  | true =>
  obtain ⟨records, hhold, hanswers, hasks⟩ := h.exists_records
  have hnext (engine' : Engine X) : (nextIntent intent result).perform engine' = _ :=
    congrArg (Operation.perform · engine') (if_neg (by rw [hcontinues]; decide))
  cases hfound : records.routine? intent.routine with
  | none =>
      refine ⟨.ok none, engine.graphs, ?_, h, fun hid _ => ?_⟩
      · rw [hnext, Operation.perform_bind_ok (hasks intent.routine), hfound]
        rfl
      · have hstored := h.steady.stored
        rw [← hid, hanswers, hfound] at hstored
        cases hstored
  | some routine =>
  have hanswer : engine.store.answer? routine.id = some routine := by
    rw [hanswers, (Memory.mem_of_routine? hfound).2, hfound]
  obtain ⟨found, graphs, hgraphOf, hserves, hgraph⟩ := h.perform_graphOf (h.given hanswer)
  cases found with
  | error fault =>
      refine ⟨.error fault, graphs, ?_, hserves, fun hid _ => ?_⟩
      · rw [hnext, Operation.perform_bind_ok (hasks intent.routine), hfound]
        exact Operation.perform_bind_error hgraphOf
      · obtain ⟨_, hok, -⟩ := hgraph (by rw [← hid, hanswers, hfound])
        cases hok
  | ok found =>
  refine ⟨(found.ask intent.step.id (found.stepAfter? intent.step.id)).map
    (Option.map (intent.onward result)), graphs, ?_, hserves, ?_⟩
  · rw [hnext, Operation.perform_bind_ok (hasks intent.routine), hfound]
    refine (Operation.perform_bind_ok hgraphOf).trans ?_
    cases found.ask intent.step.id (found.stepAfter? intent.step.id) with
    | error fault => exact Operation.perform_bind_error rfl
    | ok following => exact Operation.perform_bind_ok rfl
  · intro hid hstep
    obtain ⟨_, hok, hdefinition⟩ := hgraph (by rw [← hid, hanswers, hfound])
    cases hok
    have hnode : ∃ step, found.node intent.step.id = .ok step := by
      have hid : intent.step.id ∈ found.definition.ids :=
        hdefinition ▸ List.mem_map_of_mem hstep
      obtain ⟨step, hnode⟩ := Graph.exists_node? hid
      exact ⟨step, by rw [Graph.node, hnode]⟩
    obtain ⟨step, hnode⟩ := hnode
    rw [Graph.ask, hnode, Graph.stepAfter?_congr hdefinition, if_pos rfl]
    rfl

theorem considerate_nextIntent (intent : Intent) (result : StepResult) :
    Respects (Considerate kind id graph) (nextIntent intent result : Work X (Option Intent)) := by
  intro engine h
  obtain ⟨outcome, graphs, hperform, hserves, -⟩ := perform_nextIntent h intent result
  rw [hperform]
  exact ⟨hserves, Nat.le_refl _, fun _ _ => rfl⟩

theorem considerate_stepCount (other : String) :
    Respects (Considerate kind id graph) (stepCount other : Work X Nat) := by
  refine .bind (.attempt (considerate_stored (Store.perform_ask_snd _ _))) fun outcome => ?_
  split <;> exact .pure _

/-- A result is handed to the store unless this takes none of the routine. -/
theorem perform_audit (engine : Engine X) (routine execution : String) (step : Step)
    (result : StepResult) :
    let entry := Entry.ofResult (Identifier.ofNumber engine.made) routine execution step result
    let told : Engine X :=
      { engine with made := engine.made + 1, trail := engine.trail.append entry }
    (audit routine execution step result).perform engine =
      match Dict.get? engine.unwritable routine with
      | some reason => (.error (.failedWrite reason), told)
      | none => (stored (Store.appendEntry entry)).perform told := by
  intro entry told
  have hfresh : (fresh : Work X String).perform engine =
      (.ok (Identifier.ofNumber engine.made), { engine with made := engine.made + 1 }) := rfl
  rw [audit, Operation.perform_bind_ok hfresh,
    Operation.perform_bind_ok (Operation.perform_modify _ _),
    Operation.perform_bind_ok (Operation.perform_get _)]
  cases Dict.get? engine.unwritable routine <;> rfl

/-- The engine once an entry was appended to its records. -/
def appended (kind : StoreKind) (records : Memory) (entry : Entry) (engine : Engine X) : Engine X :=
  { engine with
    made := engine.made + 1
    trail := engine.trail.append entry
    store := kind.hold (records.appendEntry entry) }

theorem entries_appended (records : Memory) (entry : Entry) (execution : String) :
    (appended kind records entry engine).entries execution =
      .ok (records.entriesOfExecution execution ++
        [entry].filter fun e => e.execution = execution) := by
  have hhold : (appended kind records entry engine).store = kind.hold (records.appendEntry entry) :=
    rfl
  rw [entries_eq hhold]
  exact congrArg Except.ok (List.filter_append _ _)

/-- An entry whose identifier is the next one, of a run that has begun, leaves the routine served. -/
theorem Serves.appended (h : engine.Serves kind id graph) {records : Memory}
    (hhold : engine.store = kind.hold records) (hreadable : records.Readable)
    (hdistinct : (records.routines.map Routine.id).Nodup)
    (hfresh : ∀ entry ∈ records.entries, ∀ n, engine.made ≤ n →
      entry.id ≠ Identifier.ofNumber n ∧ entry.execution ≠ Identifier.ofNumber n)
    {entry : Entry} (hid : entry.id = Identifier.ofNumber engine.made) {m : Nat}
    (hrun : entry.execution = Identifier.ofNumber m) (hm : m < engine.made) :
    (engine.appended kind records entry).Serves kind id graph := by
  have hnew : ∀ e ∈ records.entries, e.id ≠ entry.id := fun e he => by
    rw [hid]
    exact (hfresh e he engine.made (Nat.le_refl _)).1
  refine ⟨h.steady.of_eq ?_ rfl, h.rules, h.writable, records.appendEntry entry, rfl, hreadable,
    hdistinct, fun e he n hn => ?_⟩
  · have happended := Store.answer?_appendEntry entry (kind.hold records) id
    rw [Store.perform_appendEntry hnew] at happended
    exact happended.trans (congrArg (Store.answer? · id) hhold.symm)
  · have hn : engine.made + 1 ≤ n := hn
    rcases List.mem_append.mp he with he | he
    · exact hfresh e he n (Nat.le_of_succ_le hn)
    · obtain rfl := List.mem_singleton.mp he
      refine ⟨fun hname => ?_, fun hname => ?_⟩
      · have := Identifier.ofNumber_injective (hid.symm.trans hname)
        omega
      · have := Identifier.ofNumber_injective (hrun.symm.trans hname)
        omega

/-- The result of a step is added to its run and to no other. Those of the routine that is served are
always taken. -/
theorem perform_auditResult (h : engine.Serves kind id graph) {intent : Intent} {m : Nat}
    (hrun : intent.execution = Identifier.ofNumber m) (hm : m < engine.made)
    (result : StepResult) :
    ∃ engine', (auditResult intent result).perform engine = (.ok (), engine') ∧
      engine'.Serves kind id graph ∧ engine.made ≤ engine'.made ∧
      (∀ execution, execution ≠ intent.execution →
        engine'.entries execution = engine.entries execution) ∧
      (intent.routine = id → ∃ name, engine'.entries intent.execution =
        (engine.entries intent.execution).map
          (· ++ [Entry.ofResult name id intent.execution intent.step result])) := by
  let entry := Entry.ofResult (Identifier.ofNumber engine.made) intent.routine intent.execution
    intent.step result
  have haudit := perform_audit engine intent.routine intent.execution intent.step result
  cases hwritable : Dict.get? engine.unwritable intent.routine with
  | some reason =>
      rw [hwritable] at haudit
      refine ⟨{ engine with made := engine.made + 1, trail := engine.trail.append entry }, ?_,
        h.of_same rfl rfl rfl rfl (Nat.le_succ _), Nat.le_succ _, fun _ _ => rfl, fun hid => ?_⟩
      · rw [auditResult, Operation.perform_bind, Operation.perform_attempt, haudit]
        rfl
      · rw [hid, h.writable] at hwritable
        cases hwritable
  | none =>
      obtain ⟨records, hhold, hreadable, hdistinct, hfresh⟩ := h.stored
      have hnew : ∀ e ∈ records.entries, e.id ≠ entry.id :=
        fun e he => (hfresh e he engine.made (Nat.le_refl _)).1
      rw [hwritable] at haudit
      have haudit := haudit.trans (perform_stored hhold (Store.perform_appendEntry hnew))
      refine ⟨engine.appended kind records entry, ?_,
        h.appended hhold hreadable hdistinct hfresh rfl hrun hm, Nat.le_succ _, ?_, ?_⟩
      · rw [auditResult, Operation.perform_bind, Operation.perform_attempt, haudit]
        rfl
      · intro execution hne
        have hother : ¬ entry.execution = execution := fun heq => hne heq.symm
        rw [entries_appended, entries_eq hhold]
        simp [hother]
      · intro hid
        refine ⟨Identifier.ofNumber engine.made, ?_⟩
        rw [entries_appended, entries_eq hhold, ← hid]
        simp [entry, Entry.ofResult, Except.map]

end Library

/-- The activity goes on serving the routine, whatever others do who go on serving it, and adds
nothing to runs that have begun before it. -/
def Tactful {α : Type} (kind : StoreKind) (id : String) (graph : Graph)
    (p : Activity (Engine X) α) : Prop :=
  ∀ engine : Engine X, engine.Serves kind id graph →
    Guarantees (GoesOn kind id graph) (Spares kind id graph (· < engine.made)) engine p

theorem guarantees_considerate {α : Type} {work : Work X α} {runs : Nat → Prop}
    (h : Respects (Considerate kind id graph) work) (hruns : ∀ n, runs n → n < engine.made) :
    Guarantees (GoesOn kind id graph) (Spares kind id graph runs) engine (.ofOperation work) :=
  .ofOperation ((h engine).spares hruns)

theorem spares_auditResult {runs : Nat → Prop} {intent : Intent} {m : Nat}
    (hrun : intent.execution = Identifier.ofNumber m) (h : engine.Serves kind id graph)
    (hm : m < engine.made)
    (hruns : ∀ n, runs n → n < engine.made ∧ n ≠ m) (result : StepResult) (t : Engine X)
    (ht : GoesOn kind id graph engine t) :
    Spares kind id graph runs t ((auditResult intent result).perform t).2 := by
  intro hserves
  obtain ⟨t', haudit, hserves', hmade, hothers, -⟩ :=
    perform_auditResult hserves hrun (Nat.lt_of_lt_of_le hm (ht h).2) result
  rw [haudit]
  refine ⟨hserves', hmade, fun n hn => hothers _ fun heq => (hruns n hn).2 ?_⟩
  exact Identifier.ofNumber_injective (heq.trans hrun)

section Others

variable {perform : X → Context → Fields → Activity (Engine X) Returned} {runs : Nat → Prop}
variable (hperform : ∀ x context config, Tactful kind id graph (perform x context config))

include hperform

theorem spares_execute (intent : Intent) (h : engine.Serves kind id graph)
    (hruns : ∀ n, runs n → n < engine.made) :
    Guarantees (GoesOn kind id graph) (Spares kind id graph runs) engine
      ((surroundings perform).execute intent) := by
  have hprepare : Respects (Considerate kind id graph)
      ((surroundings perform).prepare intent) :=
    .bind .get fun _ => .bind (.ofExcept _) fun _ => .bind (.ofExcept _) fun _ => .pure _
  have hlater {t : Engine X} (ht : GoesOn kind id graph engine t) :
      t.Serves kind id graph ∧ ∀ n, runs n → n < t.made :=
    ⟨(ht h).1, fun n hn => Nat.lt_of_lt_of_le (hruns n hn) (ht h).2⟩
  have hrun (handler : Handler X) (context : Context) (config : Fields) (t : Engine X)
      (ht : GoesOn kind id graph engine t) :
      Guarantees (GoesOn kind id graph) (Spares kind id graph runs) t
        ((surroundings perform).run handler context config) := by
    obtain ⟨hserves, hruns⟩ := hlater ht
    cases handler with
    | builtin b =>
        refine .bind Spares.goesOn (guarantees_considerate (.bind (.ofExcept _) fun plan => ?_) hruns)
          fun _ u _ => .ended _ u
        cases plan.mail with
        | none => exact .pure _
        | some mail => exact .bind (considerate_send mail) fun _ => .pure _
    | custom x =>
        refine .bind Spares.goesOn ?_ fun _ u _ => .ended _ u
        exact (hperform x context config t hserves).imp fun _ _ h hs =>
          ⟨(h hs).1, (h hs).2.1, fun n hn => (h hs).2.2 n (hruns n hn)⟩
  have hanswer : Guarantees (GoesOn kind id graph) (Spares kind id graph runs) engine
      ((surroundings perform).answer intent) :=
    .bind Spares.goesOn (guarantees_considerate hprepare hruns) fun _ t ht => hrun _ _ _ t ht
  refine .bind Spares.goesOn (hanswer.attempt Spares.goesOn) fun _ t ht => ?_
  refine .bind Spares.goesOn (.ended _ t) fun _ u hu => ?_
  have hmuch := (hlater (trans_of (GoesOn kind id graph) ht hu)).2
  exact .bind Spares.goesOn (guarantees_considerate (considerate_notify _) hmuch)
    fun _ u _ => .ended _ u

variable {intent : Intent} {m : Nat} (hrun : intent.execution = Identifier.ofNumber m)

include hrun

theorem spares_runFirst (h : engine.Serves kind id graph) (hm : m < engine.made)
    (hruns : ∀ n, runs n → n < engine.made ∧ n ≠ m) :
    Guarantees (GoesOn kind id graph) (Spares kind id graph runs) engine
      (runFirst perform intent) := by
  refine .bind Spares.goesOn
    (spares_execute hperform intent h fun n hn => (hruns n hn).1) fun result t ht => ?_
  exact .bind Spares.goesOn (.ofOperation (spares_auditResult hrun h hm hruns result t ht))
    fun _ u _ => .ended _ u

/-- A step of another run spares a run. -/
theorem spares_runStep (h : engine.Serves kind id graph) (hm : m < engine.made)
    (hruns : ∀ n, runs n → n < engine.made ∧ n ≠ m) :
    Guarantees (GoesOn kind id graph) (Spares kind id graph runs) engine
      (runStep perform intent) := by
  unfold runStep
  split
  · have haudit := spares_auditResult hrun h hm hruns (.waiting intent.step) engine
      (refl_of _ engine)
    exact .bind Spares.goesOn (.ofOperation haudit) fun _ t _ => .ended _ t
  · exact spares_runFirst hperform hrun h hm hruns

theorem spares_runSteps (h : engine.Serves kind id graph) (hm : m < engine.made)
    (hruns : ∀ n, runs n → n < engine.made ∧ n ≠ m) (fuel : Nat) :
    Guarantees (GoesOn kind id graph) (Spares kind id graph runs) engine
      (runSteps perform fuel intent) := by
  induction fuel generalizing intent engine with
  | zero => exact .ended _ engine
  | succ fuel ih =>
      refine .bind Spares.goesOn (spares_runStep hperform hrun h hm hruns) fun result t ht => ?_
      obtain ⟨hserves, hmade⟩ := ht h
      have hruns' (n : Nat) (hn : runs n) : n < t.made ∧ n ≠ m :=
        ⟨Nat.lt_of_lt_of_le (hruns n hn).1 hmade, (hruns n hn).2⟩
      have hnext : Considerate kind id graph t _ := considerate_nextIntent intent result t
      refine .ofOperation_bind (hnext.spares fun n hn => (hruns' n hn).1) fun following u hu => ?_
      cases following with
      | none => exact .ended _ u
      | some following =>
          have hsame : following.execution = intent.execution :=
            (kin_of_nextIntent (congrArg Prod.fst hu)).2
          rw [hu] at hnext
          obtain ⟨hserves', hmade', -⟩ := hnext hserves
          refine .bind Spares.goesOn (ih (hsame.trans hrun) hserves' ?_ fun n hn => ?_) fun _ v _ =>
            .ended _ v
          · exact Nat.lt_of_lt_of_le hm (Nat.le_trans hmade hmade')
          · exact ⟨Nat.lt_of_lt_of_le (hruns' n hn).1 hmade', (hruns' n hn).2⟩

/-- A chain of another run spares a run. -/
theorem spares_runChain (h : engine.Serves kind id graph) (hm : m < engine.made)
    (hruns : ∀ n, runs n → n < engine.made ∧ n ≠ m) :
    Guarantees (GoesOn kind id graph) (Spares kind id graph runs) engine
      (runChain perform intent) := by
  refine .bind Spares.goesOn (guarantees_considerate (considerate_stepCount intent.routine)
    fun n hn => (hruns n hn).1) fun count t ht => ?_
  obtain ⟨hserves, hmade⟩ := ht h
  exact spares_runSteps hperform hrun hserves (Nat.lt_of_lt_of_le hm hmade)
    (fun n hn => ⟨Nat.lt_of_lt_of_le (hruns n hn).1 hmade, (hruns n hn).2⟩) _

end Others

end Engine

end Workflow
