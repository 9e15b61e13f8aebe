import Workflow.Proofs.Dispatch.Errand

/-!
# Graphs at hand do not show

However many graphs an engine has room for, it runs errands just as an engine does that builds each
graph anew: with the same reports, and into the same state apart from the graphs at hand. Handlers
may run errands themselves while they are at work. The argument follows the graphs: one that is at
hand for a version of a routine is the graph of the definition recorded for this version, and the
store gives out a routine with no other definition under the same version number.
-/

namespace Workflow

namespace Activity

variable {σ α : Type} {R : σ → σ → Prop} {p : Activity σ α}

/-- The state comes up while the activity is carried out on its own. -/
inductive Visits : Activity σ α → σ → σ → Prop
  | here (p : Activity σ α) (s : σ) : Visits p s s
  | act {change : σ → σ} {rest : σ → Activity σ α} {s between : σ}
      (later : Visits (rest s) (change s) between) : Visits (.act change rest) s between
  | pause {rest : Activity σ α} {s between : σ} (later : Visits rest s between) :
      Visits (.pause rest) s between

theorem Blind.visits (h : Blind R p) {s t between : σ} (hst : R s t)
    (hvisits : Visits p s between) : ∃ between', R between between' := by
  induction hvisits generalizing t with
  | here p s => exact ⟨t, hst⟩
  | act _ ih =>
      cases h with
      | act same later => exact ih (later _ t hst) (same _ t hst).1
  | pause _ ih =>
      cases h with
      | pause later => exact ih later hst

end Activity

/-- The store answers with the routine, or has it in a list. -/
def Store.GivesOut (store : Store) (r : Routine) : Prop :=
  ((routine? r.id).perform store).1 = .ok (some r) ∨
    ∃ scope status found, ((listRoutines scope status).perform store).1 = .ok found ∧ r ∈ found

theorem Store.GivesOut.mem {kind : StoreKind} {records : Memory} {r : Routine}
    (h : (kind.hold records).GivesOut r) (hreadable : records.Readable) :
    r ∈ records.routines := by
  rcases h with hfound | ⟨scope, status, found, hlisted, hr⟩
  · rw [perform_routine? hreadable] at hfound
    exact (Memory.mem_of_routine? (Except.ok.inj hfound)).1
  · rw [perform_listRoutines hreadable] at hlisted
    exact (List.mem_filter.mp ((StoreKind.mem_of_listing hlisted).mp hr).1).1

namespace Engine

variable {X : Type} {kind : StoreKind} {limit : Nat} {records : Memory} {engine : Engine X}
variable {perform : X → Context → Fields → Activity (Engine X) Returned}

/-- Whatever routine the store gives out, a graph at hand for it is that of its definition. -/
def Current (engine : Engine X) : Prop :=
  ∀ r, engine.store.GivesOut r → ∀ entry, engine.graphs.find? r.id r.version = some entry →
    entry.graph.definition = r.definition

/-- Errands in a row: the report on each, and the engine afterwards. -/
def runErrands (perform : X → Context → Fields → Activity (Engine X) Returned) :
    List Errand → Engine X → List (Except Fault Report) × Engine X
  | [], engine => ([], engine)
  | errand :: rest, engine =>
    let (report, engine) := (runErrand perform errand).run engine
    let (reports, engine) := runErrands perform rest engine
    (report :: reports, engine)

theorem Faithful.recorded_of_givesOut (h : engine.Faithful kind limit records) {r : Routine}
    (hgiven : engine.store.GivesOut r) : records.Records r.id r.version r.definition := by
  rw [h.keeps.store] at hgiven
  exact h.keeps.chronicled.current r (hgiven.mem h.keeps.chronicled.readable)

theorem Faithful.current (h : engine.Faithful kind limit records) : engine.Current := by
  intro r hgiven entry hfind
  have hkey := List.find?_some hfind
  simp only [GraphCache.isFor, Bool.and_eq_true, decide_eq_true_eq] at hkey
  exact (h.ofDefinition_eq_of_mem (h.recorded_of_givesOut hgiven) (List.mem_of_find?_eq_some hfind)
    hkey.1 hkey.2).1

theorem Rebuilt.at_start (kind : StoreKind) (engine : Engine X) (limit : Nat) :
    let start := { engine with store := kind.hold {}, graphs := { limit } }
    Rebuilt kind limit [] start start.rebuilt := by
  intro start
  have hkeeps : start.Keeps kind {} := ⟨rfl, .empty⟩
  exact ⟨rfl, {}, ⟨hkeeps, nofun, nofun, rfl, Nat.zero_le limit⟩, nofun⟩

/-- After any number of routines is looked at for an event, the graphs at hand are the right ones. -/
theorem Rebuilt.current_matching {engine' : Engine X} (h : Rebuilt kind limit [] engine engine')
    (key : String) (payload : Fields) (scope : String) {seen : List Routine}
    (hseen : ∀ r ∈ seen, engine.store.GivesOut r) :
    ((seen.foldlM (matchRoutine key payload scope) {}).perform engine).2.Current := by
  obtain ⟨hsame, records, hfaithful, -⟩ := h
  have hlisted : Rebuilt kind limit seen engine engine' :=
    ⟨hsame, records, hfaithful, fun r hr => hfaithful.recorded_of_givesOut (hseen r hr)⟩
  have hblind : Operation.Blind (Rebuilt kind limit seen)
      (seen.foldlM (matchRoutine key payload scope) {} : Work X Matches) :=
    .foldlM seen (fun routine hroutine found => blind_matchRoutine key payload scope found hroutine)
      {}
  obtain ⟨-, records', hafter, -⟩ := (hblind engine engine' hlisted).2
  exact hafter.current

theorem Rebuilt.runErrands {engine' : Engine X} (h : Rebuilt kind limit [] engine engine')
    (careful : ∀ x context config, Careful kind (perform x context config))
    (errands : List Errand) :
    (Engine.runErrands perform errands engine).1 = (Engine.runErrands perform errands engine').1 ∧
      Rebuilt kind limit [] (Engine.runErrands perform errands engine).2
        (Engine.runErrands perform errands engine').2 := by
  induction errands generalizing engine engine' with
  | nil => exact ⟨rfl, h⟩
  | cons errand rest ih =>
      have hblind : Activity.Blind (Rebuilt kind limit []) (runErrand perform errand) :=
        blind_runErrand (fun x context config => (careful x context config).blind) errand
      obtain ⟨hreport, hafter⟩ := hblind.run h
      obtain ⟨hreports, hends⟩ := ih hafter
      refine ⟨?_, hends⟩
      simp only [Engine.runErrands, hreport, hreports]

/-- However many graphs there is room for and whatever handlers do, as long as they write routines
by errands only: an engine that starts with an empty store runs errands with the same reports as one
that builds each graph anew, and into the same state apart from the graphs at hand. While an errand
runs, before any routine is looked at for an event and after, a graph that is at hand for a routine
is that of its definition. And there are never more graphs at hand than there is room for. -/
theorem runErrands_rebuilt (kind : StoreKind) (engine : Engine X)
    (perform : X → Context → Fields → Activity (Engine X) Returned) (errands : List Errand)
    (careful : ∀ x context config, Careful kind (perform x context config)) :
    let start : Engine X :=
      { engine with store := kind.hold {}, graphs := { limit := engine.settings.cacheLimit } }
    let after := (runErrands perform errands start).2
    runErrands perform errands start.rebuilt = ((runErrands perform errands start).1, after.rebuilt) ∧
      (∀ (engine : Engine X) (r : Routine), (graphOf r).perform engine.rebuilt =
        (Graph.ofDefinition (rules engine.settings) r.definition, engine.rebuilt)) ∧
      (∀ errand between, Activity.Visits (runErrand perform errand) after between →
        ∀ key payload scope (seen : List Routine), (∀ r ∈ seen, between.store.GivesOut r) →
          ((seen.foldlM (matchRoutine key payload scope) {}).perform between).2.Current) ∧
      (after.graphs.kept.length : Int) ≤ max 1 engine.settings.graphCacheSize := by
  intro start after
  have hstart := Rebuilt.at_start kind engine engine.settings.cacheLimit
  obtain ⟨hreports, hafter⟩ := hstart.runErrands careful errands
  refine ⟨?same, perform_graphOf_rebuilt, ?current, ?bounded⟩
  case same => exact Prod.ext hreports.symm hafter.1
  case current =>
    intro errand between hvisits key payload scope seen hseen
    have hblind : Activity.Blind (Rebuilt kind engine.settings.cacheLimit [])
        (runErrand perform errand) :=
      blind_runErrand (fun x context config => (careful x context config).blind) errand
    obtain ⟨between', hbetween⟩ := hblind.visits hafter hvisits
    exact hbetween.current_matching key payload scope hseen
  case bounded =>
    obtain ⟨-, records, hfaithful, -⟩ := hafter
    have hbounded : after.graphs.kept.length ≤ max 1 engine.settings.graphCacheSize.toNat :=
      hfaithful.bounded
    omega

/-- A handler that gives its own routine another definition, and room for one graph. -/
theorem runErrands_rebuilt_at_edit :
    let d : Definition :=
      { steps := [{ id := "go", type := "trigger", key := some "k" },
          { id := "edit", type := "action", key := some "edit" }]
        edges := [{ source := "go", target := "edit" }] }
    let edited : Definition :=
      { steps := [{ id := "go", type := "trigger", key := some "k" }, { id := "mark", type := "tag" },
          { id := "edit", type := "action", key := some "edit" }]
        edges := [{ source := "go", target := "mark" }, { source := "mark", target := "edit" }] }
    let perform : Unit → Context → Fields → Activity (Engine Unit) Returned := fun _ context _ =>
      (runErrand (fun _ _ _ => .ended (.ok (.value .null)))
        (.updateDefinition context.routine edited "edit")).andThen
          fun _ => .ended (.ok (.value (.text "Edited.")))
    let engine : Engine Unit :=
      { settings := { graphCacheSize := 1 }, store := .memory {}, graphs := { limit := 1 }
        registry := [("edit", { handler := .custom () })], table := { limit := 1 } }
    let template : Template := { id := "t", key := "t", name := "t", definition := d }
    let event : Errand := .dispatchChains "k" [] "s"
    let errands := [.instantiate template "s" [] "" "", event, event]
    (∀ x context config, Careful .memory (perform x context config)) ∧
      (runErrands perform (errands.take 1) engine).2.graphs.kept.map KeptGraph.version = [] ∧
      (runErrands perform errands engine).2.graphs.kept.map KeptGraph.version = [2] ∧
      (runErrands perform errands engine.rebuilt).1 = (runErrands perform errands engine).1 := by
  intro d edited perform engine template event errands
  have careful : ∀ x context config, Careful .memory (perform x context config) :=
    fun _ _ _ => .errand _ (fun _ _ _ => .ended _) fun _ => .ended _
  have hstart : { engine with
      store := StoreKind.memory.hold {}, graphs := { limit := engine.settings.cacheLimit } } =
        engine := rfl
  have hsame := (runErrands_rebuilt .memory engine perform errands careful).1
  rw [hstart] at hsame
  exact ⟨careful, by decide +kernel, by decide +kernel, by rw [hsame]⟩

end Engine

end Workflow
