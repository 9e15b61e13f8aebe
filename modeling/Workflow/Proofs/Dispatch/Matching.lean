import Workflow.Proofs.Dispatch.Serving

/-!
# The intents an event brings about

An event is matched against the routines of a scope one after the other. For the routine that is
served there is one intent, in a run of its own, when its trigger fires; every other intent belongs
to another routine and another run.
-/

namespace Workflow

theorem Memory.routine?_of_mem {records : Memory} (hdistinct : (records.routines.map Routine.id).Nodup)
    {r : Routine} (hr : r ∈ records.routines) : records.routine? r.id = some r := by
  cases hfind : records.routine? r.id with
  | none => exact absurd (decide_eq_true rfl) (List.find?_eq_none.mp hfind r hr)
  | some found =>
      obtain ⟨hmem, hid⟩ := mem_of_routine? hfind
      rw [List.inj_on_of_nodup_map hdistinct hmem hr hid]

/-- What a routine whose trigger fires is due for. -/
def Graph.due (graph : Graph) : Engine.Verdict :=
  match graph.firstActionable? with
  | some step => .due step
  | none => .stepless

namespace Engine

variable {X : Type} {kind : StoreKind} {id : String} {graph : Graph} {engine : Engine X}
variable (key : String) (payload : Fields) (scope : String)

/-- What comes of a verdict on a routine when the next run has a number. -/
def Verdict.intents (meant : Verdict) (routine : Routine) (n : Nat) : List Intent :=
  match meant with
  | .due step =>
    [{ routine := routine.id, execution := Identifier.ofNumber n, step,
       context := { routine := routine.id, scope, payload } }]
  | .broken | .wordless | .silent | .inactive | .stepless => []

theorem verdictOn_congr {graph' : Graph} (h : graph'.definition = graph.definition)
    (status : RoutineStatus) : verdictOn graph' status key payload =
      verdictOn graph status key payload := by
  rw [verdictOn, verdictOn, Graph.trigger_congr h, Graph.firstActionable?_congr h]

/-- A routine that is active and whose trigger fires is due, unless the trigger has no words. -/
theorem verdictOn_of_fires {status : RoutineStatus} (hactive : status = .active)
    (hfires : graph.trigger.fires (some key) payload) :
    verdictOn graph status key payload = .wordless ∨
      verdictOn graph status key payload = graph.due := by
  rw [verdictOn, Graph.due]
  by_cases hwordless : graph.trigger.wordless (some key) = true
  · exact .inl (if_pos hwordless)
  · have hpassed : ¬ (!graph.trigger.fires (some key) payload) = true := by simp [hfires]
    have hawake : ¬ status ≠ .active := not_not_intro hactive
    exact .inr ((if_neg hwordless).trans ((if_neg hpassed).trans (if_neg hawake)))

/-- What is found of a routine that is given out; for the routine served, it is what its graph
says. -/
theorem Serves.perform_verdict (h : engine.Serves kind id graph) {routine : Routine}
    (hgiven : ∀ r, engine.store.answer? id = some r → routine.id = r.id → routine = r) :
    ∃ meant graphs, (verdict key payload routine).perform engine =
        (.ok meant, { engine with graphs }) ∧
      Serves kind id graph { engine with graphs } ∧
      (engine.store.answer? id = some routine →
        meant = verdictOn graph routine.status key payload) := by
  obtain ⟨outcome, graphs, hgraphOf, hserves, hgraph⟩ := h.perform_graphOf hgiven
  have hattempt : (graphOf routine).attempt.perform engine =
      (.ok outcome, { engine with graphs }) := by
    rw [Operation.perform_attempt, hgraphOf]
  cases outcome with
  | error fault =>
      refine ⟨.broken, graphs, Operation.perform_bind_ok hattempt, hserves, fun hanswer => ?_⟩
      obtain ⟨_, hok, -⟩ := hgraph hanswer
      cases hok
  | ok found =>
      refine ⟨verdictOn found routine.status key payload, graphs,
        Operation.perform_bind_ok hattempt, hserves, fun hanswer => ?_⟩
      obtain ⟨_, hok, hdefinition⟩ := hgraph hanswer
      cases hok
      exact verdictOn_congr key payload hdefinition routine.status

/-- Matching one routine. It breaks off when the trigger has no words. -/
theorem perform_matchRoutine (h : engine.Serves kind id graph) {routine : Routine}
    (hgiven : ∀ r, engine.store.answer? id = some r → routine.id = r.id → routine = r)
    (found : Matches) :
    ∃ (outcome : Except Fault Matches) (engine' : Engine X),
      (matchRoutine key payload scope found routine).perform engine = (outcome, engine') ∧
      engine'.Serves kind id graph ∧ engine'.store = engine.store ∧ engine.made ≤ engine'.made ∧
      ∀ more, outcome = .ok more → ∃ meant : Verdict, meant ≠ .wordless ∧
        more.intents = found.intents ++ meant.intents payload scope routine engine.made ∧
        (∀ step, meant = .due step → engine.made < engine'.made) ∧
        (engine.store.answer? id = some routine →
          meant = verdictOn graph routine.status key payload) := by
  obtain ⟨meant, graphs, hverdict, hserves, hmeant⟩ := h.perform_verdict key payload hgiven
  have hmatch : (matchRoutine key payload scope found routine).perform engine = _ :=
    Operation.perform_bind_ok hverdict
  refine ⟨_, _, hmatch, ?_⟩
  cases meant with
  | wordless => exact ⟨hserves, rfl, Nat.le_refl _, nofun⟩
  | due step =>
      refine ⟨hserves.of_same rfl rfl rfl rfl (Nat.le_succ _), rfl, Nat.le_succ _, ?_⟩
      rintro _ ⟨rfl⟩
      exact ⟨.due step, nofun, rfl, fun _ _ => Nat.lt_succ_self _, hmeant⟩
  | inactive =>
      refine ⟨hserves.of_same rfl rfl rfl rfl (Nat.le_refl _), rfl, Nat.le_refl _, ?_⟩
      rintro _ ⟨rfl⟩
      exact ⟨.inactive, nofun, (List.append_nil _).symm, nofun, hmeant⟩
  | broken | silent | stepless =>
      refine ⟨hserves, rfl, Nat.le_refl _, ?_⟩
      rintro _ ⟨rfl⟩
      refine ⟨_, ?_, (List.append_nil _).symm, ?_, hmeant⟩ <;> nofun

/-- The intents are of the routines, and their runs have numbers in a range. -/
def Brings (routines : List Routine) (low high : Nat) (intents : List Intent) : Prop :=
  ∀ intent ∈ intents, intent.routine ∈ routines.map Routine.id ∧
    ∃ m, low ≤ m ∧ m < high ∧ intent.execution = Identifier.ofNumber m

/-- Matching routines one after the other. -/
theorem perform_matchEach (h : engine.Serves kind id graph) {routines : List Routine}
    (hgiven : ∀ routine ∈ routines, ∀ r, engine.store.answer? id = some r →
      routine.id = r.id → routine = r) (found : Matches) :
    ∃ (outcome : Except Fault Matches) (engine' : Engine X),
      (routines.foldlM (matchRoutine key payload scope) found).perform engine =
        (outcome, engine') ∧
      engine'.Serves kind id graph ∧ engine'.store = engine.store ∧ engine.made ≤ engine'.made ∧
      ∀ all, outcome = .ok all → ∃ more, all.intents = found.intents ++ more ∧
        Brings routines engine.made engine'.made more := by
  induction routines generalizing engine found with
  | nil =>
      refine ⟨.ok found, engine, rfl, h, rfl, Nat.le_refl _, ?_⟩
      rintro _ ⟨rfl⟩
      exact ⟨[], (List.append_nil _).symm, nofun⟩
  | cons routine rest ih =>
      obtain ⟨hroutine, hrest⟩ := List.forall_mem_cons.mp hgiven
      obtain ⟨outcome, between, hfirst, hbetween, hstore, hmade, hmeant⟩ :=
        perform_matchRoutine key payload scope h hroutine found
      cases outcome with
      | error fault =>
          refine ⟨.error fault, between, ?_, hbetween, hstore, hmade, nofun⟩
          rw [List.foldlM_cons, Operation.perform_bind_error hfirst]
      | ok more =>
          obtain ⟨meant, -, hintents, hdue, -⟩ := hmeant more rfl
          obtain ⟨outcome, engine', hlater, hserves, hstore', hmade', hmore⟩ :=
            ih hbetween (by rwa [hstore]) more
          refine ⟨outcome, engine', ?_, hserves, hstore'.trans hstore, Nat.le_trans hmade hmade',
            fun all hall => ?_⟩
          · rw [List.foldlM_cons, Operation.perform_bind_ok hfirst, hlater]
          obtain ⟨later, hlater, hbrings⟩ := hmore all hall
          refine ⟨meant.intents payload scope routine engine.made ++ later, ?_, ?_⟩
          · rw [hlater, hintents, List.append_assoc]
          intro intent hintent
          rcases List.mem_append.mp hintent with hintent | hintent
          · cases meant with
            | due step =>
                obtain rfl := List.mem_singleton.mp hintent
                exact ⟨List.mem_cons_self, engine.made, Nat.le_refl _,
                  Nat.lt_of_lt_of_le (hdue step rfl) hmade', rfl⟩
            | broken | wordless | silent | inactive | stepless => cases hintent
          · obtain ⟨hof, m, hlow, hhigh, hname⟩ := hbrings intent hintent
            exact ⟨List.mem_cons_of_mem _ hof, m, Nat.le_trans hmade hlow, hhigh, hname⟩

/-- The routines of a scope that the engine gives out. -/
theorem Serves.listed (h : engine.Serves kind id graph) :
    ∃ outcome, (Engine.stored (Store.listRoutines scope none)).perform engine = (outcome, engine) ∧
      ∀ listed, outcome = .ok listed → (listed.map Routine.id).Nodup ∧
        ∀ routine ∈ listed, engine.store.answer? routine.id = some routine := by
  obtain ⟨records, hhold, hreadable, hdistinct, -⟩ := h.stored
  refine ⟨_, perform_stored_same hhold (Store.perform_listRoutines hreadable scope none),
    fun listed hlisted => ?_⟩
  have hperm := StoreKind.perm_of_listing hlisted
  have hsub (p q : Routine → Bool) :
      ((records.routines.filter p).filter q).Sublist records.routines :=
    List.filter_sublist.trans List.filter_sublist
  refine ⟨(hperm.map Routine.id).nodup_iff.mpr (hdistinct.sublist ((hsub _ _).map Routine.id)),
    fun routine hroutine => ?_⟩
  rw [Store.answer?, hhold, Store.perform_routine? hreadable]
  exact Memory.routine?_of_mem hdistinct ((hsub _ _).subset (hperm.subset hroutine))

/-- Matching all routines of a scope. -/
theorem perform_matchScope (h : engine.Serves kind id graph) :
    ∃ (outcome : Except Fault Matches) (engine' : Engine X),
      (matchAll key payload scope).perform engine = (outcome, engine') ∧
      Considerate kind id graph engine engine' ∧ ∀ found, outcome = .ok found →
        ∀ intent ∈ found.intents, ∃ m, engine.made ≤ m ∧ m < engine'.made ∧
          intent.execution = Identifier.ofNumber m := by
  obtain ⟨outcome, hlist, hlisted⟩ := h.listed scope
  cases outcome with
  | error fault =>
      exact ⟨_, _, Operation.perform_bind_error hlist, refl_of _ engine, nofun⟩
  | ok listed =>
      obtain ⟨-, hanswers⟩ := hlisted listed rfl
      obtain ⟨outcome, engine', hperform, hserves, hstore, hmade, hbrings⟩ :=
        perform_matchEach key payload scope h (fun r hr => h.given (hanswers r hr)) {}
      refine ⟨outcome, engine', (Operation.perform_bind_ok hlist).trans hperform,
        fun _ => ⟨hserves, hmade, fun _ _ => by rw [entries, entries, hstore]⟩,
        fun found hfound intent hintent => ?_⟩
      obtain ⟨more, hmore, hbrings⟩ := hbrings found hfound
      rw [hmore, show (({} : Matches).intents) = [] from rfl, List.nil_append] at hintent
      exact (hbrings intent hintent).2

/-- Matching all routines of a scope, of which the active one that is served is one, when no trigger
of them is without words. The run of its intent has a number of its own. -/
theorem intents_of_matchAll (h : engine.Serves kind id graph) {listed : List Routine}
    (hlist : ((stored (Store.listRoutines scope none)).perform engine).1 = .ok listed)
    {routine : Routine} (hroutine : routine ∈ listed) (hid : routine.id = id)
    (hactive : routine.status = .active) (hfires : graph.trigger.fires (some key) payload)
    {found : Matches} {engine' : Engine X}
    (hmatch : (matchAll key payload scope).perform engine = (.ok found, engine')) :
    ∃ (before after : List Intent) (n : Nat),
      found.intents = before ++ graph.due.intents payload scope routine n ++ after ∧
      engine'.Serves kind id graph ∧ engine'.store = engine.store ∧ engine.made ≤ n ∧
      (∀ step, graph.due = .due step → n < engine'.made) ∧
      ∀ intent ∈ before ++ after, intent.routine ≠ id ∧
        ∃ m < engine'.made, intent.execution = Identifier.ofNumber m ∧
          ∀ step, graph.due = .due step → n ≠ m := by
  obtain ⟨outcome, hperform, hlisted⟩ := h.listed scope
  rw [hperform] at hlist
  obtain rfl : outcome = .ok listed := hlist
  obtain ⟨hnodup, hanswers⟩ := hlisted listed rfl
  obtain ⟨pre, post, rfl⟩ := List.append_of_mem hroutine
  rw [List.map_append, List.map_cons, List.nodup_middle, List.nodup_cons, ← List.map_append, hid]
    at hnodup
  rw [matchAll, Operation.perform_bind_ok hperform, List.foldlM_append] at hmatch
  -- the routines before it, the routine itself and the ones after it
  obtain ⟨all₁, s₁, hbefore, hmatch⟩ := Operation.exists_of_perform_bind hmatch
  obtain ⟨all₂, s₂, hours, hafter⟩ := Operation.exists_of_perform_bind hmatch
  obtain ⟨_, _, hsame₁, hs₁, hstore₁, hmade₁, hbrings₁⟩ :=
    perform_matchEach key payload scope h
      (fun r (hr : r ∈ pre) => h.given (hanswers r (List.mem_append_left _ hr))) {}
  cases hbefore.symm.trans hsame₁
  have hanswer₁ : s₁.store.answer? routine.id = some routine := by
    rw [hstore₁]
    exact hanswers routine hroutine
  obtain ⟨_, _, hsame₂, hs₂, hstore₂, hmade₂, hmeant⟩ :=
    perform_matchRoutine key payload scope hs₁ (hs₁.given hanswer₁) all₁
  cases hours.symm.trans hsame₂
  obtain ⟨_, _, hsame₃, hs₃, hstore₃, hmade₃, hbrings₃⟩ :=
    perform_matchEach key payload scope hs₂
      (fun r (hr : r ∈ post) => hs₂.given (by
        rw [hstore₂, hstore₁]
        exact hanswers r (List.mem_append_right _ (List.mem_cons_of_mem _ hr)))) all₂
  cases hafter.symm.trans hsame₃
  obtain ⟨before, hfirst, hbrings₁⟩ := hbrings₁ all₁ rfl
  obtain ⟨meant, hworded, hsecond, hdue, hmeant⟩ := hmeant all₂ rfl
  obtain ⟨after, hthird, hbrings₃⟩ := hbrings₃ found rfl
  obtain rfl : meant = graph.due := by
    have hverdict := hmeant (hid ▸ hanswer₁)
    rcases verdictOn_of_fires key payload hactive hfires with hwordless | hverdict'
    · exact absurd (hverdict.trans hwordless) hworded
    · exact hverdict.trans hverdict'
  refine ⟨before, after, s₁.made, ?_, hs₃, by rw [hstore₃, hstore₂, hstore₁], hmade₁,
    fun step hstep => Nat.lt_of_lt_of_le (hdue step hstep) hmade₃, fun intent hintent => ?_⟩
  · rw [hthird, hsecond, hfirst]
    rfl
  · have hother {routines : List Routine} (hsub : routines ⊆ pre ++ post)
        (hmem : intent.routine ∈ routines.map Routine.id) : intent.routine ≠ id := fun heq =>
      hnodup.1 (heq ▸ List.map_subset _ hsub hmem)
    rcases List.mem_append.mp hintent with hintent | hintent
    · obtain ⟨hof, m, -, hhigh, hname⟩ := hbrings₁ intent hintent
      exact ⟨hother (List.subset_append_left _ _) hof, m,
        Nat.lt_of_lt_of_le hhigh (Nat.le_trans hmade₂ hmade₃), hname, fun _ _ => Nat.ne_of_gt hhigh⟩
    · obtain ⟨hof, m, hlow, hhigh, hname⟩ := hbrings₃ intent hintent
      exact ⟨hother (List.subset_append_right _ _) hof, m, hhigh, hname,
        fun step hstep => Nat.ne_of_lt (Nat.lt_of_lt_of_le (hdue step hstep) hlow)⟩

end Engine

end Workflow
