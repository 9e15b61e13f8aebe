import Mathlib.Data.List.DropRight
import Workflow.Proofs.Dispatch.AtHand
import Workflow.Proofs.Dispatch.Called
import Workflow.Proofs.Dispatch.First
import Workflow.Proofs.Dispatch.Transparent

/-!
# Routines that are passed over

An engine counts the routines it passes over, tells observers of each, and remembers the last ones.
`Passes` says of two engines that given routines were passed over from the one to the other, and in
which order. Only looking for the routines that an event calls for passes over any: those that are
not active though their trigger fires, in the order of the list, and as many as the event is
answered with. A trigger without words ends the looking, and the routines after it are not reached.
-/

namespace Workflow

theorem List.rtake_eq_self {α : Type} {items : List α} {n : Nat} (h : items.length ≤ n) :
    items.rtake n = items := by
  rw [List.rtake, Nat.sub_eq_zero_of_le h, List.drop_zero]

theorem List.rtake_append_of_le {α : Type} {first last : List α} {n : Nat} (h : n ≤ last.length) :
    (first ++ last).rtake n = last.rtake n := by
  have hlength : (first ++ last).length - n = first.length + (last.length - n) := by
    rw [List.length_append]
    omega
  rw [List.rtake, List.rtake, hlength, ← List.drop_drop, List.drop_left]

/-- What is forgotten before is not needed after more was added. -/
theorem List.rtake_rtake_append {α : Type} (first last : List α) (n : Nat) :
    (first.rtake n ++ last).rtake n = (first ++ last).rtake n := by
  by_cases hle : first.length ≤ n
  · rw [rtake_eq_self hle]
  · have hlast : n ≤ (first.rtake n ++ last).length := by
      rw [List.length_append, List.rtake, List.length_drop]
      omega
    have hsplit : first ++ last = first.take (first.length - n) ++ (first.rtake n ++ last) := by
      rw [← List.append_assoc, List.rtake, List.take_append_drop]
    rw [hsplit, rtake_append_of_le hlast]

/-- What observers are told of a routine that is passed over. -/
def Skip.notice (skip : Skip) : Notice := .dispatchSkipped skip.routine skip.trigger skip.status

namespace Engine

open Operation (Respects)

variable {X α : Type} {engine between engine' : Engine X}

/-- The routines were passed over, in this order: each was counted, observers were told of each and
of no others, and the engine remembers the last ones of these and of those it remembered before. -/
structure Passes (gates : List Skip) (engine engine' : Engine X) : Prop where
  settings : engine'.settings = engine.settings
  counted : engine'.skipped = engine.skipped + gates.length
  told : engine'.notices.filter Notice.isSkip =
    engine.notices.filter Notice.isSkip ++ gates.map Skip.notice
  remembered : ∀ earlier, engine.skips = earlier.rtake recentSkips →
    engine'.skips = (earlier ++ gates).rtake recentSkips

namespace Passes

variable {gates gates' : List Skip}

theorem of_same (hsettings : engine'.settings = engine.settings)
    (hskipped : engine'.skipped = engine.skipped)
    (hnotices : engine'.notices.filter Notice.isSkip = engine.notices.filter Notice.isSkip)
    (hskips : engine'.skips = engine.skips) : Passes [] engine engine' where
  settings := hsettings
  counted := hskipped
  told := by rw [hnotices, List.map_nil, List.append_nil]
  remembered earlier h := by rw [hskips, h, List.append_nil]

theorem append (first : Passes gates engine between) (rest : Passes gates' between engine') :
    Passes (gates ++ gates') engine engine' where
  settings := rest.settings.trans first.settings
  counted := by
    rw [rest.counted, first.counted, List.length_append]
    omega
  told := by rw [rest.told, first.told, List.map_append, List.append_assoc]
  remembered earlier h := by
    rw [rest.remembered _ (first.remembered earlier h), List.append_assoc]

end Passes

instance : IsPreorder (Engine X) (Passes []) where
  refl _ := .of_same rfl rfl rfl rfl
  trans _ _ _ first rest := first.append rest

theorem Plain.passes (h : Plain engine engine') : Passes [] engine engine' :=
  .of_same h.settings h.skipped h.notices h.skips

section Matching

variable {kind : StoreKind} {limit : Nat} {settings : Settings} {listed : List Routine}
variable (key : String) (payload : Fields) (scope : String)

/-- The engine has the settings, and the graphs it has at hand are those of the definitions that the
listed routines have. -/
def Reads (kind : StoreKind) (limit : Nat) (settings : Settings) (listed : List Routine)
    (engine : Engine X) : Prop :=
  engine.settings = settings ∧ Rebuilt kind limit listed engine engine.rebuilt

namespace Reads

/-- The engine finds out what the definition of a routine says. -/
theorem perform_verdict (h : engine.Reads kind limit settings listed) {routine : Routine}
    (hroutine : routine ∈ listed) :
    ∃ engine', (verdict key payload routine).perform engine =
      (.ok (verdictOf settings key payload routine), engine') := by
  obtain ⟨rfl, -, records, hfaithful, hrecorded⟩ := h
  obtain ⟨graphs, hgraphOf, -⟩ := hfaithful.perform_graphOf (hrecorded routine hroutine)
  refine ⟨{ engine with graphs }, ?_⟩
  have hattempt : (graphOf routine).attempt.perform engine =
      (.ok (Graph.ofDefinition (rules engine.settings) routine.definition),
        { engine with graphs }) := by
    rw [Operation.perform_attempt, hgraphOf]
  rw [verdict, Operation.perform_bind_ok hattempt, verdictOf]
  cases Graph.ofDefinition (rules engine.settings) routine.definition <;> rfl

theorem after_matchRoutine (h : engine.Reads kind limit settings listed) {routine : Routine}
    (hroutine : routine ∈ listed) (found : Matches) :
    ((matchRoutine key payload scope found routine).perform engine).2.Reads kind limit settings
      listed := by
  obtain ⟨rfl, hrebuilt⟩ := h
  obtain ⟨_, engine', hperform, hquiet, -⟩ :=
    matchRoutine_outcome key payload scope found routine engine
  obtain ⟨-, hsame, hafter⟩ := blind_matchRoutine key payload scope found hroutine _ _ hrebuilt
  exact ⟨by rw [hperform, hquiet.settings], rfl, hafter⟩

end Reads

/-- What is remembered of a routine that an event passes over. -/
def Verdict.gates (meant : Verdict) (key : String) (routine : Routine) : List Skip :=
  if meant = .inactive then [⟨routine.id, routine.name, routine.status, key⟩] else []

/-- The routines that an event passes over: those that are not active though their trigger fires. -/
def passedOver (settings : Settings) (key : String) (payload : Fields) (routines : List Routine) :
    List Skip :=
  routines.flatMap fun r => (verdictOf settings key payload r).gates key r

theorem passedOver_cons (routine : Routine) (rest : List Routine) :
    passedOver settings key payload (routine :: rest) =
      (verdictOf settings key payload routine).gates key routine ++
        passedOver settings key payload rest := List.flatMap_cons

theorem passes_skip (routine : Routine) (engine : Engine X) :
    Passes (Verdict.inactive.gates key routine) engine ((skip routine key).perform engine).2 where
  settings := rfl
  counted := rfl
  told := by
    show (engine.notices ++ [Notice.dispatchSkipped routine.id key routine.status]).filter
      Notice.isSkip = _
    simp [Verdict.gates, Skip.notice, Notice.isSkip]
  remembered earlier h := by
    show (engine.skips ++ Verdict.inactive.gates key routine).rtake recentSkips = _
    rw [h, List.rtake_rtake_append]

/-- The intent is to carry out the step for the routine, in a run of some name. -/
def Intends (payload : Fields) (scope : String) (due : Routine × Step) (intent : Intent) : Prop :=
  ∃ execution, intent = ofRoutine due.1 due.2 { routine := due.1.id, scope, payload } execution

/-- Matching a routine passes it over if the event means so, and calls it if it is due. -/
theorem passes_matchRoutine {meant : Verdict} (hworded : meant ≠ .wordless) {routine : Routine}
    (hverdict : (verdict key payload routine).perform engine = (.ok meant, between))
    (found : Matches) :
    ∃ n engine', (matchRoutine key payload scope found routine).perform engine =
        (.ok ⟨found.intents ++ meant.intents payload scope routine n,
          found.skipped + (meant.gates key routine).length⟩, engine') ∧
      Passes (meant.gates key routine) engine engine' ∧
      List.Forall₂ (Intends payload scope) (meant.step?.map fun step => (routine, step)).toList
        (meant.intents payload scope routine n) := by
  have hmatch : (matchRoutine key payload scope found routine).perform engine = _ :=
    Operation.perform_bind_ok hverdict
  have hpasses : Passes [] engine between := by
    simpa [hverdict] using (plain_verdict key payload routine engine).passes
  refine ⟨between.made, ?_⟩
  cases meant with
  | wordless => exact absurd rfl hworded
  | due step =>
      refine ⟨{ between with made := between.made + 1 }, hmatch, hpasses.append ?_,
        .cons ⟨_, rfl⟩ .nil⟩
      exact .of_same rfl rfl rfl rfl
  | inactive =>
      refine ⟨((skip routine key).perform between).2, hmatch.trans ?_,
        hpasses.append (passes_skip key routine between), .nil⟩
      rw [Verdict.intents, List.append_nil]
      rfl
  | broken | silent | stepless =>
      refine ⟨between, hmatch.trans ?_, hpasses, .nil⟩
      rw [Verdict.intents, List.append_nil]
      rfl

theorem due_cons (routine : Routine) (rest : List Routine) :
    due settings key payload (routine :: rest) =
      ((verdictOf settings key payload routine).step?.map fun step => (routine, step)).toList ++
        due settings key payload rest := by
  rw [due, due, List.filterMap_cons]
  cases (verdictOf settings key payload routine).step? <;> rfl

/-- The routines an event comes to: those before the first one whose trigger has no words. -/
def reached (settings : Settings) (key : String) (payload : Fields) (routines : List Routine) :
    List Routine :=
  routines.takeWhile fun r => verdictOf settings key payload r ≠ .wordless

/-- An engine that reads the routines passes over those that the event passes over, and there is an
intent for each that is due, in the order of the list. If a trigger has no words then the matching
breaks off there. -/
theorem passes_matchEach (h : engine.Reads kind limit settings listed) {routines : List Routine}
    (hsub : routines ⊆ listed) (found : Matches) :
    ∃ (outcome : Except Fault Matches) (engine' : Engine X),
      (routines.foldlM (matchRoutine key payload scope) found).perform engine =
        (outcome, engine') ∧
      Passes (passedOver settings key payload (reached settings key payload routines)) engine
        engine' ∧
      ((∃ r ∈ routines, verdictOf settings key payload r = .wordless) →
        outcome = .error (.oversizeNumber .written)) ∧
      ((∀ r ∈ routines, verdictOf settings key payload r ≠ .wordless) → ∃ more,
        outcome = .ok ⟨found.intents ++ more,
          found.skipped + (passedOver settings key payload routines).length⟩ ∧
        List.Forall₂ (Intends payload scope) (due settings key payload routines) more) := by
  induction routines generalizing found engine with
  | nil =>
      refine ⟨.ok found, engine, rfl, refl_of (Passes []) engine, ?_, fun _ =>
        ⟨[], ?_, .nil⟩⟩
      · rintro ⟨_, hmem, -⟩
        cases hmem
      · rw [List.append_nil]
        rfl
  | cons routine rest ih =>
      obtain ⟨hroutine, hsub⟩ := List.cons_subset.mp hsub
      obtain ⟨between, hverdict⟩ := h.perform_verdict key payload hroutine
      by_cases hmeant : verdictOf settings key payload routine = .wordless
      · have hpasses : Passes [] engine between := by
          simpa [hverdict] using (plain_verdict key payload routine engine).passes
        rw [hmeant] at hverdict
        have hmatch : (matchRoutine key payload scope found routine).perform engine =
            (.error (.oversizeNumber .written), between) :=
          Operation.perform_bind_ok hverdict
        refine ⟨_, between, ?_, ?_, fun _ => rfl, fun hworded => ?_⟩
        · rw [List.foldlM_cons, Operation.perform_bind_error hmatch]
        · rwa [reached, List.takeWhile_cons_of_neg (by simpa using hmeant)]
        · exact absurd hmeant (hworded routine List.mem_cons_self)
      · obtain ⟨n, middle, hmatch, hfirst, hintends⟩ :=
          passes_matchRoutine key payload scope hmeant hverdict found
        have hmiddle := h.after_matchRoutine key payload scope hroutine found
        rw [hmatch] at hmiddle
        obtain ⟨outcome, engine', hperform, hrest, hwordless, hmore⟩ := ih hmiddle hsub _
        refine ⟨outcome, engine', ?_, ?_, ?_, fun hworded => ?_⟩
        · rw [List.foldlM_cons, Operation.perform_bind_ok hmatch, hperform]
        · rw [reached, List.takeWhile_cons_of_pos (by simpa using hmeant), passedOver_cons]
          exact hfirst.append hrest
        · rintro ⟨r, hmem, hr⟩
          rcases List.mem_cons.mp hmem with rfl | hmem
          · exact absurd hr hmeant
          · exact hwordless ⟨r, hmem, hr⟩
        · obtain ⟨more, rfl, hdue⟩ := hmore (List.forall_mem_cons.mp hworded).2
          refine ⟨(verdictOf settings key payload routine).intents payload scope routine n ++ more,
            ?_, ?_⟩
          · rw [passedOver_cons, List.length_append, List.append_assoc, Nat.add_assoc]
          · rw [due_cons]
            exact List.rel_append hintends hdue

/-- The routines of a scope, as far as the store gives them out. -/
def listing (engine : Engine X) (scope : String) : Except Fault (List Routine) :=
  ((Store.listRoutines scope none).perform engine.store).1

theorem perform_listing (engine : Engine X) :
    (stored (Store.listRoutines scope none)).perform engine = (engine.listing scope, engine) :=
  perform_stored_same rfl (Prod.ext rfl (Store.perform_listRoutines_snd scope none _))

/-- An engine whose graphs at hand are faithful reads the routines it lists. -/
theorem Faithful.reads {records : Memory} (h : engine.Faithful kind limit records)
    (hlist : engine.listing scope = .ok listed) :
    engine.Reads kind limit engine.settings listed :=
  ⟨rfl, rfl, records, h, fun _ hroutine =>
    h.recorded_of_givesOut (.inr ⟨scope, none, listed, hlist, hroutine⟩)⟩

/-- Looking for what an event calls for passes over those of the routines it comes to that are not
active though their trigger fires, and unless a trigger has no words, those that are due are called,
each group in the order of the list. -/
theorem passes_matchAll {records : Memory} (h : engine.Faithful kind limit records)
    (hlist : engine.listing scope = .ok listed) :
    ∃ (outcome : Except Fault Matches) (engine' : Engine X),
      (matchAll key payload scope).perform engine = (outcome, engine') ∧
      Passes (passedOver engine.settings key payload (reached engine.settings key payload listed))
        engine engine' ∧
      ((∃ r ∈ listed, verdictOf engine.settings key payload r = .wordless) →
        outcome = .error (.oversizeNumber .written)) ∧
      ((∀ r ∈ listed, verdictOf engine.settings key payload r ≠ .wordless) → ∃ intents,
        outcome = .ok ⟨intents, (passedOver engine.settings key payload listed).length⟩ ∧
        List.Forall₂ (Intends payload scope) (due engine.settings key payload listed) intents) := by
  obtain ⟨outcome, engine', hperform, hpasses, hwordless, hmore⟩ := passes_matchEach key payload
    scope (h.reads scope hlist) (List.Subset.refl listed) {}
  have hlisted := perform_listing scope engine
  rw [hlist] at hlisted
  refine ⟨outcome, engine', (Operation.perform_bind_ok hlisted).trans hperform, hpasses, hwordless,
    fun hworded => ?_⟩
  obtain ⟨more, rfl, hdue⟩ := hmore hworded
  exact ⟨more, by rw [List.nil_append, Nat.zero_add], hdue⟩

/-- Without a list of the routines an event does nothing. -/
theorem perform_matchAll_error {fault : Fault} (hlist : engine.listing scope = .error fault) :
    (matchAll key payload scope).perform engine = (.error fault, engine) :=
  Operation.perform_bind_error (hlist ▸ perform_listing scope engine)

end Matching

end Engine

end Workflow
