import Workflow.Proofs.Dispatch.Protected
import Workflow.Proofs.Dispatch.Transparent

/-!
# Archived routines

Once a routine is archived it stays as it is, and no event that is passed on later brings about a
step of it, whatever handlers do meanwhile. Events that were passed on before are another matter.
What comes after a step is found out without a look at the status of the routine, so a chain that is
under way when its routine is archived goes on to its end.
-/

namespace Workflow

theorem filter_append_of_none {α : Type} {p : α → Bool} {before more : List α}
    (h : ∀ a ∈ more, ¬ p a) : (before ++ more).filter p = before.filter p := by
  rw [List.filter_append, List.filter_eq_nil_iff.mpr h, List.append_nil]

/-- What there is of a routine. -/
structure Remains where
  /-- The routine itself. -/
  routines : List Routine
  /-- What observers were told of its steps. -/
  told : List Notice
  /-- The results that are kept of it. -/
  results : List Entry

namespace Memory

variable {rules : Graph.Rules} {made made' : Nat} {records after : Memory} {told : List Notice}
variable {id : String}

/-- The routines with an identifier. -/
def routinesOf (records : Memory) (id : String) : List Routine :=
  records.routines.filter fun r => r.id = id

/-- What the records and the notices have of a routine. -/
def remains (records : Memory) (notices : List Notice) (id : String) : Remains where
  routines := records.routinesOf id
  told := notices.filter fun notice => notice.run?.any fun run => run.1 = id
  results := records.entries.filter fun entry => entry.routine = id

theorem mem_routinesOf {r : Routine} :
    r ∈ records.routinesOf id ↔ r ∈ records.routines ∧ r.id = id := by
  simp [routinesOf]

theorem routinesOf_updateRoutine_of_ne {f : Routine → Routine} (hf : ∀ r, (f r).id = r.id)
    (records : Memory) {other : String} (hne : other ≠ id) :
    (records.updateRoutine other f).routinesOf id = records.routinesOf id := by
  have hid (r : Routine) : (if r.id = other then f r else r).id = r.id := by
    split
    · exact hf r
    · rfl
  rw [routinesOf, updateRoutine, Keyed.update, List.filter_map]
  simp only [Function.comp_def, hid]
  refine (List.map_congr_left fun r hr => if_neg fun heq => hne ?_).trans (List.map_id _)
  exact heq.symm.trans (mem_routinesOf.mp hr).2

/-- Nothing that is asked of the life of routines changes a routine that is archived. -/
theorem Change.routinesOf_eq (h : Chronicled made records)
    (change : Change rules made records made' after told) (hstored : records.routinesOf id ≠ [])
    (harchived : ∀ r ∈ records.routinesOf id, r.status = .archived) :
    after.routinesOf id = records.routinesOf id := by
  -- a routine that may still change is another one
  have hne {other : String} {routine : Routine} (found : records.routine? other = some routine)
      (hstatus : routine.status ≠ .archived) : other ≠ id := by
    rintro rfl
    exact hstatus (harchived routine (mem_routinesOf.mpr (mem_of_routine? found)))
  cases change with
  | kept => rfl
  | created routine fresh named _ _ _ _ _ =>
      obtain ⟨r, hr⟩ := List.exists_mem_of_ne_nil _ hstored
      obtain ⟨hmem, rfl⟩ := mem_routinesOf.mp hr
      have hother : routine.id ≠ r.id := (h.ne_of_fresh fresh named r hmem).symm
      exact filter_append_of_none (List.forall_mem_singleton.mpr (by simpa using hother))
  | noted _ _ _ => rfl
  | advanced snapshot found editable _ _ =>
      exact routinesOf_updateRoutine_of_ne (by exact fun _ => rfl) _ (hne found editable)
  | moved other status found allowed =>
      refine routinesOf_updateRoutine_of_ne (by exact fun _ => rfl) _ (hne found fun heq => ?_)
      rw [heq, RoutineStatus.mayBecome_archived] at allowed
      exact Bool.false_ne_true allowed

end Memory

namespace Engine

open Activity (Holds RetainsEach)
open Operation (Respects)

variable {X : Type} {kind : StoreKind} {id : String} {remains : Remains}
variable {engine engine' : Engine X} {records : Memory}

/-- The routine is archived, and this is what there is of it. -/
structure Resting (id : String) (remains : Remains) (unwritable : Dict String)
    (notices : List Notice) (made : Nat) (records : Memory) : Prop where
  eq : records.remains notices id = remains
  stored : remains.routines ≠ []
  archived : ∀ r ∈ remains.routines, r.status = .archived

theorem protected_resting (id : String) :
    Protected (fun routine _ => routine ≠ id) (Resting id) where
  later h _ := ⟨h.eq, h.stored, h.archived⟩
  told := by
    intro remains unwritable notices more made records h hmore
    refine ⟨?_, h.stored, h.archived⟩
    rw [← h.eq, Memory.remains, filter_append_of_none fun notice hnotice hany => ?_]
    · rfl
    cases hrun : notice.run? with
    | none => simp [hrun] at hany
    | some run => exact hmore notice hnotice run hrun (by simpa [hrun] using hany)
  change := by
    intro remains unwritable notices rules made made' records after told hchronicled change h
    obtain ⟨rfl, hstored, harchived⟩ := h
    refine ⟨?_, hstored, harchived⟩
    rw [Memory.remains, change.routinesOf_eq hchronicled hstored harchived, change.entries_eq]
    rfl
  kept := by
    intro remains unwritable notices made records entry h _ hother
    refine ⟨?_, h.stored, h.archived⟩
    rw [← h.eq, Memory.remains, Memory.appendEntry,
      filter_append_of_none (List.forall_mem_singleton.mpr (by simpa using hother))]
    rfl
  called := by
    rintro remains unwritable notices made made' records intent ⟨rfl, hstored, harchived⟩
      ⟨⟨r, hr, hactive, hid⟩, -⟩ rfl
    cases hactive.symm.trans (harchived r (Memory.mem_routinesOf.mpr ⟨hr, hid⟩))

/-- The routine is archived in an engine whose records are in order, and this is what there is of
it. -/
def Rests (kind : StoreKind) (id : String) (remains : Remains) (engine : Engine X) : Prop :=
  engine.Standing kind (Resting id) remains

/-- A routine rests as soon as it has been archived. -/
theorem rests_of_setStatus (h : engine.Keeps kind records)
    (hdistinct : (records.routines.map Routine.id).Nodup) {routine : Routine}
    (hset : (setStatus id .archived).perform engine = (.ok routine, engine')) :
    ∃ remains, engine'.Rests kind id remains := by
  rcases h.legible.setStatus_outcome id .archived with
    ⟨_, refused⟩ | ⟨routine, found, ⟨hstatus, hsame⟩ | ⟨allowed, hmoved⟩⟩
  · cases refused.symm.trans hset
  · cases hsame.symm.trans hset
    obtain ⟨hmem, hid⟩ := Memory.mem_of_routine? found
    refine ⟨_, records, h, rfl, List.ne_nil_of_mem (Memory.mem_routinesOf.mpr ⟨hmem, hid⟩), ?_⟩
    intro r hr
    obtain ⟨hr, hrid⟩ := Memory.mem_routinesOf.mp hr
    rw [List.inj_on_of_nodup_map hdistinct hr hmem (hrid.trans hid.symm), hstatus]
  · cases hmoved.symm.trans hset
    have change : Memory.Change (rules engine.settings) engine.made records _ _ _ :=
      .moved id .archived found allowed
    have hafter := Memory.routine?_updateRoutine_self
      (f := fun r => { r with status := .archived }) (by exact fun _ => rfl) records id
    rw [found] at hafter
    refine ⟨_, _, ⟨rfl, change.chronicled h.chronicled⟩, rfl,
      List.ne_nil_of_mem (Memory.mem_routinesOf.mpr (Memory.mem_of_routine? hafter)), ?_⟩
    intro r hr
    obtain ⟨hr, hid⟩ := Memory.mem_routinesOf.mp hr
    obtain ⟨before, -, rfl⟩ := List.mem_map.mp hr
    split at hid
    · rw [if_pos ‹_›]
    · exact absurd hid ‹_›

/-- No event brings about a step of a routine that rests. -/
theorem fst_ne_of_dispatchChains {perform : X → Context → Fields → Activity (Engine X) Returned}
    (h : engine.Rests kind id remains) {key scope : String} {payload : Fields}
    {chains : List (String × List StepResult)}
    (hrun : (dispatchChains perform key payload scope).run engine = (.ok chains, engine')) :
    ∀ chain ∈ chains, chain.1 ≠ id := by
  obtain ⟨records, hkeeps, hresting⟩ := h
  obtain ⟨outcome, matched, hmatch, hcalls⟩ := matchAll_outcome key payload scope hkeeps
  rw [dispatchChains, Activity.run_bind, Activity.run_ofOperation, hmatch] at hrun
  cases outcome with
  | error fault => cases hrun
  | ok found =>
      obtain ⟨outcomes, after, hsettled, -⟩ :=
        @run_settled X _ (runChain perform) found.intents matched
      dsimp only at hrun
      rw [runChains, Activity.run_bind, run_isolated hsettled] at hrun
      cases hall : recoveredAll crashedChain found.intents outcomes with
      | error fault =>
          rw [hall] at hrun
          cases hrun
      | ok answers =>
      rw [hall] at hrun
      cases hrun
      intro chain hchain
      obtain ⟨intent, hintent, hroutine⟩ := List.mem_map.mp (List.of_mem_zip hchain).1
      rw [← hroutine]
      exact (protected_resting id).called hresting ((hcalls found rfl).2 intent hintent)

variable {perform : X → Context → Fields → Activity (Engine X) Returned}

/-- Whatever is asked, a routine goes on resting. -/
theorem Rests.runErrands (mindful : ∀ x context config, Mindful kind (perform x context config))
    (h : engine.Rests kind id remains) (errands : List Errand) :
    (runErrands perform errands engine).2.Rests kind id remains := by
  induction errands generalizing engine with
  | nil => exact h
  | cons errand rest ih =>
      have hholds : Holds (Rests kind id) (runErrand perform errand) :=
        mindful_runErrand mindful errand _ _ _ (protected_resting id)
      exact ih (hholds.ends (by rintro s _ rfl; exact refl_of (RetainsEach _) s) h
        (Activity.ends_eq_iff.mpr rfl))

/-- Once a routine has been archived, it rests whatever is asked and whatever handlers do, as long
as these are mindful: it does not change, observers are told of no further step of it, no result of
it is added, and it is in no answer to an event. An errand that begins while it rests leaves it
alone with each change, also when errands that began before still go on. -/
theorem rests_once_archived (mindful : ∀ x context config, Mindful kind (perform x context config))
    (h : engine.Keeps kind records) (hdistinct : (records.routines.map Routine.id).Nodup)
    {routine : Routine} (hset : (setStatus id .archived).perform engine = (.ok routine, engine')) :
    (∃ remains, ∀ errands,
      let after := (runErrands perform errands engine').2
      after.Rests kind id remains ∧
        ∀ key payload scope chains last,
          (dispatchChains perform key payload scope).run after = (.ok chains, last) →
            ∀ chain ∈ chains, chain.1 ≠ id) ∧
      ∀ errand, Holds (Rests kind id) (runErrand perform errand) := by
  obtain ⟨remains, hrests⟩ := rests_of_setStatus h hdistinct hset
  refine ⟨⟨remains, fun errands => ⟨hrests.runErrands mindful errands, ?_⟩⟩, fun errand =>
    mindful_runErrand mindful errand _ _ _ (protected_resting id)⟩
  intro key payload scope chains last hrun
  exact fst_ne_of_dispatchChains (hrests.runErrands mindful errands) hrun

/-- A handler that archives the routine it is called for. -/
theorem rests_once_archived_at_hook :
    let perform := hook fun id => .setStatus id .archived
    (∀ x context config, Mindful .memory (perform x context config)) ∧
      hookedEngine.Keeps .memory hookedRecords ∧
      ∃ routine archived, (setStatus hookedRoutine.id .archived).perform hookedEngine =
        (.ok routine, archived) ∧
        ∃ remains, (runErrands perform [.dispatchChains "k" [] "s"] archived).2.Rests .memory
          hookedRoutine.id remains := by
  intro perform
  have hset : (setStatus hookedRoutine.id .archived).perform hookedEngine =
      (.ok { hookedRoutine with status := .archived },
        ((setStatus hookedRoutine.id .archived).perform hookedEngine).2) :=
    Prod.ext (by decide +kernel) rfl
  obtain ⟨⟨remains, hrests⟩, -⟩ :=
    rests_once_archived (mindful_hook _) keeps_hookedEngine (List.nodup_singleton _) hset
  exact ⟨mindful_hook _, keeps_hookedEngine, _, _, hset, remains, (hrests _).1⟩

/-- The second step of a chain is carried out although the first one has archived the routine. -/
theorem goes_on_once_archived :
    let dispatched :=
      (dispatchChains (hook fun id => .setStatus id .archived) "k" [] "s").run hookedEngine
    dispatched.2.notices.head? = some (.statusChanged hookedRoutine.id .active .archived) ∧
      dispatched.2.notices.tail.map Notice.run? =
        [some (hookedRoutine.id, Identifier.ofNumber 1),
          some (hookedRoutine.id, Identifier.ofNumber 1)] ∧
      dispatched.1.map (fun chains => chains.map fun chain =>
        (chain.1, chain.2.map StepResult.success)) = .ok [(hookedRoutine.id, [true, true])] := by
  decide +kernel

end Engine

end Workflow
