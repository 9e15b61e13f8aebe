import Workflow.Engine.Dispatch
import Workflow.Proofs.Activity
import Workflow.Proofs.Engine

/-!
# Routines that stay as they are

While steps are carried out a routine may be read many times. `Engine.Steady` says that the engine
gives out one definition for it each time: the store answers with the definition, and a graph that
is kept for the version of the routine is the graph of the definition. What the library itself does
while it carries out a step leaves this as it is, so only handlers and others have to be asked for.
-/

namespace Workflow

namespace Store

/-- The routine the store answers with when it is asked for an id. -/
def answer? (store : Store) (id : String) : Option Routine :=
  match ((routine? id).perform store).1 with
  | .ok found => found
  | .error _ => none

theorem perform_ask_snd {α : Type} (ofMemory : Memory → α) (ofTables : Tables → Except Fault α)
    (store : Store) : ((ask ofMemory ofTables).perform store).2 = store := by
  cases store <;> rfl

theorem perform_listRoutines_snd (scope : String) (status : Option RoutineStatus) (store : Store) :
    ((listRoutines scope status).perform store).2 = store :=
  (Operation.perform_bind_snd (fun _ _ => rfl) store).trans (perform_ask_snd _ _ store)

/-- Keeping an audit entry changes no routine. -/
theorem answer?_appendEntry (entry : Entry) (store : Store) (id : String) :
    ((appendEntry entry).perform store).2.answer? id = store.answer? id := by
  cases store with
  | memory records => rfl
  | tables rows =>
      by_cases taken : rows.entries.any fun row => row.id = entry.id
      · have hrefused : rows.appendEntry entry = .error .duplicateRow := if_pos taken
        simp only [appendEntry, change, Operation.perform_bind, Operation.perform_get, hrefused,
          Operation.perform_ofExcept]
      · have hkept : rows.appendEntry entry =
            .ok { rows with entries := rows.entries ++ [.ofEntry entry] } := if_neg taken
        simp only [appendEntry, change, Operation.perform_bind, Operation.perform_get, hkept,
          Operation.perform_ofExcept, Operation.perform_set]
        rfl

end Store

namespace GraphCache

theorem mem_of_mem_touch {cache : GraphCache} {routine : String} {version : Int} {entry : KeptGraph}
    (h : entry ∈ (cache.touch routine version).kept) : entry ∈ cache.kept := by
  have hsplit : (cache.touch routine version).kept =
      cache.kept.filter (fun entry => !isFor routine version entry) ++
        cache.kept.filter (isFor routine version) := by
    rw [touch, List.partition_eq_filter_filter]
    rfl
  rw [hsplit, List.mem_append] at h
  rcases h with h | h <;> exact (List.mem_filter.mp h).1

theorem mem_of_mem_keep {cache : GraphCache} {entry other : KeptGraph}
    (h : other ∈ (cache.keep entry).kept) : other ∈ cache.kept ∨ other = entry := by
  have hall := List.mem_of_mem_drop h
  rwa [List.mem_append, List.mem_singleton] at hall

end GraphCache

namespace Engine

variable {X : Type} {id : String} {found : Option Definition} {engine engine' : Engine X}

/-- The engine gives out the definition `found` for a routine, and none when this is missing. -/
structure Steady (id : String) (found : Option Definition) (engine : Engine X) : Prop where
  stored : (engine.store.answer? id).map Routine.definition = found
  kept : ∀ r, engine.store.answer? id = some r → ∀ entry ∈ engine.graphs.kept,
    entry.routine = r.id → entry.version = r.version → entry.graph.definition = r.definition

theorem Steady.of_eq (h : engine.Steady id found)
    (hstore : engine'.store.answer? id = engine.store.answer? id)
    (hgraphs : engine'.graphs = engine.graphs) : engine'.Steady id found where
  stored := by rw [hstore, h.stored]
  kept := by
    intro r hr entry hentry
    rw [hstore] at hr
    rw [hgraphs] at hentry
    exact h.kept r hr entry hentry

open Operation (Respects Retains)

section Retains

theorem retains_count : Respects (Retains (Steady id found)) (count : Work X Nat) :=
  fun _ h => h.of_eq rfl rfl

theorem retains_fresh : Respects (Retains (Steady id found)) (fresh : Work X String) :=
  .map _ retains_count

theorem retains_notify (notice : Notice) :
    Respects (Retains (Steady id found)) (notify notice : Work X Unit) :=
  fun _ h => h.of_eq rfl rfl

theorem retains_send (mail : Mail) :
    Respects (Retains (Steady id found)) (send mail : Work X Receipt) := by
  refine .bind (fun _ h => h.of_eq rfl rfl) fun _ => ?_
  exact .bind retains_count fun _ => .pure _

theorem retains_stored {α : Type} {work : Store.Work α}
    (h : ∀ store : Store, (work.perform store).2.answer? id = store.answer? id) :
    Respects (Retains (Steady id found)) (stored work : Work X α) :=
  fun engine hsteady => hsteady.of_eq (h engine.store) rfl

theorem retains_audit (routine execution : String) (step : Step) (result : StepResult) :
    Respects (Retains (Steady id found)) (audit routine execution step result : Work X Unit) := by
  refine .bind retains_fresh fun entryId => .bind (fun _ h => h.of_eq rfl rfl) fun _ => ?_
  refine .bind .get fun engine => ?_
  split
  · exact .fail _
  · exact retains_stored fun store => Store.answer?_appendEntry _ store id

theorem retains_auditResult (intent : Intent) (result : StepResult) :
    Respects (Retains (Steady id found)) (auditResult intent result : Work X Unit) :=
  .bind (.attempt (retains_audit _ _ _ _)) fun _ => .pure _

end Retains

/-- The graph of a routine is that of its definition, whether it was kept or is kept from now on. -/
theorem graphOf_outcome {routine : Routine} (h : engine.Steady id found)
    (hanswer : engine.store.answer? id = some routine) {outcome : Except Fault Graph}
    (hperform : (graphOf routine).perform engine = (outcome, engine')) :
    engine'.Steady id found ∧
      ∀ graph, outcome = .ok graph → graph.definition = routine.definition := by
  rw [graphOf, Operation.perform_bind_ok (Operation.perform_get engine)] at hperform
  cases hfind : engine.graphs.find? routine.id routine.version with
  | some entry =>
      have hmem : entry ∈ engine.graphs.kept := List.mem_of_find?_eq_some hfind
      have hkey := List.find?_some hfind
      simp only [GraphCache.isFor, Bool.and_eq_true, decide_eq_true_eq] at hkey
      rw [hfind] at hperform
      cases hperform
      refine ⟨⟨h.stored, fun r hr other hother => ?_⟩, ?_⟩
      · exact h.kept r hr other (GraphCache.mem_of_mem_touch hother)
      · rintro graph ⟨⟩
        exact h.kept routine hanswer entry hmem hkey.1 hkey.2
  | none =>
      rw [hfind] at hperform
      cases hcheck : Graph.ofDefinition (rules engine.settings) routine.definition with
      | error fault =>
          rw [Operation.perform_bind_error ((perform_check _).trans (by rw [hcheck]))] at hperform
          cases hperform
          exact ⟨h, nofun⟩
      | ok graph =>
          rw [Operation.perform_bind_ok ((perform_check _).trans (by rw [hcheck]))] at hperform
          cases hperform
          have hgraph := (Graph.of_ofDefinition hcheck).2
          refine ⟨⟨h.stored, fun r hr other hother hid hversion => ?_⟩, ?_⟩
          · rcases GraphCache.mem_of_mem_keep hother with hother | rfl
            · exact h.kept r hr other hother hid hversion
            · obtain rfl : routine = r := Option.some.inj (hanswer.symm.trans hr)
              exact hgraph
          · rintro _ ⟨⟩
            exact hgraph

variable {perform : X → Context → Fields → Activity (Engine X) Returned}
variable {rely : Engine X → Engine X → Prop}

open Activity (Keeps)

section Keeps

variable (hperform : ∀ x context config, Keeps rely (Steady id found) (perform x context config))

include hperform

theorem keeps_run (handler : Handler X) (context : Context) (config : Fields) :
    Keeps rely (Steady id found) ((surroundings perform).run handler context config) := by
  cases handler with
  | builtin b =>
      refine .bind (.ofOperation (.bind (.ofExcept _) fun plan => ?_)) fun _ => .ended _
      cases plan.mail with
      | none => exact .pure _
      | some mail => exact .bind (retains_send mail) fun _ => .pure _
  | custom x => exact .bind (hperform x context config) fun _ => .ended _

theorem keeps_execute (intent : Intent) :
    Keeps rely (Steady id found) ((surroundings perform).execute intent) := by
  have hprepare : Respects (Retains (Steady id found)) ((surroundings perform).prepare intent) :=
    .bind .get fun _ => .bind (.ofExcept _) fun _ => .bind (.ofExcept _) fun _ => .pure _
  have hanswer : Keeps rely (Steady id found) ((surroundings perform).answer intent) :=
    .bind (.ofOperation hprepare) fun prepared => keeps_run hperform _ _ _
  refine .bind (.andThen hanswer fun _ => .ended _) fun outcome => ?_
  exact .bind (.ended _) fun _ => .bind (.ofOperation (retains_notify _)) fun _ => .ended _

theorem keeps_runStep (intent : Intent) :
    Keeps rely (Steady id found) (runStep perform intent) := by
  unfold runStep
  split
  · exact .bind (.ofOperation (retains_auditResult _ _)) fun _ => .ended _
  · exact .bind (keeps_execute hperform intent) fun _ =>
      .bind (.ofOperation (retains_auditResult _ _)) fun _ => .ended _

end Keeps

end Engine

end Workflow
