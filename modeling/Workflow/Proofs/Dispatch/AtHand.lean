import Workflow.Proofs.Dispatch.Discreet
import Workflow.Proofs.Dispatch.Rebuilt

/-!
# Finding the graph of a routine

Finding a graph is the one piece of work that looks at the graphs at hand. A graph that is found
there for a version of a routine is the one the definition of the routine would give, because the
definition is recorded under this version and no other one ever is. So finding a graph, and with it
everything that is done for an event, is blind to the graphs at hand.
-/

namespace Workflow

namespace Graph

theorem rules_of_ofDefinition {rules : Rules} {d : Definition} {graph : Graph}
    (h : ofDefinition rules d = .ok graph) : graph.rules = rules := by
  unfold ofDefinition at h
  split at h
  · cases h
    rfl
  · cases h

/-- Checking the definition of a graph gives the graph. -/
theorem ofDefinition_definition (graph : Graph) :
    ofDefinition graph.rules graph.definition = .ok graph := by
  unfold ofDefinition
  split
  · rfl
  · rename_i hfound
    exact absurd graph.accepted hfound

end Graph

namespace GraphCache

theorem length_touch (cache : GraphCache) (routine : String) (version : Int) :
    (cache.touch routine version).kept.length = cache.kept.length := by
  rw [touch, List.partition_eq_filter_filter]
  simp only [List.length_append]
  rw [Nat.add_comm]
  exact (List.length_eq_length_filter_add (isFor routine version)).symm

end GraphCache

namespace Engine

variable {X α : Type} {kind : StoreKind} {limit : Nat} {records : Memory} {engine : Engine X}
variable {listed : List Routine} {routine : Routine}

/-- A graph that is not at hand is the definition, checked, and is kept when there is one. -/
theorem perform_graphOf_of_missing
    (hmissing : engine.graphs.find? routine.id routine.version = none) :
    ∃ graphs, (graphOf routine).perform engine =
        (Graph.ofDefinition (rules engine.settings) routine.definition, { engine with graphs }) ∧
      (graphs = engine.graphs ∨
        ∃ graph, Graph.ofDefinition (rules engine.settings) routine.definition = .ok graph ∧
          graphs = engine.graphs.keep ⟨routine.id, routine.version, graph⟩) := by
  have hgraphOf : (graphOf routine).perform engine = _ :=
    (Operation.perform_bind_ok (Operation.perform_get engine)).trans (by rw [hmissing])
  have hcheck : (check routine.definition).perform engine = _ := perform_check routine.definition
  cases hchecked : Graph.ofDefinition (rules engine.settings) routine.definition with
  | error fault =>
      rw [hchecked] at hcheck
      exact ⟨engine.graphs, hgraphOf.trans (Operation.perform_bind_error hcheck), .inl rfl⟩
  | ok graph =>
      rw [hchecked] at hcheck
      exact ⟨_, hgraphOf.trans (Operation.perform_bind_ok hcheck), .inr ⟨graph, rfl, rfl⟩⟩

/-- Without graphs at hand the graph of a routine is its definition, checked. -/
theorem perform_graphOf_rebuilt (engine : Engine X) (routine : Routine) :
    (graphOf routine).perform engine.rebuilt =
      (Graph.ofDefinition (rules engine.settings) routine.definition, engine.rebuilt) := by
  have hmissing : engine.rebuilt.graphs.find? routine.id routine.version = none := rfl
  obtain ⟨graphs, hperform, rfl | ⟨graph, -, rfl⟩⟩ := perform_graphOf_of_missing hmissing
  · exact hperform
  · exact hperform

namespace Faithful

theorem with_graphs (h : engine.Faithful kind limit records) {graphs : GraphCache}
    (hrules : ∀ entry ∈ graphs.kept, entry.graph.rules = Engine.rules engine.settings)
    (hrecorded : ∀ entry ∈ graphs.kept,
      records.Records entry.routine entry.version entry.graph.definition)
    (hlimited : graphs.limit = limit) (hbounded : graphs.kept.length ≤ limit) :
    Faithful kind limit records { engine with graphs } :=
  ⟨⟨h.keeps.store, h.keeps.chronicled⟩, hrules, hrecorded, hlimited, hbounded⟩

/-- A graph at hand for the version of a routine is the one its definition gives. -/
theorem ofDefinition_eq_of_mem (h : engine.Faithful kind limit records)
    (hrecorded : records.Records routine.id routine.version routine.definition)
    {entry : KeptGraph} (hmem : entry ∈ engine.graphs.kept) (hid : entry.routine = routine.id)
    (hversion : entry.version = routine.version) :
    entry.graph.definition = routine.definition ∧
      Graph.ofDefinition (Engine.rules engine.settings) routine.definition = .ok entry.graph := by
  have hentry := h.recorded entry hmem
  rw [hid, hversion] at hentry
  have hdefinition := Memory.Records.unique h.keeps.chronicled hentry hrecorded
  refine ⟨hdefinition, ?_⟩
  rw [← hdefinition, ← h.rules entry hmem, Graph.ofDefinition_definition]

/-- Finding the graph of a routine gives what its definition gives, and the graphs at hand are
faithful ones afterwards. -/
theorem perform_graphOf (h : engine.Faithful kind limit records)
    (hrecorded : records.Records routine.id routine.version routine.definition) :
    ∃ graphs, (graphOf routine).perform engine =
        (Graph.ofDefinition (Engine.rules engine.settings) routine.definition,
          { engine with graphs }) ∧
      Faithful kind limit records { engine with graphs } := by
  cases hfind : engine.graphs.find? routine.id routine.version with
  | some entry =>
      have hmem : entry ∈ engine.graphs.kept := List.mem_of_find?_eq_some hfind
      have hkey := List.find?_some hfind
      simp only [GraphCache.isFor, Bool.and_eq_true, decide_eq_true_eq] at hkey
      refine ⟨engine.graphs.touch routine.id routine.version, ?_, h.with_graphs ?_ ?_ h.limited ?_⟩
      · rw [graphOf, Operation.perform_bind_ok (Operation.perform_get engine), hfind,
          (h.ofDefinition_eq_of_mem hrecorded hmem hkey.1 hkey.2).2]
        rfl
      · exact fun other hother => h.rules other (GraphCache.mem_of_mem_touch hother)
      · exact fun other hother => h.recorded other (GraphCache.mem_of_mem_touch hother)
      · rw [GraphCache.length_touch]
        exact h.bounded
  | none =>
      obtain ⟨graphs, hperform, rfl | ⟨graph, hgraph, rfl⟩⟩ := perform_graphOf_of_missing hfind
      · exact ⟨_, hperform, h⟩
      · refine ⟨_, hperform, h.with_graphs ?_ ?_ h.limited
          (Nat.le_trans (GraphCache.length_keep_le _ _) (Nat.le_of_eq h.limited))⟩
        · intro entry hentry
          rcases GraphCache.mem_of_mem_keep hentry with hentry | rfl
          · exact h.rules entry hentry
          · exact Graph.rules_of_ofDefinition hgraph
        · intro entry hentry
          rcases GraphCache.mem_of_mem_keep hentry with hentry | rfl
          · exact h.recorded entry hentry
          · exact (Graph.of_ofDefinition hgraph).2.symm ▸ hrecorded

end Faithful

theorem blind_graphOf (hlisted : routine ∈ listed) :
    Operation.Blind (Rebuilt kind limit listed) (graphOf routine : Work X Graph) := by
  rintro engine _ ⟨rfl, records, hfaithful, hrecorded⟩
  obtain ⟨graphs, hperform, hafter⟩ := hfaithful.perform_graphOf (hrecorded routine hlisted)
  rw [hperform, perform_graphOf_rebuilt]
  exact ⟨rfl, rfl, records, hafter, hrecorded⟩

theorem Rebuilt.of_subset {engine engine' : Engine X} {more : List Routine}
    (h : Rebuilt kind limit listed engine engine') (hsubset : more ⊆ listed) :
    Rebuilt kind limit more engine engine' := by
  obtain ⟨hsame, records, hfaithful, hrecorded⟩ := h
  exact ⟨hsame, records, hfaithful, fun r hr => hrecorded r (hsubset hr)⟩

/-- Going on with routines that the store has given out. -/
theorem blind_asking {β : Type} {work : Store.Work α} {f : α → Work X β} (more : α → List Routine)
    (hasks : ∀ store, (work.perform store).2 = store)
    (hmore : ∀ records : Memory, records.Readable → ∀ a,
      (work.perform (kind.hold records)).1 = .ok a → more a ⊆ records.routines)
    (hf : ∀ a, Operation.Blind (Rebuilt kind limit (more a ++ listed)) (f a)) :
    Operation.Blind (Rebuilt kind limit listed) (stored work >>= f) := by
  rintro engine _ ⟨rfl, records, hfaithful, hrecorded⟩
  have hkeeps := hfaithful.keeps
  have hasked (engine : Engine X) (hstore : engine.store = kind.hold records) :
      (stored work).perform engine = ((work.perform (kind.hold records)).1, engine) :=
    perform_stored_same hstore (Prod.ext rfl (hasks _))
  cases houtcome : (work.perform (kind.hold records)).1 with
  | error fault =>
      rw [Operation.perform_bind_error ((hasked engine hkeeps.store).trans (by rw [houtcome])),
        Operation.perform_bind_error
          ((hasked engine.rebuilt hkeeps.store).trans (by rw [houtcome]))]
      exact ⟨rfl, rfl, records, hfaithful, hrecorded⟩
  | ok a =>
      rw [Operation.perform_bind_ok ((hasked engine hkeeps.store).trans (by rw [houtcome])),
        Operation.perform_bind_ok
          ((hasked engine.rebuilt hkeeps.store).trans (by rw [houtcome]))]
      have hgiven : ∀ r ∈ more a ++ listed, records.Records r.id r.version r.definition := by
        intro r hr
        rcases List.mem_append.mp hr with hr | hr
        · exact hkeeps.chronicled.current r (hmore records hkeeps.chronicled.readable a houtcome hr)
        · exact hrecorded r hr
      obtain ⟨hsame, hafter⟩ := hf a engine engine.rebuilt ⟨rfl, records, hfaithful, hgiven⟩
      exact ⟨hsame, hafter.of_subset (List.subset_append_right _ _)⟩

section Event

variable (key : String) (payload : Fields) (scope : String)

theorem aside_skip (routine : Routine) : Aside (Tends kind) (skip routine key : Work X Unit) := by
  refine .bind ⟨fun _ _ => rfl, fun engine => ?_⟩ fun _ => aside_notify _
  exact .of_same rfl rfl rfl (Nat.le_refl engine.made)

theorem blind_matchRoutine (found : Matches) (hlisted : routine ∈ listed) :
    Operation.Blind (Rebuilt kind limit listed)
      (matchRoutine key payload scope found routine : Work X Matches) := by
  have hverdict : Operation.Blind (Rebuilt kind limit listed)
      (verdict key payload routine : Work X Verdict) := by
    refine .bind (blind_graphOf hlisted).attempt fun outcome => ?_
    cases outcome with
    | ok graph => exact .pure _
    | error fault => exact .pure _
  refine .bind hverdict fun meant => ?_
  cases meant with
  | broken => exact .pure _
  | silent => exact .pure _
  | stepless => exact .pure _
  | wordless => exact .fail _
  | inactive => exact .bind ((aside_skip key routine).blind listed) fun _ => .pure _
  | due step => exact .bind (aside_fresh.blind listed) fun _ => .pure _

theorem blind_matchAll :
    Operation.Blind (Rebuilt kind limit listed) (matchAll key payload scope : Work X Matches) := by
  refine blind_asking id (Store.perform_listRoutines_snd scope none)
    (fun records hreadable found hfound => ?_) fun found => ?_
  · intro r hr
    rw [Store.perform_listRoutines hreadable] at hfound
    exact (List.mem_filter.mp ((StoreKind.mem_of_listing hfound).mp hr).1).1
  · exact .foldlM found (fun routine hroutine matched =>
      blind_matchRoutine key payload scope matched (List.mem_append_left _ hroutine)) _

end Event

theorem blind_nextIntent (intent : Intent) (result : StepResult) :
    Operation.Blind (Rebuilt kind limit listed) (nextIntent intent result : Work X (Option Intent)) := by
  refine .ite (fun _ => .pure _) fun _ => ?_
  refine blind_asking Option.toList (Store.perform_ask_snd _ _) (fun records hreadable found h => ?_)
    fun found => ?_
  · rw [Store.perform_routine? hreadable] at h
    intro r hr
    rw [← Except.ok.inj h, Option.mem_toList] at hr
    exact (Memory.mem_of_routine? hr).1
  · cases found with
    | none => exact .pure _
    | some routine =>
        refine .bind (blind_graphOf ?_) fun graph => .bind (.ofExcept _) fun following => .pure _
        exact List.mem_append_left _ (List.mem_singleton_self routine)

theorem aside_stepCount (id : String) : Aside (Tends kind) (stepCount id : Work X Nat) := by
  refine .bind (aside_routine? id).attempt fun outcome => ?_
  split
  · exact .pure _
  · exact .pure _

section Dispatch

variable {perform : X → Context → Fields → Activity (Engine X) Returned}
variable
  (hperform : ∀ x context config, Activity.Blind (Rebuilt kind limit []) (perform x context config))

include hperform

theorem discreet_rebuilt : Discreet perform (Rebuilt kind limit []) fun _ => True where
  registry := by
    rintro engine _ ⟨rfl, -⟩
    rfl
  notify notice := (aside_notify notice).blind []
  send mail := (aside_send mail).blind []
  audit intent result _ := (aside_auditResult intent result).blind []
  next intent result _ := blind_nextIntent intent result
  count id _ := (aside_stepCount id).blind []
  perform := hperform

theorem blind_dispatchCounted (key : String) (payload : Fields) (scope : String) (follow : Bool) :
    Activity.Blind (Rebuilt kind limit []) (dispatchCounted perform key payload scope follow) := by
  have hdiscreet := discreet_rebuilt hperform
  refine .bind (.ofOperation (blind_matchAll key payload scope)) fun found => ?_
  split
  · exact .bind (hdiscreet.runChains fun _ _ => trivial) fun _ => .ended _
  · exact .bind (hdiscreet.runAll fun _ _ => trivial) fun _ => .ended _

theorem blind_dispatch (key : String) (payload : Fields) (scope : String) :
    Activity.Blind (Rebuilt kind limit []) (dispatch perform key payload scope) :=
  .bind (blind_dispatchCounted hperform key payload scope false) fun _ => .ended _

theorem blind_dispatchChains (key : String) (payload : Fields) (scope : String) :
    Activity.Blind (Rebuilt kind limit []) (dispatchChains perform key payload scope) :=
  .bind (.ofOperation (blind_matchAll key payload scope)) fun _ =>
    (discreet_rebuilt hperform).runChains fun _ _ => trivial

end Dispatch

end Engine

end Workflow
