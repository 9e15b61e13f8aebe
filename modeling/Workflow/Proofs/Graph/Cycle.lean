import Mathlib.Data.Fintype.Card
import Mathlib.Data.Set.Finite.Basic
import Mathlib.Logic.Relation
import Mathlib.Order.WellFounded
import Workflow.Graph.Cycle

/-!
# What is left over is what goes around

At each moment the count of a step is the number of flowing edges into it from steps not yet taken
away, and the steps whose count is nothing are those taken away and those in the queue. So what is
taken away was entered from such steps alone, and when the queue is empty each step that is left is
entered from another one that is left. In one direction a step that a cycle leads to is therefore
never taken away. In the other direction what is left has no step that nothing leads to: followed
back, its edges go around somewhere. So nothing is left exactly when no run of flowing edges comes
back to where it began.
-/

namespace Workflow

namespace Graph

variable {edges : List Edge} {ids taken : List String} {id : String}

/-- One of the edges leads from a step to another. -/
def Leads (edges : List Edge) (source target : String) : Prop :=
  ∃ edge ∈ edges, edge.source = source ∧ edge.target = target

/-- The edges into a step from steps that have not been taken away. -/
def pending (edges : List Edge) (taken : List String) (id : String) : Nat :=
  edges.countP fun edge => decide (edge.target = id ∧ edge.source ∉ taken)

/-- Where the edges of a step lead. -/
def targetsFrom (edges : List Edge) (id : String) : List String :=
  (edges.filter fun edge => edge.source = id).map Edge.target

theorem pending_eq_zero_iff :
    pending edges taken id = 0 ↔ ∀ source, Leads edges source id → source ∈ taken := by
  simp only [pending, List.countP_eq_zero, decide_eq_true_eq, not_and, not_not, Leads]
  constructor
  · rintro h source ⟨edge, hedge, rfl, htarget⟩
    exact h edge hedge htarget
  · exact fun h edge hedge htarget => h edge.source ⟨edge, hedge, rfl, htarget⟩

theorem pending_cons (edge : Edge) (rest : List Edge) (taken : List String) (id : String) :
    pending (edge :: rest) taken id =
      pending rest taken id + if edge.target = id ∧ edge.source ∉ taken then 1 else 0 := by
  simp [pending, List.countP_cons]

theorem count_targetsFrom_cons (edge : Edge) (rest : List Edge) (node id : String) :
    (targetsFrom (edge :: rest) node).count id =
      (targetsFrom rest node).count id + if edge.source = node ∧ edge.target = id then 1 else 0 := by
  by_cases hsource : edge.source = node <;> by_cases htarget : edge.target = id <;>
    simp [targetsFrom, hsource, htarget]

/-- When a step is taken away, its edges are pending no more. -/
theorem pending_concat (edges : List Edge) {node : String} (hnode : node ∉ taken) (id : String) :
    pending edges taken id =
      pending edges (taken ++ [node]) id + (targetsFrom edges node).count id := by
  induction edges with
  | nil => rfl
  | cons edge rest ih =>
      simp only [pending_cons, count_targetsFrom_cons, ih, List.mem_append, List.mem_singleton]
      by_cases hsource : edge.source = node
      · subst hsource
        by_cases htarget : edge.target = id <;> simp [htarget, hnode]
        omega
      · simp only [hsource, or_false, false_and, if_false]
        omega

/-- The counts and targets are those of the edges. -/
structure Flow.Fits (ids : List String) (edges : List Edge) (flow : Flow) : Prop where
  keys : flow.degrees.keys = ids
  degrees : ∀ id ∈ ids, flow.degrees.get? id = some (pending edges [] id : Int)
  targets : ∀ id ∈ ids, flow.targets.get? id = some (targetsFrom edges id)

namespace Flow

theorem get?_const {α : Type} (a : α) (h : id ∈ ids) :
    Dict.get? (ids.map fun id => (id, a)) id = some a := by
  induction ids with
  | nil => simp at h
  | cons first rest ih =>
      rw [List.map_cons, Dict.get?_cons]
      split
      · rfl
      · exact ih ((List.mem_cons.mp h).resolve_left fun e => ‹¬ first = id› e.symm)

theorem fits_none (hdistinct : ids.Nodup) : (none ids).Fits ids [] := by
  have hkeys : ∀ {α : Type} (a : α), Dict.keys (ids.map fun id => (id, a)) = ids := by
    simp [Dict.keys, Function.comp_def]
  have hof : ∀ {α : Type} (a : α), Dict.ofEntries (ids.map fun id => (id, a)) =
      ids.map fun id => (id, a) := fun a => Dict.ofEntries_of_nodup (by rwa [hkeys])
  exact ⟨by rw [none, hof, hkeys], fun id hid => by rw [none, hof, get?_const _ hid]; rfl,
    fun id hid => by rw [none, hof [], get?_const _ hid]; rfl⟩

theorem Fits.add {flow : Flow} (h : flow.Fits ids edges) {edge : Edge} (hsource : edge.source ∈ ids)
    (htarget : edge.target ∈ ids) : (flow.add edge).Fits ids (edges ++ [edge]) := by
  have hends : (flow.targets.has edge.source && flow.degrees.has edge.target) = true := by
    simp [Dict.has, h.targets _ hsource, h.degrees _ htarget]
  rw [Flow.add, if_pos hends]
  refine ⟨by rw [Dict.keys_modify, h.keys], fun id hid => ?_, fun id hid => ?_⟩
  · rw [pending, List.countP_append]
    by_cases heq : edge.target = id
    · subst heq
      rw [Dict.get?_modify_self, h.degrees _ hid]
      simp [pending]
    · rw [Dict.get?_modify_of_ne _ _ heq, h.degrees _ hid]
      simp [pending, heq]
  · rw [targetsFrom, List.filter_append, List.map_append]
    by_cases heq : edge.source = id
    · subst heq
      rw [Dict.get?_modify_self, h.targets _ hid]
      simp [targetsFrom]
    · rw [Dict.get?_modify_of_ne _ _ heq, h.targets _ hid]
      simp [targetsFrom, heq]

theorem Fits.foldl_add {flow : Flow} (h : flow.Fits ids edges) (more : List Edge)
    (hends : ∀ edge ∈ more, edge.source ∈ ids ∧ edge.target ∈ ids) :
    (more.foldl Flow.add flow).Fits ids (edges ++ more) := by
  induction more generalizing flow edges with
  | nil => rwa [List.append_nil]
  | cons edge rest ih =>
      obtain ⟨⟨hsource, htarget⟩, hrest⟩ := List.forall_mem_cons.mp hends
      rw [List.append_cons]
      exact ih (h.add hsource htarget) hrest

theorem fits_of (hdistinct : ids.Nodup)
    (hends : ∀ edge ∈ edges, edge.source ∈ ids ∧ edge.target ∈ ids) :
    (Flow.of ids edges).Fits ids edges :=
  (fits_none hdistinct).foldl_add edges hends

end Flow

/-- Some steps have been taken away, and each step has so many edges still counted. -/
structure Front.Stands (ids taken : List String) (still : String → Nat) (front : Front) : Prop where
  counted : ∀ id ∈ ids, front.degrees.get? id = some (still id : Int)
  distinct : (taken ++ front.queue).Nodup
  known : taken ++ front.queue ⊆ ids
  free : ∀ id ∈ ids, id ∈ taken ++ front.queue ↔ still id = 0

namespace Front.Stands

variable {front : Front} {still : String → Nat}

theorem congr (h : front.Stands ids taken still) {still' : String → Nat}
    (heq : ∀ id, still id = still' id) : front.Stands ids taken still' :=
  (funext heq : still = still') ▸ h

/-- One edge into a step no longer counts. -/
theorem release {child : String} {after : List String} (hchild : child ∈ ids)
    (h : front.Stands ids taken fun id => still id + (child :: after).count id) :
    (front.release child).Stands ids taken fun id => still id + after.count id := by
  have hself : (front.degrees.modify child (· - 1)).get? child =
      some ((still child + after.count child : Nat) : Int) := by
    rw [Dict.get?_modify_self, h.counted child hchild]
    simp only [List.count_cons_self, Option.map_some, Option.some.injEq]
    omega
  have hother : ∀ id, child ≠ id → (child :: after).count id = after.count id :=
    fun id hne => List.count_cons_of_ne hne
  have hout : child ∉ taken ++ front.queue := by
    rw [h.free child hchild, List.count_cons_self]
    omega
  have hcounted : ∀ id ∈ ids, (front.degrees.modify child (· - 1)).get? id =
      some ((still id + after.count id : Nat) : Int) := by
    intro id hid
    by_cases hne : child = id
    · exact hne ▸ hself
    · rw [Dict.get?_modify_of_ne _ _ hne, h.counted id hid, hother id hne]
  by_cases hnone : still child + after.count child = 0
  · have hqueue : (front.release child).queue = front.queue ++ [child] := by
      rw [Front.release, hself, hnone]
      rfl
    refine ⟨hcounted, ?_, ?_, fun id hid => ?_⟩ <;> rw [hqueue, ← List.append_assoc]
    · exact List.nodup_append.mpr ⟨h.distinct, List.nodup_singleton _,
        fun a ha b hb e => hout (List.mem_singleton.mp hb ▸ e ▸ ha)⟩
    · exact List.append_subset.mpr ⟨h.known, by simpa using hchild⟩
    · by_cases hne : child = id
      · simp [← hne, hnone]
      · have hfree := h.free id hid
        rw [hother id hne] at hfree
        rw [List.mem_append, hfree]
        simp [Ne.symm hne]
  · have hqueue : (front.release child).queue = front.queue := by
      simp only [Front.release, hself, Option.some.injEq]
      exact if_neg (by omega)
    refine ⟨hcounted, hqueue ▸ h.distinct, hqueue ▸ h.known, fun id hid => ?_⟩
    rw [hqueue]
    by_cases hne : child = id
    · simp only [← hne, hout, hnone]
    · exact hother id hne ▸ h.free id hid

theorem foldl_release {children : List String} (hsub : children ⊆ ids)
    (h : front.Stands ids taken fun id => still id + children.count id) :
    (children.foldl Front.release front).Stands ids taken still := by
  induction children generalizing front with
  | nil => exact h.congr fun id => by rw [List.count_nil, Nat.add_zero]
  | cons child rest ih =>
      obtain ⟨hchild, hrest⟩ := List.cons_subset.mp hsub
      exact ih hrest (h.release hchild)

/-- The first step of the queue is taken away, and its edges are the next that no longer count. -/
theorem pop {node : String} {rest : List String} (h : front.Stands ids taken (pending edges taken))
    (hqueue : front.queue = node :: rest) :
    Front.Stands ids (taken ++ [node])
      (fun id => pending edges (taken ++ [node]) id + (targetsFrom edges node).count id)
      { front with queue := rest } := by
  obtain ⟨hcounted, hdistinct, hknown, hfree⟩ := h
  rw [hqueue, List.append_cons] at hdistinct hknown hfree
  have hnode : node ∉ taken := fun hmem =>
    (List.nodup_append.mp (List.nodup_append.mp hdistinct).1).2.2 node hmem node
      List.mem_cons_self rfl
  have hstill := fun id => pending_concat edges hnode id
  exact ⟨fun id hid => hstill id ▸ hcounted id hid, hdistinct, hknown,
    fun id hid => hstill id ▸ hfree id hid⟩

end Front.Stands

/-- Steps have been taken away until none could be. None of them was in a set of steps each of which
is entered from the set. -/
theorem exists_taken {targets : Dict (List String)} {front : Front} {closed : List String}
    (htargets : ∀ id ∈ ids, targets.get? id = some (targetsFrom edges id))
    (hends : ∀ edge ∈ edges, edge.target ∈ ids)
    (hclosed : ∀ id ∈ closed, ∃ source ∈ closed, Leads edges source id)
    (h : front.Stands ids taken (pending edges taken)) (hout : ∀ id ∈ taken, id ∉ closed) :
    ∃ all, (sweep targets front taken.length).2 = all.length ∧
      Front.Stands ids all (pending edges all)
        { degrees := (sweep targets front taken.length).1, queue := [] } ∧
      ∀ id ∈ all, id ∉ closed := by
  generalize hvisited : taken.length = visited
  fun_induction sweep targets front visited generalizing taken with
  | case1 front visited hqueue =>
      exact ⟨taken, hvisited.symm, hqueue ▸ h, hout⟩
  | case2 front visited node rest hqueue ih =>
      have hnode : node ∈ taken ++ front.queue := by simp [hqueue]
      have hid : node ∈ ids := h.known hnode
      rw [htargets node hid, Option.getD_some] at ih ⊢
      have hsub : targetsFrom edges node ⊆ ids := by
        intro id hmem
        obtain ⟨edge, hedge, rfl⟩ := List.mem_map.mp hmem
        exact hends edge (List.mem_filter.mp hedge).1
      refine ih ((h.pop hqueue).foldl_release hsub) ?_ (by simp [hvisited])
      -- What leads to the step has been taken away, so it is not entered from the set.
      have hnot : node ∉ closed := by
        intro hmem
        obtain ⟨source, hsource, hleads⟩ := hclosed node hmem
        exact hout source (pending_eq_zero_iff.mp ((h.free node hid).mp hnode) source hleads) hsource
      intro id hmem
      obtain hmem | hmem := List.mem_append.mp hmem
      · exact hout id hmem
      · exact List.mem_singleton.mp hmem ▸ hnot

/-- At the beginning nothing is taken away, and the steps that no edge leads to are in the queue. -/
theorem Flow.Fits.stands {flow : Flow} (h : flow.Fits ids edges) (hdistinct : ids.Nodup) :
    flow.front.Stands ids [] (pending edges []) := by
  have hkeys : flow.degrees.keys.Nodup := h.keys ▸ hdistinct
  have hsub : (Dict.keys (flow.degrees.filter fun entry => entry.2 = 0)).Sublist ids := by
    conv_rhs => rw [← h.keys]
    exact List.filter_sublist.map _
  refine ⟨h.degrees, hsub.nodup hdistinct, hsub.subset, fun id hid => ?_⟩
  rw [List.nil_append]
  constructor
  · intro hready
    obtain ⟨⟨_, n⟩, hmem, rfl⟩ := List.mem_map.mp hready
    obtain ⟨hmem, hzero⟩ := List.mem_filter.mp hmem
    have hcount := h.degrees _ hid
    have hzero : n = 0 := of_decide_eq_true hzero
    rw [Dict.get?_of_mem hkeys hmem, hzero, Option.some.injEq] at hcount
    exact Int.natCast_eq_zero.mp hcount.symm
  · intro hzero
    have hcount := h.degrees id hid
    rw [hzero] at hcount
    exact List.mem_map.mpr
      ⟨(id, 0), List.mem_filter.mpr ⟨Dict.mem_of_get? hcount, decide_eq_true rfl⟩, rfl⟩

/-- Among finitely many ids a relation without cycles cannot be followed back for ever. -/
theorem wellFounded_of_acyclic {R : String → String → Prop}
    (h : ∀ id, ¬ Relation.TransGen R id id) (ids : List String) :
    WellFounded fun a b : { id // id ∈ ids } => Relation.TransGen R a.1 b.1 := by
  have : Finite { id // id ∈ ids } := (List.finite_toSet ids).to_subtype
  have : IsTrans { id // id ∈ ids } fun a b => Relation.TransGen R a.1 b.1 :=
    ⟨fun _ _ _ => Relation.TransGen.trans⟩
  have : Std.Irrefl fun a b : { id // id ∈ ids } => Relation.TransGen R a.1 b.1 :=
    ⟨fun a => h a.1⟩
  exact Finite.wellFounded_of_trans_of_irrefl _

/-- Followed back among finitely many ids, each of which has another before it, a relation comes back
to where it has been. -/
theorem exists_cycle_of_preceded {R : String → String → Prop} {P : String → Prop}
    (hsome : ∃ id ∈ ids, P id)
    (hback : ∀ id ∈ ids, P id → ∃ source ∈ ids, P source ∧ R source id) :
    ∃ id, Relation.TransGen (fun a b => R a b ∧ P a) id id := by
  by_contra hnone
  obtain ⟨first, hfirst, hP⟩ := hsome
  obtain ⟨least, hleast, hmin⟩ := (wellFounded_of_acyclic (not_exists.mp hnone) ids).has_min
    (fun id => P id.1) ⟨⟨first, hfirst⟩, hP⟩
  obtain ⟨source, hsource, hP', hR⟩ := hback least.1 least.2 hleast
  exact hmin ⟨source, hsource⟩ hP' (.single ⟨hR, hP'⟩)

/-- A run that comes back to where it began leads to the step. -/
def TrailsCycle (R : String → String → Prop) (id : String) : Prop :=
  ∃ around, Relation.TransGen R around around ∧ Relation.ReflTransGen R around id

/-- A step that a cycle leads to is entered from another such step. -/
theorem TrailsCycle.exists_preceding {R : String → String → Prop} (h : TrailsCycle R id) :
    ∃ source, TrailsCycle R source ∧ R source id := by
  obtain ⟨around, hcycle, hto⟩ := h
  obtain ⟨source, hto, hlast⟩ := Relation.TransGen.tail'_iff.mp (hcycle.trans_left hto)
  exact ⟨source, ⟨around, hcycle, hto⟩, hlast⟩

section Left

variable {steps : List Step} (hdistinct : (steps.map Step.id).Nodup)
variable (hends : ∀ edge ∈ edges,
  edge.source ∈ steps.map Step.id ∧ edge.target ∈ steps.map Step.id)

include hdistinct hends

theorem exists_stuckSteps (closed : List String)
    (hclosed : ∀ id ∈ closed, ∃ source ∈ closed, Leads (flowing steps edges) source id) :
    ∃ all, (∀ id ∈ steps.map Step.id, id ∈ all ↔ pending (flowing steps edges) all id = 0) ∧
      stuckSteps steps edges = (steps.map Step.id).filter (fun id => decide (id ∉ all)) ∧
      ∀ id ∈ all, id ∉ closed := by
  have hends : ∀ edge ∈ flowing steps edges,
      edge.source ∈ steps.map Step.id ∧ edge.target ∈ steps.map Step.id :=
    fun edge hedge => hends edge (List.mem_filter.mp hedge).1
  have hflow := Flow.fits_of hdistinct hends
  obtain ⟨all, hvisited, hstands, hout⟩ := exists_taken hflow.targets
    (fun edge hedge => (hends edge hedge).2) hclosed (hflow.stands hdistinct) (by simp)
  obtain ⟨hcounted, hnodup, hknown, hfree⟩ := hstands
  simp only [List.append_nil] at hnodup hknown hfree
  rw [List.length_nil] at hvisited hcounted
  refine ⟨all, hfree, ?_, hout⟩
  simp only [stuckSteps]
  generalize sweep _ _ 0 = swept at hvisited hcounted ⊢
  have hlength : (Flow.of (steps.map Step.id) (flowing steps edges)).degrees.length =
      (steps.map Step.id).length := by
    rw [← congrArg List.length hflow.keys, Dict.keys, List.length_map]
  have hleft : (steps.map Step.id).filter (fun id => decide (0 < (swept.1.get? id).getD 0)) =
      (steps.map Step.id).filter (fun id => decide (id ∉ all)) := by
    refine List.filter_congr fun id hid => decide_eq_decide.mpr ?_
    rw [hcounted id hid, hfree id hid, Option.getD_some]
    omega
  rw [hlength, hleft]
  split
  case isFalse => rfl
  case isTrue hcount =>
    -- As many steps were taken away as there are, so none is left.
    have hall : steps.map Step.id ⊆ all :=
      (hnodup.subperm hknown).perm_of_length_le (by omega) |>.symm.subset
    exact (List.filter_eq_nil_iff.mpr fun id hid => by simp [hall hid]).symm

/-- What is left over is entered from what is left over. -/
theorem exists_leads_of_mem_stuckSteps (h : id ∈ stuckSteps steps edges) :
    ∃ source ∈ stuckSteps steps edges, Leads (flowing steps edges) source id := by
  obtain ⟨all, hfree, hstuck, -⟩ := exists_stuckSteps hdistinct hends [] (by simp)
  rw [hstuck] at h ⊢
  obtain ⟨hid, hleft⟩ := List.mem_filter.mp h
  have hpending := mt (hfree id hid).mpr (of_decide_eq_true hleft)
  rw [pending_eq_zero_iff, not_forall] at hpending
  obtain ⟨source, hsource⟩ := hpending
  obtain ⟨⟨edge, hedge, rfl, htarget⟩, hout⟩ := Classical.not_imp.mp hsource
  exact ⟨edge.source, List.mem_filter.mpr
    ⟨(hends edge (List.mem_filter.mp hedge).1).1, decide_eq_true hout⟩, edge, hedge, rfl, htarget⟩

/-- Steps each of which is entered from one of them are left over. -/
theorem subset_stuckSteps {closed : List String} (hsub : closed ⊆ steps.map Step.id)
    (hclosed : ∀ id ∈ closed, ∃ source ∈ closed, Leads (flowing steps edges) source id) :
    closed ⊆ stuckSteps steps edges := by
  obtain ⟨all, -, hstuck, hout⟩ := exists_stuckSteps hdistinct hends closed hclosed
  intro id hid
  rw [hstuck]
  exact List.mem_filter.mpr ⟨hsub hid, decide_eq_true fun hall => hout id hall hid⟩

/-- What is left over stands in the order of the declaration. -/
theorem stuckSteps_eq_filter :
    stuckSteps steps edges = (steps.map Step.id).filter fun id => id ∈ stuckSteps steps edges := by
  obtain ⟨all, -, hstuck, -⟩ := exists_stuckSteps hdistinct hends [] (by simp)
  rw [hstuck]
  exact List.filter_congr fun id hid => by simp [hid, List.mem_filter]

theorem trailsCycle_of_mem_stuckSteps (h : id ∈ stuckSteps steps edges) :
    TrailsCycle (Leads (flowing steps edges)) id := by
  have hback : ∀ next ∈ stuckSteps steps edges,
      Relation.ReflTransGen (Leads (flowing steps edges)) next id →
      ∃ source ∈ stuckSteps steps edges,
        Relation.ReflTransGen (Leads (flowing steps edges)) source id ∧
          Leads (flowing steps edges) source next := by
    intro next hnext hto
    obtain ⟨source, hsource, hleads⟩ := exists_leads_of_mem_stuckSteps hdistinct hends hnext
    exact ⟨source, hsource, .head hleads hto, hleads⟩
  obtain ⟨around, hcycle⟩ := exists_cycle_of_preceded ⟨id, h, .refl⟩ hback
  obtain ⟨_, ⟨_, hto⟩, _⟩ := Relation.TransGen.head'_iff.mp hcycle
  exact ⟨around, hcycle.lift (fun a => a) fun _ _ => And.left, hto⟩

theorem mem_stuckSteps_of_trailsCycle (hid : id ∈ steps.map Step.id)
    (h : TrailsCycle (Leads (flowing steps edges)) id) : id ∈ stuckSteps steps edges := by
  classical
  let trailing := (steps.map Step.id).filter fun id => TrailsCycle (Leads (flowing steps edges)) id
  have hmem : ∀ {id}, id ∈ steps.map Step.id → TrailsCycle (Leads (flowing steps edges)) id →
      id ∈ trailing := fun hid h => List.mem_filter.mpr ⟨hid, decide_eq_true h⟩
  have hclosed : ∀ next ∈ trailing, ∃ source ∈ trailing, Leads (flowing steps edges) source next := by
    intro next hnext
    obtain ⟨source, htrails, hleads⟩ :=
      TrailsCycle.exists_preceding (of_decide_eq_true (List.mem_filter.mp hnext).2)
    obtain ⟨edge, hedge, rfl, htarget⟩ := hleads
    exact ⟨edge.source, hmem (hends edge (List.mem_filter.mp hedge).1).1 htrails,
      edge, hedge, rfl, htarget⟩
  exact subset_stuckSteps hdistinct hends (fun _ h => (List.mem_filter.mp h).1) hclosed (hmem hid h)

end Left

end Graph

namespace Definition

variable {d : Definition}

/-- An edge leads from a step that waits for nobody to another step. -/
def Flows (d : Definition) (source target : String) : Prop :=
  (∃ step ∈ d.steps, step.id = source ∧ step.interactive = false) ∧
    Graph.Leads d.edges source target

theorem eq_of_id_eq (hdistinct : d.ids.Nodup) {a b : Step} (ha : a ∈ d.steps) (hb : b ∈ d.steps)
    (h : a.id = b.id) : a = b :=
  List.inj_on_of_nodup_map hdistinct ha hb h

theorem not_mem_waitingIds (hdistinct : d.ids.Nodup) {id : String} (hid : id ∈ d.ids) :
    id ∉ Graph.waitingIds d.steps ↔ ∃ step ∈ d.steps, step.id = id ∧ step.interactive = false := by
  constructor
  · intro hnot
    obtain ⟨step, hstep, rfl⟩ := List.mem_map.mp hid
    refine ⟨step, hstep, rfl, Bool.eq_false_iff.mpr fun hwaits => hnot ?_⟩
    exact List.mem_map_of_mem (List.mem_filter.mpr ⟨hstep, hwaits⟩)
  · rintro ⟨step, hstep, rfl, hflows⟩ hwaiting
    obtain ⟨other, hother, hsame⟩ := List.mem_map.mp hwaiting
    obtain ⟨hother, hwaits⟩ := List.mem_filter.mp hother
    rw [eq_of_id_eq hdistinct hother hstep hsame, hflows] at hwaits
    exact Bool.false_ne_true hwaits

theorem leads_flowing_iff (hdistinct : d.ids.Nodup)
    (hsource : ∀ edge ∈ d.edges, edge.source ∈ d.ids) {source target : String} :
    Graph.Leads (Graph.flowing d.steps d.edges) source target ↔ d.Flows source target := by
  constructor
  · rintro ⟨edge, hedge, rfl, rfl⟩
    obtain ⟨hedge, hflows⟩ := List.mem_filter.mp hedge
    refine ⟨(not_mem_waitingIds hdistinct (hsource edge hedge)).mp ?_, edge, hedge, rfl, rfl⟩
    simpa using hflows
  · rintro ⟨hflows, edge, hedge, rfl, rfl⟩
    have hnot := (not_mem_waitingIds hdistinct (hsource edge hedge)).mpr hflows
    exact ⟨edge, List.mem_filter.mpr ⟨hedge, by simpa using hnot⟩, rfl, rfl⟩

theorem leads_flowing (hdistinct : d.ids.Nodup)
    (hsource : ∀ edge ∈ d.edges, edge.source ∈ d.ids) :
    Graph.Leads (Graph.flowing d.steps d.edges) = d.Flows := by
  funext source target
  exact propext (leads_flowing_iff hdistinct hsource)

/-- The steps left over are those that the routine comes to from going around without waiting. -/
theorem mem_stuckSteps_iff (hdistinct : d.ids.Nodup)
    (hends : ∀ edge ∈ d.edges, edge.source ∈ d.ids ∧ edge.target ∈ d.ids) {id : String} :
    id ∈ Graph.stuckSteps d.steps d.edges ↔ id ∈ d.ids ∧ Graph.TrailsCycle d.Flows id := by
  rw [← leads_flowing hdistinct fun edge hedge => (hends edge hedge).1]
  constructor
  · intro h
    rw [Graph.stuckSteps_eq_filter hdistinct hends] at h
    obtain ⟨hid, hleft⟩ := List.mem_filter.mp h
    exact ⟨hid, Graph.trailsCycle_of_mem_stuckSteps hdistinct hends (of_decide_eq_true hleft)⟩
  · exact fun h => Graph.mem_stuckSteps_of_trailsCycle hdistinct hends h.1 h.2

/-- Steps are left over exactly when the routine could go around without waiting. -/
theorem stuckSteps_eq_nil_iff (hdistinct : d.ids.Nodup)
    (hends : ∀ edge ∈ d.edges, edge.source ∈ d.ids ∧ edge.target ∈ d.ids) :
    Graph.stuckSteps d.steps d.edges = [] ↔ ∀ id, ¬ Relation.TransGen d.Flows id id := by
  simp only [List.eq_nil_iff_forall_not_mem, mem_stuckSteps_iff hdistinct hends]
  constructor
  · intro hnone id hcycle
    obtain ⟨next, ⟨-, edge, hedge, rfl, -⟩, -⟩ := Relation.TransGen.head'_iff.mp hcycle
    exact hnone edge.source ⟨(hends edge hedge).1, edge.source, hcycle, .refl⟩
  · rintro hacyclic id ⟨-, around, hcycle, -⟩
    exact hacyclic around hcycle

end Definition

end Workflow
