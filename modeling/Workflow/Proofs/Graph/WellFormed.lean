import Workflow.Graph.Basic
import Workflow.Proofs.Graph.Cycle

/-!
# Well-formed definitions

`Definition.WellFormed` says what a routine may look like without saying how it is checked. The
checks report nothing exactly for the definitions that are well-formed. Each check has a lemma about
when it reports nothing; some of them look only at the edges that connect steps, and when the ends
of all edges are steps these are all the edges.
-/

namespace Workflow

/-- A handle stands for going on without a choice when it is missing, empty or the one for it. -/
theorem Edge.isDefault_iff {edge : Edge} :
    edge.isDefault = true ↔
      edge.handle = none ∨ edge.handle = some "" ∨ edge.handle = some "continue" := by
  rcases edge with ⟨source, target, _ | handle⟩
  · simp [isDefault]
  · simp only [isDefault, Bool.or_eq_true, decide_eq_true_eq]
    simp [continueHandle]

/-- A kind of its own is told by its name alone. -/
theorem StepKind.ofName_eq_iff {kind : StepKind} (h : kind ≠ .unknown) {s : String} :
    ofName s = kind ↔ s = kind.name := by
  constructor
  · intro heq
    cases hfind : known.find? fun kind => kind.name = s with
    | none =>
        rw [ofName, hfind] at heq
        exact absurd heq.symm h
    | some found =>
        obtain rfl : found = kind := by simpa [ofName, hfind] using heq
        have hname := List.find?_some hfind
        exact (of_decide_eq_true hname).symm
  · rintro rfl
    exact ofName_name kind

theorem Step.isTrigger_iff {step : Step} : step.isTrigger = true ↔ step.type = "trigger" := by
  rw [isTrigger, decide_eq_true_eq, kind, StepKind.ofName_eq_iff (by decide)]
  rfl

theorem Step.interactive_iff {step : Step} :
    step.interactive = true ↔ step.type = "buttons" ∨ step.type = "wait_input" := by
  have hbuttons : step.kind = .buttons ↔ step.type = "buttons" :=
    StepKind.ofName_eq_iff (by decide)
  have hinput : step.kind = .waitInput ↔ step.type = "wait_input" :=
    StepKind.ofName_eq_iff (by decide)
  rw [← hbuttons, ← hinput, interactive]
  cases step.kind <;> simp [StepKind.interactive]

/-- What a routine may look like under the rules. -/
structure Definition.WellFormed (rules : Graph.Rules) (d : Definition) : Prop where
  /-- There are no more steps than allowed. -/
  size : ∀ limit, rules.maxSteps = some limit → d.steps.length ≤ limit
  /-- Ids tell the steps apart. -/
  distinct : d.ids.Nodup
  /-- One step starts the routine. -/
  trigger : ∃! step, step ∈ d.steps ∧ step.type = "trigger"
  /-- Edges lead from steps to steps. -/
  ends : ∀ edge ∈ d.edges, edge.source ∈ d.ids ∧ edge.target ∈ d.ids
  /-- No edge leads to the trigger. -/
  start : ∀ step ∈ d.steps, step.type = "trigger" → ∀ edge ∈ d.edges, edge.target ≠ step.id
  /-- Some edge leads to every other step. -/
  entered : ∀ step ∈ d.steps, step.type ≠ "trigger" → ∃ edge ∈ d.edges, edge.target = step.id
  /-- The trigger is left by at most one edge, and this one needs no choice. -/
  leaving : ∀ step ∈ d.steps, step.type = "trigger" →
    (d.edges.countP fun edge => edge.source = step.id) ≤ 1 ∧
      ∀ edge ∈ d.edges, edge.source = step.id →
        edge.handle = none ∨ edge.handle = some "" ∨ edge.handle = some "continue"
  /-- At most one edge of a step needs no choice, when the rules say so. -/
  unambiguous : rules.strict = true → ∀ step ∈ d.steps,
    (d.edges.countP fun edge => edge.source = step.id && edge.isDefault) ≤ 1
  /-- No run of edges that leave steps without waiting comes back to where it began. -/
  acyclic : ∀ id, ¬ Relation.TransGen d.Flows id id

namespace Graph

variable {rules : Rules} {d : Definition} {edges : List Edge} {ids : List String} {id : String}

theorem tooLarge_eq_nil_iff :
    tooLarge rules d = [] ↔ ∀ limit, rules.maxSteps = some limit → d.steps.length ≤ limit := by
  unfold tooLarge
  cases rules.maxSteps with
  | none => simp
  | some limit => simp

theorem repeatedIds_eq_nil_iff {seen : List String} :
    repeatedIds seen ids = [] ↔ ids.Nodup ∧ ∀ id ∈ ids, id ∉ seen := by
  induction ids generalizing seen with
  | nil => simp [repeatedIds]
  | cons id rest ih =>
      by_cases hseen : id ∈ seen
      · simp [repeatedIds, hseen]
      · simp only [repeatedIds, List.contains_iff_mem, hseen, if_false, ih, List.nodup_cons,
          List.mem_cons, forall_eq_or_imp]
        grind

theorem triggerCount_eq_nil_iff : triggerCount d = [] ↔ ∃ step, d.triggers = [step] := by
  unfold triggerCount
  split <;> simp_all

theorem danglingEnds_eq_nil_iff {edge : Edge} :
    danglingEnds ids edge = [] ↔ edge.source ∈ ids ∧ edge.target ∈ ids := by
  by_cases hs : edge.source ∈ ids <;> by_cases ht : edge.target ∈ ids <;>
    simp [danglingEnds, hs, ht]

theorem filter_connects_eq (h : ∀ edge ∈ edges, edge.source ∈ ids ∧ edge.target ∈ ids) :
    edges.filter (connects ids) = edges := by
  refine List.filter_eq_self.mpr fun edge hedge => ?_
  simpa [connects] using h edge hedge

theorem mem_triggerIds :
    id ∈ triggerIds d ↔ ∃ step ∈ d.steps, step.type = "trigger" ∧ step.id = id := by
  simp [triggerIds, Definition.triggers, Step.isTrigger_iff, and_assoc]

theorem enteredTriggers_eq_nil_iff :
    enteredTriggers d edges = [] ↔ ∀ id ∈ triggerIds d, ∀ edge ∈ edges, edge.target ≠ id := by
  rw [enteredTriggers, List.eq_nil_iff_forall_not_mem]
  simp

theorem unreachableSteps_eq_nil_iff :
    unreachableSteps d edges = [] ↔
      ∀ id ∈ d.ids, id ∉ triggerIds d → ∃ edge ∈ edges, edge.target = id := by
  simp [unreachableSteps, List.filter_eq_nil_iff]

theorem triggerExit_eq_nil_iff :
    triggerExit edges id = [] ↔
      (edges.countP fun edge => edge.source = id) ≤ 1 ∧
        ∀ edge ∈ edges, edge.source = id → edge.isDefault = true := by
  rw [triggerExit, List.append_eq_nil_iff, List.countP_eq_length_filter]
  refine and_congr ?_ ?_
  · rw [ite_eq_right_iff, edgesFrom]
    simp
  · simp [edgesFrom]

theorem ambiguousDefault_eq_nil_iff :
    ambiguousDefault edges id = [] ↔
      (edges.countP fun edge => edge.source = id && edge.isDefault) ≤ 1 := by
  have hsame : (edgesFrom edges id).filter Edge.isDefault =
      edges.filter fun edge => edge.source = id && edge.isDefault := by
    rw [edgesFrom, List.filter_filter]
    exact List.filter_congr fun edge _ => Bool.and_comm _ _
  rw [ambiguousDefault, List.countP_eq_length_filter, hsame]
  simp

end Graph

namespace Definition

variable {rules : Graph.Rules} {d : Definition}

theorem existsUnique_trigger_iff (hdistinct : d.ids.Nodup) :
    (∃ step, d.triggers = [step]) ↔ ∃! step, step ∈ d.steps ∧ step.type = "trigger" := by
  have hmem : ∀ step, step ∈ d.triggers ↔ step ∈ d.steps ∧ step.type = "trigger" := fun step => by
    rw [triggers, List.mem_filter, Step.isTrigger_iff]
  constructor
  · rintro ⟨step, htriggers⟩
    refine ⟨step, (hmem step).mp (htriggers ▸ List.mem_singleton_self step), fun other hother => ?_⟩
    have := (hmem other).mpr hother
    rw [htriggers] at this
    exact List.mem_singleton.mp this
  · rintro ⟨step, hstep, honly⟩
    have hnodup : d.triggers.Nodup := (List.Nodup.of_map _ hdistinct).filter _
    have hsame : ∀ other, other ∈ d.triggers ↔ other ∈ [step] := by
      intro other
      rw [hmem, List.mem_singleton]
      exact ⟨honly other, fun heq => heq ▸ hstep⟩
    have hperm : d.triggers.Perm [step] :=
      (List.perm_ext_iff_of_nodup hnodup (List.nodup_singleton step)).mpr hsame
    exact ⟨step, List.perm_singleton.mp hperm⟩

theorem not_mem_triggerIds_iff (hdistinct : d.ids.Nodup) {step : Step} (hstep : step ∈ d.steps) :
    step.id ∉ Graph.triggerIds d ↔ step.type ≠ "trigger" := by
  rw [not_iff_not, Graph.mem_triggerIds]
  constructor
  · rintro ⟨other, hother, htype, hid⟩
    exact eq_of_id_eq hdistinct hother hstep hid ▸ htype
  · exact fun htype => ⟨step, hstep, htype, rfl⟩

theorem wellFormed_of_violations_eq_nil (h : Graph.violations rules d = []) :
    d.WellFormed rules := by
  simp only [Graph.violations, List.append_eq_nil_iff, List.map_eq_nil_iff,
    List.flatMap_eq_nil_iff] at h
  obtain ⟨⟨⟨⟨⟨⟨⟨⟨hsize, hrepeated⟩, htrigger⟩, hends⟩, hentered⟩, hreached⟩, hexit⟩, hdefault⟩,
    hcycle⟩ := h
  have hdistinct := (Graph.repeatedIds_eq_nil_iff.mp hrepeated).1
  have ends := fun edge hedge => Graph.danglingEnds_eq_nil_iff.mp (hends edge hedge)
  rw [Graph.filter_connects_eq ends] at hentered hreached hexit hdefault hcycle
  refine ⟨Graph.tooLarge_eq_nil_iff.mp hsize, hdistinct, ?trigger, ends, ?start, ?entered, ?leaving,
    ?unambiguous, ?acyclic⟩
  case trigger =>
    exact (existsUnique_trigger_iff hdistinct).mp (Graph.triggerCount_eq_nil_iff.mp htrigger)
  case start =>
    intro step hstep htype
    exact Graph.enteredTriggers_eq_nil_iff.mp hentered step.id
      (Graph.mem_triggerIds.mpr ⟨step, hstep, htype, rfl⟩)
  case entered =>
    intro step hstep htype
    exact Graph.unreachableSteps_eq_nil_iff.mp hreached step.id (List.mem_map_of_mem hstep)
      ((not_mem_triggerIds_iff hdistinct hstep).mpr htype)
  case leaving =>
    intro step hstep htype
    obtain ⟨hcount, hall⟩ := Graph.triggerExit_eq_nil_iff.mp
      (hexit step.id (Graph.mem_triggerIds.mpr ⟨step, hstep, htype, rfl⟩))
    exact ⟨hcount, fun edge hedge hsource => Edge.isDefault_iff.mp (hall edge hedge hsource)⟩
  case unambiguous =>
    intro hstrict step _
    rw [if_pos hstrict, List.flatMap_eq_nil_iff] at hdefault
    by_cases hleft : step.id ∈ d.edges.map Edge.source
    · exact Graph.ambiguousDefault_eq_nil_iff.mp
        (hdefault step.id (List.mem_eraseDups.mpr hleft))
    · refine (List.countP_eq_zero.mpr fun edge hedge => ?_).trans_le (Nat.zero_le 1)
      have hne : edge.source ≠ step.id := fun heq => hleft (heq ▸ List.mem_map_of_mem hedge)
      simp [hne]
  case acyclic =>
    refine (stuckSteps_eq_nil_iff hdistinct ends).mp ?_
    by_contra hstuck
    simp [hrepeated, hstuck] at hcycle

theorem violations_eq_nil_of_wellFormed (h : d.WellFormed rules) :
    Graph.violations rules d = [] := by
  have hrepeated : Graph.repeatedIds [] d.ids = [] :=
    Graph.repeatedIds_eq_nil_iff.mpr ⟨h.distinct, fun _ _ => List.not_mem_nil⟩
  have hacyclic := (stuckSteps_eq_nil_iff h.distinct h.ends).mpr
    h.acyclic
  have htrigger : ∀ id ∈ Graph.triggerIds d,
      ∃ step ∈ d.steps, step.type = "trigger" ∧ step.id = id := fun id hid =>
    Graph.mem_triggerIds.mp hid
  simp only [Graph.violations, Graph.filter_connects_eq h.ends, List.append_eq_nil_iff,
    List.map_eq_nil_iff, List.flatMap_eq_nil_iff]
  refine ⟨⟨⟨⟨⟨⟨⟨⟨Graph.tooLarge_eq_nil_iff.mpr h.size, hrepeated⟩, ?trigger⟩, ?ends⟩, ?start⟩,
    ?entered⟩, ?leaving⟩, ?unambiguous⟩, ?acyclic⟩
  case trigger =>
    exact Graph.triggerCount_eq_nil_iff.mpr ((existsUnique_trigger_iff h.distinct).mpr h.trigger)
  case ends => exact fun edge hedge => Graph.danglingEnds_eq_nil_iff.mpr (h.ends edge hedge)
  case start =>
    refine Graph.enteredTriggers_eq_nil_iff.mpr fun id hid => ?_
    obtain ⟨step, hstep, htype, rfl⟩ := htrigger id hid
    exact h.start step hstep htype
  case entered =>
    refine Graph.unreachableSteps_eq_nil_iff.mpr fun id hid hnot => ?_
    obtain ⟨step, hstep, rfl⟩ := List.mem_map.mp hid
    exact h.entered step hstep ((not_mem_triggerIds_iff h.distinct hstep).mp hnot)
  case leaving =>
    intro id hid
    obtain ⟨step, hstep, htype, rfl⟩ := htrigger id hid
    obtain ⟨hcount, hall⟩ := h.leaving step hstep htype
    exact Graph.triggerExit_eq_nil_iff.mpr
      ⟨hcount, fun edge hedge hsource => Edge.isDefault_iff.mpr (hall edge hedge hsource)⟩
  case unambiguous =>
    split
    · refine List.flatMap_eq_nil_iff.mpr fun id hid => Graph.ambiguousDefault_eq_nil_iff.mpr ?_
      obtain ⟨edge, hedge, rfl⟩ := List.mem_map.mp (List.mem_eraseDups.mp hid)
      obtain ⟨step, hstep, hsource⟩ := List.mem_map.mp (h.ends edge hedge).1
      exact hsource ▸ h.unambiguous ‹_› step hstep
    · rfl
  case acyclic => simp [hrepeated, hacyclic]

/-- Nothing is found wrong with a definition exactly when it is well-formed. -/
theorem violations_eq_nil_iff_wellFormed (rules : Graph.Rules) (d : Definition) :
    Graph.violations rules d = [] ↔ d.WellFormed rules :=
  ⟨wellFormed_of_violations_eq_nil, violations_eq_nil_of_wellFormed⟩

end Definition

end Workflow
