import Workflow.Proofs.Lifecycle.Chronicle

/-!
# What a call can do to the records

Whatever is asked of the life of routines, the records change in one of the ways listed by
`Memory.Change`, each with what has to hold before and with what observers are told. Every way keeps
routines and versions together, and none takes back what is recorded.
-/

namespace Workflow.Memory

variable {rules : Graph.Rules} {made made' : Nat} {records after : Memory} {told : List Notice}

@[simp] theorem history_insertSnapshot_self (records : Memory) (snapshot : Snapshot) :
    (records.insertSnapshot snapshot).history snapshot.routine =
      records.history snapshot.routine ++ [snapshot] := by
  simp [history, insertSnapshot]

theorem history_insertSnapshot_of_ne (records : Memory) {snapshot : Snapshot} {id : String}
    (h : snapshot.routine ≠ id) :
    (records.insertSnapshot snapshot).history id = records.history id := by
  simp [history, insertSnapshot, h]

theorem routine?_updateRoutine_self {f : Routine → Routine} (hf : ∀ r, (f r).id = r.id)
    (records : Memory) (id : String) :
    (records.updateRoutine id f).routine? id = (records.routine? id).map f :=
  Keyed.find?_update_self hf id records.routines

theorem routine?_updateRoutine_of_ne {f : Routine → Routine} (hf : ∀ r, (f r).id = r.id)
    (records : Memory) {id other : String} (h : id ≠ other) :
    (records.updateRoutine id f).routine? other = records.routine? other :=
  Keyed.find?_update_of_ne hf h records.routines

theorem ne_of_routine?_eq_none {id : String} (missing : records.routine? id = none) :
    ∀ r ∈ records.routines, r.id ≠ id := by
  simpa [routine?, Keyed.find?] using missing

theorem routine?_addRoutine {routine : Routine} (hnew : records.routine? routine.id = none)
    (id : String) :
    ({ records with routines := records.routines ++ [routine] } : Memory).routine? id =
      if routine.id = id then some routine else records.routine? id := by
  have hput := Keyed.put_of_forall_ne (ne_of_routine?_eq_none hnew)
  rw [routine?, ← hput]
  split
  · rename_i heq
    exact heq ▸ Keyed.find?_put_self Routine.id routine records.routines
  · rename_i hne
    exact Keyed.find?_put_of_ne Routine.id routine hne records.routines

theorem mem_history_insertSnapshot {s snapshot : Snapshot} {id : String}
    (h : s ∈ records.history id) : s ∈ (records.insertSnapshot snapshot).history id := by
  by_cases heq : snapshot.routine = id
  · subst heq
    rw [history_insertSnapshot_self]
    exact List.mem_append_left _ h
  · rwa [history_insertSnapshot_of_ne records heq]

theorem mem_of_routine? {id : String} {r : Routine} (h : records.routine? id = some r) :
    r ∈ records.routines ∧ r.id = id :=
  ⟨List.mem_of_find?_eq_some h, by simpa using List.find?_some h⟩

/-- The routine with a definition and a version number of a snapshot. -/
def advanceTo (records : Memory) (snapshot : Snapshot) : Memory :=
  (records.insertSnapshot snapshot).updateRoutine snapshot.routine fun r =>
    { r with definition := snapshot.definition, version := snapshot.version }

theorem routine?_advanceTo {snapshot : Snapshot} {routine : Routine}
    (found : records.routine? snapshot.routine = some routine) :
    (records.advanceTo snapshot).routine? snapshot.routine =
      some { routine with definition := snapshot.definition, version := snapshot.version } := by
  rw [advanceTo, routine?_updateRoutine_self (by exact fun _ => rfl)]
  exact congrArg (Option.map _) found

/-- The snapshot is the next version of its routine. -/
def Continues (records : Memory) (snapshot : Snapshot) : Prop :=
  snapshot.version = (records.history snapshot.routine).length + 1

theorem contiguous_insertSnapshot (h : ∀ id, Snapshot.Contiguous (records.history id))
    {snapshot : Snapshot} (next : records.Continues snapshot) (other : String) :
    Snapshot.Contiguous ((records.insertSnapshot snapshot).history other) := by
  by_cases heq : snapshot.routine = other
  · subst heq
    rw [history_insertSnapshot_self]
    exact (h _).append next
  · rw [history_insertSnapshot_of_ne records heq]
    exact h other

/-- What observers are told of a snapshot. -/
def recordedNotice (snapshot : Snapshot) : Notice :=
  .versionCreated snapshot.routine snapshot.version snapshot.createdBy

/-- The ways the records change. -/
inductive Change (rules : Graph.Rules) (made : Nat) (records : Memory) :
    Nat → Memory → List Notice → Prop
  /-- Nothing is written. -/
  | kept : Change rules made records made records []
  /-- A routine is made, with its first version. -/
  | created (routine : Routine) {n : Nat} (fresh : made ≤ n)
      (named : routine.id = Identifier.ofNumber n) (active : routine.status = .active)
      (accepted : Graph.violations rules routine.definition = []) (snapshot : Snapshot)
      (first : snapshot = ⟨routine.id, 1, routine.definition, routine.createdBy⟩)
      (version : routine.version = 1) :
      Change rules made records (n + 1)
        ({ records with routines := records.routines ++ [routine] }.insertSnapshot snapshot)
        [recordedNotice snapshot]
  /-- A version of a routine is recorded and the routine stays as it is. -/
  | noted {routine : Routine} (snapshot : Snapshot)
      (found : records.routine? snapshot.routine = some routine)
      (next : records.Continues snapshot) :
      Change rules made records made (records.insertSnapshot snapshot) [recordedNotice snapshot]
  /-- A routine gets a definition that is accepted, or one it had before, as its next version. -/
  | advanced {routine : Routine} (snapshot : Snapshot)
      (found : records.routine? snapshot.routine = some routine)
      (editable : routine.status ≠ .archived) (next : records.Continues snapshot)
      (source : Graph.violations rules snapshot.definition = [] ∨
        ∃ s ∈ records.history snapshot.routine, s.definition = snapshot.definition) :
      Change rules made records made (records.advanceTo snapshot) [recordedNotice snapshot]
  /-- A routine goes into another status. -/
  | moved {routine : Routine} (id : String) (status : RoutineStatus)
      (found : records.routine? id = some routine) (allowed : routine.status.mayBecome status) :
      Change rules made records made (records.updateRoutine id fun r => { r with status })
        [.statusChanged id routine.status status]

namespace Chronicled

variable {snapshot : Snapshot} {id : String}

/-- No routine has an identifier that is still to be given. -/
theorem ne_of_fresh (h : Chronicled made records) {n : Nat} (fresh : made ≤ n)
    (named : id = Identifier.ofNumber n) : ∀ r ∈ records.routines, r.id ≠ id := by
  intro r hr heq
  obtain ⟨k, hk, hname⟩ := h.named r hr
  have := Identifier.ofNumber_injective (hname.symm.trans (heq.trans named))
  omega

theorem history_eq_nil (h : Chronicled made records) (hid : ∀ r ∈ records.routines, r.id ≠ id) :
    records.history id = [] := by
  apply List.filter_eq_nil_iff.mpr
  intro s hs howner
  obtain ⟨r, hr, heq⟩ := h.owned s hs
  exact hid r hr (heq.trans (by simpa using howner))

theorem insertSnapshot (h : Chronicled made records) {routine : Routine}
    (found : records.routine? snapshot.routine = some routine)
    (next : records.Continues snapshot) :
    Chronicled made (records.insertSnapshot snapshot) where
  named := h.named
  owned := by
    intro s hs
    rcases List.mem_append.mp hs with hs | hs
    · exact h.owned s hs
    · obtain rfl := List.mem_singleton.mp hs
      exact ⟨routine, mem_of_routine? found⟩
  contiguous := contiguous_insertSnapshot h.contiguous next
  current := by
    intro r hr
    obtain ⟨s, hs, hversion, hdefinition⟩ := h.current r hr
    exact ⟨s, mem_history_insertSnapshot hs, hversion, hdefinition⟩

theorem updateRoutine (h : Chronicled made records) {f : Routine → Routine}
    (hid : ∀ r, (f r).id = r.id)
    (hcurrent : ∀ r ∈ records.routines, r.id = id →
      ∃ s ∈ records.history id, s.version = (f r).version ∧ s.definition = (f r).definition) :
    Chronicled made (records.updateRoutine id f) where
  named := by
    intro r' hr'
    obtain ⟨r, hr, rfl⟩ := List.mem_map.mp hr'
    obtain ⟨n, hn, heq⟩ := h.named r hr
    refine ⟨n, hn, ?_⟩
    split
    · rw [hid, heq]
    · exact heq
  owned := by
    intro s hs
    obtain ⟨r, hr, heq⟩ := h.owned s hs
    refine ⟨_, List.mem_map_of_mem hr, ?_⟩
    split
    · rw [hid, heq]
    · exact heq
  contiguous := h.contiguous
  current := by
    intro r' hr'
    obtain ⟨r, hr, rfl⟩ := List.mem_map.mp hr'
    split
    · rename_i heq
      rw [hid, heq]
      exact hcurrent r hr heq
    · exact h.current r hr

theorem advanceTo (h : Chronicled made records) {routine : Routine}
    (found : records.routine? snapshot.routine = some routine)
    (next : records.Continues snapshot) : Chronicled made (records.advanceTo snapshot) := by
  refine (h.insertSnapshot found next).updateRoutine (fun _ => rfl) fun r _ _ => ?_
  exact ⟨snapshot, by simp, rfl, rfl⟩

/-- The new routine has the first version and no other. -/
theorem create (h : Chronicled made records) {routine : Routine} {n : Nat} (fresh : made ≤ n)
    (named : routine.id = Identifier.ofNumber n)
    (first : snapshot = ⟨routine.id, 1, routine.definition, routine.createdBy⟩)
    (version : routine.version = 1) :
    Chronicled (n + 1)
      ({ records with routines := records.routines ++ [routine] }.insertSnapshot snapshot) := by
  have hempty : records.history snapshot.routine = [] := by
    rw [first]
    exact h.history_eq_nil (h.ne_of_fresh fresh named)
  have hself : (records.insertSnapshot snapshot).history routine.id = [snapshot] := by
    have := history_insertSnapshot_self records snapshot
    rw [hempty] at this
    rwa [first] at this ⊢
  refine ⟨?named, ?owned, ?contiguous, ?current⟩
  case named =>
    intro r hr
    rcases List.mem_append.mp hr with hr | hr
    · obtain ⟨k, hk, hname⟩ := h.named r hr
      exact ⟨k, by omega, hname⟩
    · obtain rfl := List.mem_singleton.mp hr
      exact ⟨n, by omega, named⟩
  case owned =>
    intro s hs
    rcases List.mem_append.mp hs with hs | hs
    · obtain ⟨r, hr, heq⟩ := h.owned s hs
      exact ⟨r, List.mem_append_left _ hr, heq⟩
    · obtain rfl := List.mem_singleton.mp hs
      exact ⟨routine, List.mem_append_right _ (List.mem_singleton_self routine), by rw [first]⟩
  case contiguous =>
    refine contiguous_insertSnapshot h.contiguous ?_
    rw [Continues, hempty, first]
    rfl
  case current =>
    intro r hr
    rcases List.mem_append.mp hr with hr | hr
    · obtain ⟨s, hs, hversion, hdefinition⟩ := h.current r hr
      exact ⟨s, mem_history_insertSnapshot hs, hversion, hdefinition⟩
    · obtain rfl := List.mem_singleton.mp hr
      refine ⟨snapshot, ?_, by rw [first, version], by rw [first]⟩
      exact hself ▸ List.mem_singleton_self snapshot

end Chronicled

theorem Change.chronicled (h : Chronicled made records)
    (change : Change rules made records made' after told) : Chronicled made' after := by
  cases change with
  | kept => exact h
  | created routine fresh named _ _ snapshot first version =>
      exact h.create fresh named first version
  | noted snapshot found next => exact h.insertSnapshot found next
  | advanced snapshot found _ next _ => exact h.advanceTo found next
  | moved id status _ _ =>
      refine h.updateRoutine (fun _ => rfl) fun r hr heq => ?_
      exact heq ▸ h.current r hr

theorem extends_insertSnapshot (records : Memory) (snapshot : Snapshot) :
    records.Extends (records.insertSnapshot snapshot) where
  history := by
    intro id
    by_cases heq : snapshot.routine = id
    · subst heq
      exact ⟨[snapshot], (history_insertSnapshot_self records snapshot).symm⟩
    · exact ⟨[], by rw [history_insertSnapshot_of_ne records heq, List.append_nil]⟩
  routine := fun _ r found => ⟨r, found, .refl r⟩

theorem extends_updateRoutine {f : Routine → Routine} (hid : ∀ r, (f r).id = r.id)
    {id : String} (h : ∀ r, records.routine? id = some r → r.Succeeds (f r)) :
    records.Extends (records.updateRoutine id f) where
  history := fun _ => List.prefix_rfl
  routine := by
    intro other r found
    by_cases heq : id = other
    · subst heq
      refine ⟨f r, ?_, h r found⟩
      rw [routine?_updateRoutine_self hid, found]
      rfl
    · refine ⟨r, ?_, .refl r⟩
      rw [routine?_updateRoutine_of_ne hid records heq, found]

theorem extends_addRoutine (records : Memory) (routine : Routine) :
    records.Extends { records with routines := records.routines ++ [routine] } where
  history := fun _ => List.prefix_rfl
  routine := by
    intro id r found
    refine ⟨r, ?_, .refl r⟩
    simp only [routine?, Keyed.find?] at found ⊢
    rw [List.find?_append, found]
    rfl

theorem Change.entries_eq (change : Change rules made records made' after told) :
    after.entries = records.entries := by
  cases change <;> rfl

theorem Change.made_le (change : Change rules made records made' after told) : made ≤ made' := by
  cases change with
  | created _ fresh => exact Nat.le_succ_of_le fresh
  | kept | noted | advanced | moved => exact Nat.le_refl made

theorem Change.extends (h : Chronicled made records)
    (change : Change rules made records made' after told) : records.Extends after := by
  cases change with
  | kept => exact .refl records
  | created routine _ _ _ _ snapshot _ _ =>
      exact (extends_addRoutine records routine).trans (extends_insertSnapshot _ snapshot)
  | noted snapshot _ _ => exact extends_insertSnapshot records snapshot
  | advanced snapshot found editable next _ =>
      refine (extends_insertSnapshot records snapshot).trans
        (extends_updateRoutine (by exact fun _ => rfl) fun r found' => ?_)
      obtain rfl : _ = r := Option.some.inj (found.symm.trans found')
      refine ⟨?_, fun harchived => absurd harchived editable⟩
      have hbound := h.version_bounds (mem_of_routine? found).1
      rw [(mem_of_routine? found).2] at hbound
      change _ ≤ snapshot.version
      rw [next]
      omega
  | moved id status found allowed =>
      refine extends_updateRoutine (by exact fun _ => rfl) fun r found' => ?_
      obtain rfl : _ = r := Option.some.inj (found.symm.trans found')
      refine ⟨Int.le_refl _, fun harchived => ?_⟩
      rw [harchived, RoutineStatus.mayBecome_archived] at allowed
      exact absurd allowed Bool.false_ne_true

end Workflow.Memory
