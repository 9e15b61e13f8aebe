import Mathlib.Data.List.Nodup
import Workflow.Proofs.Lifecycle.Call

/-!
# The share of a scope

Every record but a template belongs to a routine, and a routine belongs to one scope. The records of
some routines are a part of all records, `Memory.only`, and those of the routines of a scope are the
share of the scope. What is asked about a routine is answered from any part that it is in, and what
is written for a routine changes only the parts it is in. `Memory.Tidy` says that records belong
together, also halfway through a call.
-/

namespace Workflow.Memory

/-- The records of some routines. Templates belong to everybody. -/
def only (records : Memory) (mine : String → Bool) : Memory :=
  { templates := records.templates
    routines := records.routines.filter fun r => mine r.id
    snapshots := records.snapshots.filter fun s => mine s.routine
    entries := records.entries.filter fun e => mine e.routine }

/-- The scope has a routine with the id. -/
def belongs (records : Memory) (scope id : String) : Bool :=
  records.routines.any fun r => r.id = id && r.scope = scope

/-- The records of the routines of a scope. -/
def share (records : Memory) (scope : String) : Memory := records.only (records.belongs scope)

/-- Routines have identifiers of their own that were given before, every snapshot and every entry
belongs to a routine, and what is stored can be read back. -/
structure Tidy (made : Nat) (records : Memory) : Prop where
  named : ∀ r ∈ records.routines, ∃ n < made, r.id = Identifier.ofNumber n
  distinct : (records.routines.map Routine.id).Nodup
  readable : records.Readable
  recorded : ∀ s ∈ records.snapshots, ∃ r ∈ records.routines, r.id = s.routine
  audited : ∀ e ∈ records.entries, ∃ r ∈ records.routines, r.id = e.routine
  dated : ∀ e ∈ records.entries, ∃ n < made, e.id = Identifier.ofNumber n

variable {records : Memory} {mine : String → Bool} {scope id : String} {made : Nat}

theorem belongs_iff :
    records.belongs scope id = true ↔ ∃ r ∈ records.routines, r.id = id ∧ r.scope = scope := by
  simp only [belongs, List.any_eq_true, Bool.and_eq_true, decide_eq_true_eq]

/-- Whether a routine belongs to the scope can be seen from the share of the scope. -/
theorem belongs_share (records : Memory) (scope : String) :
    (records.share scope).belongs scope = records.belongs scope := by
  funext id
  rw [Bool.eq_iff_iff, belongs_iff, belongs_iff]
  constructor
  · rintro ⟨r, hr, hid, hscope⟩
    exact ⟨r, (List.mem_filter.mp hr).1, hid, hscope⟩
  · rintro ⟨r, hr, rfl, hscope⟩
    exact ⟨r, List.mem_filter.mpr ⟨hr, belongs_iff.mpr ⟨r, hr, rfl, hscope⟩⟩, rfl, hscope⟩

section Asking

theorem routine?_only (h : mine id = true) : (records.only mine).routine? id = records.routine? id := by
  rw [routine?, routine?, Keyed.find?, Keyed.find?, only, List.find?_filter]
  refine congrArg (List.find? · _) (funext fun r => ?_)
  by_cases hid : r.id = id <;> simp [hid, h]

theorem listSnapshots_only (h : mine id = true) :
    (records.only mine).listSnapshots id = records.listSnapshots id := by
  rw [listSnapshots, listSnapshots, only, List.filter_filter]
  refine congrArg Snapshot.sorted (List.filter_congr fun s _ => ?_)
  by_cases hid : s.routine = id <;> simp [hid, h]

theorem snapshot?_only (h : mine id = true) (version : Int) :
    (records.only mine).snapshot? id version = records.snapshot? id version := by
  rw [snapshot?, snapshot?, only, List.find?_filter]
  refine congrArg (List.find? · _) (funext fun s => ?_)
  by_cases hid : s.routine = id <;> simp [hid, h]

theorem entriesOf_only (h : mine id = true) :
    (records.only mine).entriesOf id = records.entriesOf id := by
  rw [entriesOf, entriesOf, only, List.filter_filter]
  refine List.filter_congr fun e _ => ?_
  by_cases hid : e.routine = id <;> simp [hid, h]

end Asking

section Writing

theorem only_insertSnapshot {snapshot : Snapshot} (h : mine snapshot.routine = true) :
    (records.insertSnapshot snapshot).only mine = (records.only mine).insertSnapshot snapshot := by
  simp [only, insertSnapshot, h]

theorem only_insertSnapshot_of_not {snapshot : Snapshot} (h : mine snapshot.routine = false) :
    (records.insertSnapshot snapshot).only mine = records.only mine := by
  simp [only, insertSnapshot, h]

theorem only_appendEntry {entry : Entry} (h : mine entry.routine = true) :
    (records.appendEntry entry).only mine = (records.only mine).appendEntry entry := by
  simp [only, appendEntry, h]

theorem only_appendEntry_of_not {entry : Entry} (h : mine entry.routine = false) :
    (records.appendEntry entry).only mine = records.only mine := by
  simp [only, appendEntry, h]

variable {f : Routine → Routine}

theorem only_updateRoutine (hf : ∀ r, (f r).id = r.id) (records : Memory) (mine : String → Bool)
    (id : String) :
    (records.updateRoutine id f).only mine = (records.only mine).updateRoutine id f := by
  have hid (r : Routine) : (if r.id = id then f r else r).id = r.id := by
    split
    · exact hf r
    · rfl
  simp only [only, updateRoutine, Keyed.update, List.filter_map]
  congr 2
  exact List.filter_congr fun r _ => congrArg mine (hid r)

theorem updateRoutine_of_not_mem (h : ∀ r ∈ records.routines, r.id ≠ id) :
    records.updateRoutine id f = records := by
  have hsame : Keyed.update Routine.id id f records.routines = records.routines :=
    (List.map_congr_left fun r hr => if_neg (h r hr)).trans (List.map_id _)
  rw [updateRoutine, hsame]

theorem only_updateRoutine_of_not (hf : ∀ r, (f r).id = r.id) (h : mine id = false) :
    (records.updateRoutine id f).only mine = records.only mine := by
  rw [only_updateRoutine hf, updateRoutine_of_not_mem]
  intro r hr heq
  have hmine := (List.mem_filter.mp hr).2
  rw [heq, h] at hmine
  cases hmine

theorem belongs_updateRoutine (hf : ∀ r, (f r).id = r.id ∧ (f r).scope = r.scope) (id : String) :
    (records.updateRoutine id f).belongs scope = records.belongs scope := by
  funext other
  simp only [belongs, updateRoutine, Keyed.update, List.any_map]
  congr 1
  funext r
  by_cases hid : r.id = id <;> simp [hid, hf r]

end Writing

namespace Tidy

theorem empty (made : Nat) (templates : List Template) : Tidy made { templates } :=
  ⟨nofun, .nil, nofun, nofun, nofun, nofun⟩

theorem mono (h : Tidy made records) {made' : Nat} (hle : made ≤ made') : Tidy made' records where
  named r hr := by
    obtain ⟨n, hn, hname⟩ := h.named r hr
    exact ⟨n, Nat.lt_of_lt_of_le hn hle, hname⟩
  distinct := h.distinct
  readable := h.readable
  recorded := h.recorded
  audited := h.audited
  dated e he := by
    obtain ⟨n, hn, hname⟩ := h.dated e he
    exact ⟨n, Nat.lt_of_lt_of_le hn hle, hname⟩

/-- A routine of a scope is found under its identifier. -/
theorem belongs_id (h : Tidy made records) {r : Routine} (hr : r ∈ records.routines) :
    records.belongs scope r.id = true ↔ r.scope = scope := by
  rw [belongs_iff]
  constructor
  · rintro ⟨r', hr', hid, rfl⟩
    rw [List.inj_on_of_nodup_map h.distinct hr' hr hid]
  · exact fun hscope => ⟨r, hr, rfl, hscope⟩

theorem ne_of_fresh (h : Tidy made records) {n : Nat} (hn : made ≤ n) :
    ∀ r ∈ records.routines, r.id ≠ Identifier.ofNumber n := by
  intro r hr heq
  obtain ⟨k, hk, hname⟩ := h.named r hr
  have := Identifier.ofNumber_injective (hname.symm.trans heq)
  omega

theorem insertSnapshot (h : Tidy made records) {snapshot : Snapshot}
    (owned : ∃ r ∈ records.routines, r.id = snapshot.routine) :
    Tidy made (records.insertSnapshot snapshot) where
  named := h.named
  distinct := h.distinct
  readable := h.readable
  recorded s hs := by
    rcases List.mem_append.mp hs with hs | hs
    · exact h.recorded s hs
    · rwa [List.mem_singleton.mp hs]
  audited := h.audited
  dated := h.dated

theorem appendEntry (h : Tidy made records) {entry : Entry}
    (owned : ∃ r ∈ records.routines, r.id = entry.routine)
    (named : ∃ n < made, entry.id = Identifier.ofNumber n) :
    Tidy made (records.appendEntry entry) where
  named := h.named
  distinct := h.distinct
  readable := h.readable
  recorded := h.recorded
  audited e he := by
    rcases List.mem_append.mp he with he | he
    · exact h.audited e he
    · rwa [List.mem_singleton.mp he]
  dated e he := by
    rcases List.mem_append.mp he with he | he
    · exact h.dated e he
    · rwa [List.mem_singleton.mp he]

theorem updateRoutine (h : Tidy made records) {f : Routine → Routine} (hid : ∀ r, (f r).id = r.id)
    (hversion : ∀ r, 1 ≤ r.version → 1 ≤ (f r).version) (id : String) :
    Tidy made (records.updateRoutine id f) := by
  have hname (r : Routine) : (if r.id = id then f r else r).id = r.id := by
    split
    · exact hid r
    · rfl
  have hids : (records.updateRoutine id f).routines.map Routine.id =
      records.routines.map Routine.id := by
    simp only [Memory.updateRoutine, Keyed.update, List.map_map]
    exact List.map_congr_left fun r _ => hname r
  have howner {other : String} (howner : ∃ r ∈ records.routines, r.id = other) :
      ∃ r ∈ (records.updateRoutine id f).routines, r.id = other := by
    obtain ⟨r, hr, rfl⟩ := howner
    exact ⟨_, List.mem_map_of_mem hr, hname r⟩
  refine ⟨?_, hids ▸ h.distinct, h.readable.updateRoutine hversion, fun s hs => howner (h.recorded s hs),
    fun e he => howner (h.audited e he), h.dated⟩
  intro r' hr'
  obtain ⟨r, hr, rfl⟩ := List.mem_map.mp hr'
  rw [hname]
  exact h.named r hr

section Apart

variable {other : String} (hne : scope ≠ other)

include hne

/-- A routine belongs to one scope. -/
theorem belongs_apart (h : Tidy made records) {id : String}
    (hid : records.belongs scope id = true) : records.belongs other id = false := by
  obtain ⟨r, hr, rfl, hscope⟩ := belongs_iff.mp hid
  rw [Bool.eq_false_iff, Ne, h.belongs_id hr, hscope]
  exact hne

theorem belongs_only (h : Tidy made records) :
    (records.only fun id => !records.belongs other id).belongs scope = records.belongs scope := by
  funext id
  rw [Bool.eq_iff_iff, belongs_iff, belongs_iff]
  constructor
  · rintro ⟨r, hr, hid, hscope⟩
    exact ⟨r, (List.mem_filter.mp hr).1, hid, hscope⟩
  · rintro ⟨r, hr, rfl, hscope⟩
    refine ⟨r, List.mem_filter.mpr ⟨hr, ?_⟩, rfl, hscope⟩
    exact congrArg not (h.belongs_apart hne ((h.belongs_id hr).mpr hscope))

/-- The share of a scope is left when the records of another scope are taken away. -/
theorem share_only (h : Tidy made records) :
    (records.only fun id => !records.belongs other id).share scope = records.share scope := by
  have hfilter (id : String) : (records.belongs scope id && !records.belongs other id) =
      records.belongs scope id := by
    cases hid : records.belongs scope id with
    | false => rfl
    | true => rw [h.belongs_apart hne hid, Bool.not_false, Bool.and_true]
  rw [share, share, h.belongs_only hne]
  simp only [only, List.filter_filter, hfilter]

end Apart

end Tidy

end Workflow.Memory
