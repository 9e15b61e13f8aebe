import Workflow.Engine.Lifecycle
import Workflow.Proofs.Identifier

/-!
# Routines and their recorded versions

The routines and the snapshots are two lists that are written separately. `Memory.Chronicled` says
how they belong together: each routine has the versions from one on without a gap, in the order in
which they were recorded, and its own definition is the one recorded under its version number.
`Memory.Extends` compares the records of two moments: recorded versions stay, version numbers do not
go back, and an archived routine stays as it is.
-/

namespace Workflow

namespace Snapshot

/-- The version numbers from one to a number. -/
def numbers (n : Nat) : List Int := (List.range n).map fun (k : Nat) => (k : Int) + 1

theorem numbers_succ (n : Nat) : numbers (n + 1) = numbers n ++ [(n : Int) + 1] := by
  rw [numbers, List.range_succ, List.map_append]
  rfl

theorem mem_numbers {n : Nat} {v : Int} : v ∈ numbers n ↔ 1 ≤ v ∧ v ≤ n := by
  rw [numbers, List.mem_map]
  constructor
  · rintro ⟨k, hk, rfl⟩
    have := List.mem_range.mp hk
    omega
  · rintro ⟨hpos, hle⟩
    exact ⟨(v - 1).toNat, List.mem_range.mpr (by omega), by omega⟩

theorem pairwise_numbers (n : Nat) : (numbers n).Pairwise (· < ·) := by
  rw [numbers, List.pairwise_map]
  exact List.pairwise_lt_range.imp fun hlt => by omega

theorem foldl_max_numbers (n : Nat) : (numbers n).foldl max 0 = n := by
  induction n with
  | zero => rfl
  | succ n ih =>
      rw [numbers_succ, List.foldl_append, ih]
      simp only [List.foldl_cons, List.foldl_nil]
      omega

/-- The versions count from one and none is left out or taken twice. -/
def Contiguous (history : List Snapshot) : Prop := history.map version = numbers history.length

namespace Contiguous

variable {history : List Snapshot}

theorem nil : Contiguous [] := rfl

theorem append (h : Contiguous history) {snapshot : Snapshot}
    (next : snapshot.version = history.length + 1) : Contiguous (history ++ [snapshot]) := by
  rw [Contiguous, List.map_append, h, List.length_append, List.length_singleton, numbers_succ,
    List.map_singleton, next]

theorem mem_iff (h : Contiguous history) {v : Int} :
    (∃ s ∈ history, s.version = v) ↔ 1 ≤ v ∧ v ≤ history.length := by
  rw [← mem_numbers, ← h, List.mem_map]

/-- Versions that are recorded in order need no sorting. -/
theorem sorted_eq (h : Contiguous history) : sorted history = history := by
  have hpairwise : (history.map version).Pairwise (· < ·) := by
    rw [h]
    exact pairwise_numbers history.length
  rw [List.pairwise_map] at hpairwise
  exact List.mergeSort_of_pairwise (hpairwise.imp fun hlt => decide_eq_true (Int.le_of_lt hlt))

theorem nextVersion_eq (h : Contiguous history) :
    Engine.nextVersion history = history.length + 1 := by
  rw [Engine.nextVersion, h, foldl_max_numbers]

end Contiguous

end Snapshot

namespace Routine

/-- What may become of a routine: its version number does not go back, and when it is archived it
keeps its status, its definition and its version number. -/
structure Succeeds (r r' : Routine) : Prop where
  version : r.version ≤ r'.version
  archived : r.status = .archived →
    r'.status = .archived ∧ r'.definition = r.definition ∧ r'.version = r.version

namespace Succeeds

variable {r r' r'' : Routine}

theorem refl (r : Routine) : r.Succeeds r := ⟨Int.le_refl _, fun h => ⟨h, rfl, rfl⟩⟩

theorem trans (first : r.Succeeds r') (rest : r'.Succeeds r'') : r.Succeeds r'' := by
  refine ⟨Int.le_trans first.version rest.version, fun h => ?_⟩
  obtain ⟨hstatus, hdefinition, hversion⟩ := first.archived h
  obtain ⟨hstatus', hdefinition', hversion'⟩ := rest.archived hstatus
  exact ⟨hstatus', hdefinition'.trans hdefinition, hversion'.trans hversion⟩

end Succeeds

end Routine

namespace Memory

/-- The snapshots of a routine, in the order in which they were recorded. -/
def history (records : Memory) (id : String) : List Snapshot :=
  records.snapshots.filter fun snapshot => snapshot.routine = id

/-- The next version is not recorded. -/
theorem snapshot?_eq_none {records : Memory} {id : String}
    (h : Snapshot.Contiguous (records.history id)) :
    records.snapshot? id ((records.history id).length + 1) = none := by
  apply List.find?_eq_none.mpr
  intro s hs hkey
  simp only [Bool.and_eq_true, decide_eq_true_eq] at hkey
  have hmem : s ∈ records.history id := List.mem_filter.mpr ⟨hs, by simpa using hkey.1⟩
  have := h.mem_iff.mp ⟨s, hmem, hkey.2⟩
  omega

theorem listSnapshots_eq {records : Memory} {id : String}
    (h : Snapshot.Contiguous (records.history id)) :
    records.listSnapshots id = records.history id := h.sorted_eq

/-- The routines and the snapshots belong together, and no routine has an identifier that is still
to be given. -/
structure Chronicled (made : Nat) (records : Memory) : Prop where
  named : ∀ r ∈ records.routines, ∃ n < made, r.id = Identifier.ofNumber n
  owned : ∀ s ∈ records.snapshots, ∃ r ∈ records.routines, r.id = s.routine
  contiguous : ∀ id, Snapshot.Contiguous (records.history id)
  current : ∀ r ∈ records.routines,
    ∃ s ∈ records.history r.id, s.version = r.version ∧ s.definition = r.definition

namespace Chronicled

variable {made : Nat} {records : Memory}

theorem empty : Chronicled made {} :=
  ⟨nofun, nofun, fun _ => rfl, nofun⟩

theorem version_bounds (h : Chronicled made records) {r : Routine} (hr : r ∈ records.routines) :
    1 ≤ r.version ∧ r.version ≤ (records.history r.id).length := by
  obtain ⟨s, hs, hversion, _⟩ := h.current r hr
  exact (h.contiguous r.id).mem_iff.mp ⟨s, hs, hversion⟩

end Chronicled

/-- Recorded versions stay as they are, and every routine stays and is succeeded. -/
structure Extends (before after : Memory) : Prop where
  history : ∀ id, before.history id <+: after.history id
  routine : ∀ id r, before.routine? id = some r →
    ∃ r', after.routine? id = some r' ∧ r.Succeeds r'

namespace Extends

variable {before between after : Memory}

theorem refl (records : Memory) : records.Extends records :=
  ⟨fun _ => List.prefix_rfl, fun _ r h => ⟨r, h, .refl r⟩⟩

theorem trans (first : before.Extends between) (rest : between.Extends after) :
    before.Extends after := by
  refine ⟨fun id => (first.history id).trans (rest.history id), fun id r h => ?_⟩
  obtain ⟨r', h', hr'⟩ := first.routine id r h
  obtain ⟨r'', h'', hr''⟩ := rest.routine id r' h'
  exact ⟨r'', h'', hr'.trans hr''⟩

end Extends

end Memory

end Workflow
