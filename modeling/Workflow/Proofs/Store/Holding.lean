import Mathlib.Data.List.Nodup
import Workflow.Proofs.Operation
import Workflow.Proofs.Store.Row
import Workflow.Store.Basic

/-!
# Stores that hold records

A store in memory is its records. A store on tables holds records when its rows were written from
them. `StoreKind.hold` gives the store of either kind that holds given records, and each lemma says
what an operation on such a store answers and which records the store holds afterwards. Both kinds
are described by the same records, so what follows from these lemmas holds for both.

The kinds differ in one respect: a column takes only numbers of 64 bits, so the tables refuse some
version numbers. `StoreKind.Fits` says which numbers are taken.
-/

namespace Workflow

/-- Where a store keeps its records. -/
inductive StoreKind where
  | memory
  | tables
  deriving DecidableEq, Repr

/-- The tables whose rows were written from the given records. -/
def Tables.ofRecords (records : Memory) : Tables :=
  { templates := records.templates.map .ofTemplate
    routines := records.routines.map .ofRoutine
    versions := records.snapshots.map .ofSnapshot
    entries := records.entries.map .ofEntry }

namespace Tables

@[simp] theorem templates_ofRecords (records : Memory) :
    (ofRecords records).templates = records.templates.map .ofTemplate := rfl

@[simp] theorem routines_ofRecords (records : Memory) :
    (ofRecords records).routines = records.routines.map .ofRoutine := rfl

@[simp] theorem versions_ofRecords (records : Memory) :
    (ofRecords records).versions = records.snapshots.map .ofSnapshot := rfl

@[simp] theorem entries_ofRecords (records : Memory) :
    (ofRecords records).entries = records.entries.map .ofEntry := rfl

end Tables

theorem RoutineStatus.name_inj {status status' : RoutineStatus} :
    status.name = status'.name ↔ status = status' := by
  cases status <;> cases status' <;> decide

namespace Routine

/-- What is kept of a routine for good: its id, its template, its scope, and by whom and when it was
made. -/
def lasting (routine : Routine) : String × String × String × String × Moment :=
  (routine.id, routine.template, routine.scope, routine.createdBy, routine.created)

/-- The routine with all that is not kept for good as the other has it. -/
def overwrite (old routine : Routine) : Routine :=
  { old with
    name := routine.name, status := routine.status, version := routine.version
    configuration := routine.configuration, definition := routine.definition }

theorem overwrite_eq {old routine : Routine} (h : old.lasting = routine.lasting) :
    old.overwrite routine = routine := by
  cases old
  cases routine
  simp only [lasting, Prod.mk.injEq] at h
  obtain ⟨rfl, rfl, rfl, rfl, rfl⟩ := h
  rfl

end Routine

namespace StoreKind

/-- The store that holds the given records. -/
def hold : StoreKind → Memory → Store
  | .memory, records => .memory records
  | .tables, records => .tables (.ofRecords records)

/-- The store has room for the number. -/
def Fits : StoreKind → Int → Prop
  | .memory, _ => True
  | .tables, n => Number.IsWord n

/-- A template as a store of the kind gives it back. Tables read an empty category as the standard
one. -/
def returned : StoreKind → Template → Template
  | .memory, template => template
  | .tables, template =>
    { template with category :=
        if template.category = "" then Template.standardCategory else template.category }

@[simp] theorem returned_key (kind : StoreKind) (t : Template) :
    (kind.returned t).key = t.key := by
  cases kind <;> rfl

theorem returned_of_ne (kind : StoreKind) {t : Template} (h : t.category ≠ "") :
    kind.returned t = t := by
  cases kind <;> simp [returned, h]

/-- The routines with a status, when one is asked for, in the order in which they were made. -/
def listing (kind : StoreKind) (status : Option RoutineStatus) (routines : List Routine) :
    Except Fault (List Routine) :=
  let found := routines.filter fun r => status.all (· = r.status)
  match kind with
  | .memory =>
    if Routine.areComparable found then .ok (Routine.sorted found)
    else .error (.misuse .mixedMoments)
  | .tables => .ok (found.mergeSort fun a b => a.created.wall ≤ b.created.wall)

theorem perm_of_listing {kind : StoreKind} {status : Option RoutineStatus}
    {routines found : List Routine} (h : kind.listing status routines = .ok found) :
    found.Perm (routines.filter fun r => status.all (· = r.status)) := by
  cases kind with
  | memory =>
      simp only [listing] at h
      split at h
      · rw [← Except.ok.inj h]
        exact List.mergeSort_perm _ _
      · cases h
  | tables =>
      simp only [listing] at h
      rw [← Except.ok.inj h]
      exact List.mergeSort_perm _ _

theorem mem_of_listing {kind : StoreKind} {status : Option RoutineStatus}
    {routines found : List Routine} (h : kind.listing status routines = .ok found) {r : Routine} :
    r ∈ found ↔ r ∈ routines ∧ status.all (· = r.status) := by
  rw [(perm_of_listing h).mem_iff, List.mem_filter]

theorem Fits.of_le {kind : StoreKind} {m n : Int} (h : kind.Fits n) (hpos : 0 ≤ m)
    (hle : m ≤ n) : kind.Fits m := by
  cases kind with
  | memory => trivial
  | tables =>
      have hword : Number.IsWord n := h
      have hroom : Number.IsWord m := ⟨by omega, by have := hword.2; omega⟩
      exact hroom

theorem fits_one (kind : StoreKind) : kind.Fits 1 := by
  cases kind with
  | memory => trivial
  | tables => exact (by decide : Number.IsWord 1)

end StoreKind

namespace Tables

theorem checkColumn_of_fits {n : Int} (h : StoreKind.tables.Fits n) : checkColumn n = .ok () :=
  if_pos h

theorem checkColumn_of_not_fits {n : Int} (h : ¬ StoreKind.tables.Fits n) :
    checkColumn n = .error (.oversizeColumn n) :=
  if_neg h

/-- Reading may give back something else than what was written. -/
theorem readFirst_map_of {ρ α : Type} {read : ρ → Except Fault α} {write : α → ρ} {back : α → α}
    {test : ρ → Bool} {records : List α} (h : ∀ a ∈ records, read (write a) = .ok (back a)) :
    readFirst read test (records.map write) = .ok ((records.find? (test ∘ write)).map back) := by
  rw [readFirst, List.find?_map]
  cases hfind : records.find? (test ∘ write) with
  | none => rfl
  | some a => simp [h a (List.mem_of_find?_eq_some hfind), Except.map]

theorem readFirst_map {ρ α : Type} {read : ρ → Except Fault α} {write : α → ρ} {test : ρ → Bool}
    {records : List α} (h : ∀ a ∈ records, read (write a) = .ok a) :
    readFirst read test (records.map write) = .ok (records.find? (test ∘ write)) :=
  (readFirst_map_of h).trans (congrArg Except.ok (congrFun Option.map_id_fun' _))

theorem mapM_map_of {ρ α : Type} {read : ρ → Except Fault α} {write : α → ρ} {back : α → α}
    {records : List α} (h : ∀ a ∈ records, read (write a) = .ok (back a)) :
    (records.map write).mapM read = .ok (records.map back) := by
  induction records with
  | nil => rfl
  | cons a rest ih =>
      obtain ⟨hfirst, hrest⟩ := List.forall_mem_cons.mp h
      simp [hfirst, ih hrest, bind, Except.bind, pure, Except.pure]

theorem mapM_map {ρ α : Type} {read : ρ → Except Fault α} {write : α → ρ} {records : List α}
    (h : ∀ a ∈ records, read (write a) = .ok a) : (records.map write).mapM read = .ok records :=
  (mapM_map_of h).trans (congrArg Except.ok (List.map_id' records))

/-- Rows are ordered as the templates are that they were written from. -/
theorem listTemplates_ofRecords (records : Memory) :
    (ofRecords records).listTemplates =
      (records.listTemplates.map TemplateRow.ofTemplate).mapM TemplateRow.read := by
  have hsorted : (records.templates.mergeSort Template.before).map TemplateRow.ofTemplate =
      (records.templates.map TemplateRow.ofTemplate).mergeSort fun a b =>
        a.category < b.category || (a.category = b.category && !(b.key < a.key)) :=
    List.map_mergeSort (by exact fun _ _ _ _ => rfl)
  rw [listTemplates, templates_ofRecords, ← hsorted]
  rfl

theorem updateRoutine_ofRecords {records : Memory} {id : String} {f : RoutineRow → RoutineRow}
    {g : Routine → Routine} (h : ∀ r, f (.ofRoutine r) = .ofRoutine (g r)) :
    (ofRecords records).updateRoutine id f = ofRecords (records.updateRoutine id g) := by
  simp only [updateRoutine, ofRecords, Memory.updateRoutine, Keyed.update, List.map_map]
  congr 1
  refine List.map_congr_left fun r _ => ?_
  change (if r.id = id then f (.ofRoutine r) else .ofRoutine r) =
    RoutineRow.ofRoutine (if r.id = id then g r else r)
  split
  · exact h r
  · rfl

end Tables

namespace Memory

/-- Every template has a category that a row is read back with. -/
def Filed (records : Memory) : Prop := ∀ template ∈ records.templates, template.category ≠ ""

theorem Filed.map_find? {records : Memory} (h : records.Filed) (kind : StoreKind)
    (p : Template → Bool) :
    (records.templates.find? p).map kind.returned = records.templates.find? p := by
  cases hfind : records.templates.find? p with
  | none => rfl
  | some t => exact congrArg some (kind.returned_of_ne (h t (List.mem_of_find?_eq_some hfind)))

theorem Filed.map_listTemplates {records : Memory} (h : records.Filed) (kind : StoreKind) :
    records.listTemplates.map kind.returned = records.listTemplates := by
  have hsame : ∀ t ∈ records.listTemplates, kind.returned t = t := fun t ht =>
    kind.returned_of_ne (h t (List.mem_mergeSort.mp ht))
  rw [List.map_congr_left hsame, List.map_id']

/-- Every routine has a version number that a row is read back with. -/
def Readable (records : Memory) : Prop := ∀ routine ∈ records.routines, 1 ≤ routine.version

theorem Readable.updateRoutine {records : Memory} (h : records.Readable) {id : String}
    {f : Routine → Routine} (hf : ∀ r, 1 ≤ r.version → 1 ≤ (f r).version) :
    (records.updateRoutine id f).Readable := by
  intro routine hmem
  obtain ⟨r, hr, rfl⟩ := List.mem_map.mp hmem
  split
  · exact hf r (h r hr)
  · exact h r hr

end Memory

namespace Store

variable {kind : StoreKind} {records after : Memory}

theorem perform_ask {α : Type} {ofMemory : Memory → α} {ofTables : Tables → Except Fault α} {a : α}
    (hmemory : kind = .memory → ofMemory records = a)
    (htables : kind = .tables → ofTables (.ofRecords records) = .ok a) :
    (ask ofMemory ofTables).perform (kind.hold records) = (.ok a, kind.hold records) := by
  cases kind with
  | memory =>
      rw [← hmemory rfl]
      rfl
  | tables =>
      change (ofTables (.ofRecords records), _) = _
      rw [htables rfl]

section Change

variable {inMemory : Memory → Except Fault Memory} {onTables : Tables → Except Fault Tables}

theorem perform_change_ok (hmemory : kind = .memory → inMemory records = .ok after)
    (htables : kind = .tables → onTables (.ofRecords records) = .ok (.ofRecords after)) :
    (change inMemory onTables).perform (kind.hold records) = (.ok (), kind.hold after) := by
  cases kind <;>
    simp only [change, StoreKind.hold, Operation.perform_bind, Operation.perform_get,
      Operation.perform_ofExcept, hmemory, htables] <;>
    rfl

theorem perform_change_error {fault : Fault}
    (hmemory : kind = .memory → inMemory records = .error fault)
    (htables : kind = .tables → onTables (.ofRecords records) = .error fault) :
    (change inMemory onTables).perform (kind.hold records) = (.error fault, kind.hold records) := by
  cases kind <;>
    simp only [change, StoreKind.hold, Operation.perform_bind, Operation.perform_get,
      Operation.perform_ofExcept, hmemory, htables]

end Change

section Template

theorem perform_template?_returned (kind : StoreKind) (records : Memory) (id : String) :
    (template? id).perform (kind.hold records) =
      (.ok ((records.template? id).map kind.returned), kind.hold records) := by
  apply perform_ask
  · rintro rfl
    exact (congrFun Option.map_id_fun' _).symm
  · rintro rfl
    exact Tables.readFirst_map_of fun t _ => TemplateRow.read_ofTemplate t

theorem perform_templateByKey?_returned (kind : StoreKind) (records : Memory) (key : String) :
    (templateByKey? key).perform (kind.hold records) =
      (.ok ((records.templateByKey? key).map kind.returned), kind.hold records) := by
  apply perform_ask
  · rintro rfl
    exact (congrFun Option.map_id_fun' _).symm
  · rintro rfl
    exact Tables.readFirst_map_of fun t _ => TemplateRow.read_ofTemplate t

theorem perform_listTemplates_returned (kind : StoreKind) (records : Memory) :
    listTemplates.perform (kind.hold records) =
      (.ok (records.listTemplates.map kind.returned), kind.hold records) := by
  apply perform_ask
  · rintro rfl
    exact (List.map_id' _).symm
  · rintro rfl
    rw [Tables.listTemplates_ofRecords]
    exact Tables.mapM_map_of fun t _ => TemplateRow.read_ofTemplate t

theorem perform_template? (h : records.Filed) (id : String) :
    (template? id).perform (kind.hold records) =
      (.ok (records.template? id), kind.hold records) := by
  rw [perform_template?_returned, Memory.template?, Keyed.find?, h.map_find?]

theorem perform_templateByKey? (h : records.Filed) (key : String) :
    (templateByKey? key).perform (kind.hold records) =
      (.ok (records.templateByKey? key), kind.hold records) := by
  rw [perform_templateByKey?_returned, Memory.templateByKey?, Keyed.find?, h.map_find?]

theorem perform_listTemplates (h : records.Filed) :
    listTemplates.perform (kind.hold records) =
      (.ok records.listTemplates, kind.hold records) := by
  rw [perform_listTemplates_returned, h.map_listTemplates]

theorem perform_insertTemplate {template : Template}
    (hid : ∀ t ∈ records.templates, t.id ≠ template.id)
    (hkey : ∀ t ∈ records.templates, t.key ≠ template.key) :
    (insertTemplate template).perform (kind.hold records) =
      (.ok (), kind.hold { records with templates := records.templates ++ [template] }) := by
  apply perform_change_ok
  · intro _
    rw [Memory.insertTemplate, Keyed.put_of_forall_ne hid]
  · intro _
    have hrow : ¬ (Tables.ofRecords records).templates.any fun row =>
        row.id = template.id || row.key = template.key := by
      rw [Tables.templates_ofRecords, List.any_map, List.any_eq_true]
      rintro ⟨t, ht, htaken⟩
      rcases Bool.or_eq_true _ _ |>.mp htaken with htaken | htaken
      · exact hid t ht (of_decide_eq_true htaken)
      · exact hkey t ht (of_decide_eq_true htaken)
    rw [Tables.insertTemplate, if_neg hrow]
    simp [Tables.ofRecords]

end Template

theorem perform_routine? (h : records.Readable) (id : String) :
    (routine? id).perform (kind.hold records) = (.ok (records.routine? id), kind.hold records) :=
  perform_ask (fun _ => rfl) fun _ =>
    Tables.readFirst_map fun r hr => RoutineRow.read_ofRoutine r (h r hr)

/-- The routines of a scope are asked for in the store, and nothing else is needed for it. -/
theorem perform_listRoutines (h : records.Readable) (scope : String)
    (status : Option RoutineStatus) :
    (listRoutines scope status).perform (kind.hold records) =
      (kind.listing status (records.routines.filter fun r => r.scope = scope),
        kind.hold records) := by
  have hfilter : (records.routines.filter fun r => r.scope = scope).filter
        (fun r => status.all (· = r.status)) =
      records.routines.filter fun r => r.scope = scope && status.all (· = r.status) := by
    rw [List.filter_filter]
    exact List.filter_congr fun r _ => Bool.and_comm _ _
  cases kind with
  | memory =>
      rw [StoreKind.listing, hfilter]
      rfl
  | tables =>
      have hrows : (Tables.ofRecords records).listRoutines scope status =
          .ok ((records.routines.filter fun r => r.scope = scope && status.all (· = r.status)
            ).mergeSort fun a b => a.created.wall ≤ b.created.wall) := by
        have hsame : ((Tables.ofRecords records).routines.filter fun row =>
              row.scope = scope && status.all fun status => status.name = row.status) =
            (records.routines.filter fun r =>
              r.scope = scope && status.all (· = r.status)).map .ofRoutine := by
          rw [Tables.routines_ofRecords, List.filter_map]
          congr 1
          refine List.filter_congr fun r _ => ?_
          cases status with
          | none => rfl
          | some status =>
              simp [RoutineRow.ofRoutine, RoutineStatus.name_inj]
              rfl
        rw [Tables.listRoutines, hsame, ← List.map_mergeSort (by exact fun _ _ _ _ => rfl)]
        refine Tables.mapM_map fun r hr => RoutineRow.read_ofRoutine r (h r ?_)
        exact (List.mem_filter.mp (List.mem_mergeSort.mp hr)).1
      rw [StoreKind.listing, hfilter]
      exact congrArg (fun outcome => (outcome, StoreKind.tables.hold records)) hrows

theorem perform_insertRoutine {routine : Routine}
    (hnew : ∀ r ∈ records.routines, r.id ≠ routine.id) (hfits : kind.Fits routine.version) :
    (insertRoutine routine).perform (kind.hold records) =
      (.ok (), kind.hold { records with routines := records.routines ++ [routine] }) := by
  apply perform_change_ok
  · intro _
    rw [Memory.putRoutine, Keyed.put_of_forall_ne hnew]
  · rintro rfl
    have hrow : ¬ (Tables.ofRecords records).routines.any fun row => row.id = routine.id := by
      rw [Tables.routines_ofRecords, List.any_map, List.any_eq_true]
      rintro ⟨r, hr, hid⟩
      exact hnew r hr (of_decide_eq_true hid)
    rw [Tables.insertRoutine, Tables.checkColumn_of_fits hfits]
    simp only [bind, Except.bind, if_neg hrow]
    simp [Tables.ofRecords]

/-- A routine that is written over the only one with its id takes its place, if it agrees with that
in what is kept for good. -/
theorem perform_writeRoutine {routine old : Routine}
    (hdistinct : (records.routines.map Routine.id).Nodup) (hold : old ∈ records.routines)
    (hlasting : old.lasting = routine.lasting) (hfits : kind.Fits routine.version) :
    (writeRoutine routine).perform (kind.hold records) =
      (.ok (), kind.hold (records.updateRoutine routine.id (·.overwrite routine))) := by
  have hid : old.id = routine.id := congrArg Prod.fst hlasting
  apply perform_change_ok
  · intro _
    rw [Memory.putRoutine, Keyed.put_eq_update hdistinct ⟨old, hold, hid⟩, Memory.updateRoutine]
    congr 2
    refine List.map_congr_left fun r hr => ?_
    split
    · rename_i heq
      obtain rfl := List.inj_on_of_nodup_map hdistinct hr hold (heq.trans hid.symm)
      exact (Routine.overwrite_eq hlasting).symm
    · rfl
  · rintro rfl
    rw [Tables.writeRoutine, Tables.checkColumn_of_fits hfits]
    exact congrArg Except.ok (Tables.updateRoutine_ofRecords fun _ => rfl)

theorem perform_insertSnapshot {snapshot : Snapshot}
    (hnew : records.snapshot? snapshot.routine snapshot.version = none)
    (hfits : kind.Fits snapshot.version) :
    (insertSnapshot snapshot).perform (kind.hold records) =
      (.ok (), kind.hold (records.insertSnapshot snapshot)) := by
  apply perform_change_ok
  · intro _
    rw [hnew]
  · rintro rfl
    have hrow : ¬ (Tables.ofRecords records).versions.any fun row =>
        row.routine = snapshot.routine && row.version = snapshot.version := by
      rw [Tables.versions_ofRecords, List.any_map, List.any_eq_true]
      rintro ⟨s, hs, hkey⟩
      exact List.find?_eq_none.mp hnew s hs hkey
    rw [Tables.insertSnapshot, Tables.checkColumn_of_fits hfits]
    simp only [bind, Except.bind, if_neg hrow]
    simp [Tables.ofRecords, Memory.insertSnapshot]

/-- A version number that does not fit is refused before anything is written. -/
theorem perform_insertSnapshot_of_not_fits {snapshot : Snapshot}
    (hfits : ¬ kind.Fits snapshot.version) :
    (insertSnapshot snapshot).perform (kind.hold records) =
      (.error (.oversizeColumn snapshot.version), kind.hold records) := by
  apply perform_change_error
  · rintro rfl
    exact absurd trivial hfits
  · rintro rfl
    rw [Tables.insertSnapshot, Tables.checkColumn_of_not_fits hfits]
    rfl

theorem perform_listSnapshots (id : String) :
    (listSnapshots id).perform (kind.hold records) =
      (.ok (records.listSnapshots id), kind.hold records) := by
  apply perform_ask
  · intro _
    rfl
  · intro _
    have hsorted : ((records.snapshots.filter fun s => s.routine = id).mergeSort
          fun a b => a.version ≤ b.version).map VersionRow.ofSnapshot =
        ((records.snapshots.map VersionRow.ofSnapshot).filter fun row => row.routine = id).mergeSort
          fun a b => a.version ≤ b.version := by
      rw [List.map_mergeSort, List.filter_map]
      · rfl
      · intro a _ b _
        rfl
    rw [Tables.listSnapshots, Tables.versions_ofRecords, ← hsorted]
    exact Tables.mapM_map fun s _ => VersionRow.read_ofSnapshot s

theorem perform_snapshot? {version : Int} (hfits : kind.Fits version) (id : String) :
    (snapshot? id version).perform (kind.hold records) =
      (.ok (records.snapshot? id version), kind.hold records) := by
  apply perform_ask
  · intro _
    rfl
  · rintro rfl
    rw [Tables.snapshot?, Tables.checkColumn_of_fits hfits]
    exact Tables.readFirst_map fun s _ => VersionRow.read_ofSnapshot s

theorem perform_snapshot?_of_not_fits {version : Int} (hfits : ¬ kind.Fits version) (id : String) :
    (snapshot? id version).perform (kind.hold records) =
      (.error (.oversizeColumn version), kind.hold records) := by
  cases kind with
  | memory => exact absurd trivial hfits
  | tables =>
      change ((Tables.ofRecords records).snapshot? id version, _) = _
      rw [Tables.snapshot?, Tables.checkColumn_of_not_fits hfits]
      rfl

theorem perform_setDefinition (h : records.Readable) (id : String) (definition : Definition)
    {version : Int} (hpos : 1 ≤ version) (hfits : kind.Fits version) :
    let after := records.updateRoutine id fun r => { r with definition, version }
    (setDefinition id definition version).perform (kind.hold records) =
      (.ok (after.routine? id), kind.hold after) := by
  intro after
  have hreadable : after.Readable := h.updateRoutine fun _ _ => hpos
  have hchange : (change
      (fun records => .ok (records.updateRoutine id fun r => { r with definition, version }))
      (·.setDefinition id definition version)).perform (kind.hold records) =
        (.ok (), kind.hold after) := by
    apply perform_change_ok
    · intro _
      rfl
    · rintro rfl
      rw [Tables.setDefinition, Tables.checkColumn_of_fits hfits,
        Tables.updateRoutine_ofRecords (g := fun r => { r with definition, version })
          fun _ => rfl]
      split <;> rfl
  rw [setDefinition, Operation.perform_bind_ok hchange, perform_routine? hreadable]

theorem perform_setStatus (h : records.Readable) (id : String) (status : RoutineStatus) :
    let after := records.updateRoutine id fun r => { r with status }
    (setStatus id status).perform (kind.hold records) =
      (.ok (after.routine? id), kind.hold after) := by
  intro after
  have hreadable : after.Readable := h.updateRoutine fun _ hr => hr
  have hchange : (change (fun records => .ok (records.updateRoutine id fun r => { r with status }))
      (fun tables => .ok (tables.updateRoutine id fun row => { row with status := status.name }))
      ).perform (kind.hold records) = (.ok (), kind.hold after) := by
    apply perform_change_ok
    · intro _
      rfl
    · intro _
      rw [Tables.updateRoutine_ofRecords (g := fun r => { r with status }) fun _ => rfl]
  rw [setStatus, Operation.perform_bind_ok hchange, perform_routine? hreadable]

section Entry

variable {entry : Entry}

theorem any_entries_ofRecords : (Tables.ofRecords records).entries.any (fun row =>
    row.id = entry.id) ↔ ∃ e ∈ records.entries, e.id = entry.id := by
  rw [Tables.entries_ofRecords, List.any_map, List.any_eq_true]
  exact exists_congr fun e => and_congr_right fun _ => decide_eq_true_iff

/-- An entry with an identifier of its own is kept. -/
theorem perform_appendEntry (hnew : ∀ e ∈ records.entries, e.id ≠ entry.id) :
    (appendEntry entry).perform (kind.hold records) =
      (.ok (), kind.hold (records.appendEntry entry)) := by
  apply perform_change_ok
  · intro _
    rfl
  · rintro rfl
    have hrow := mt any_entries_ofRecords.mp fun ⟨e, he, hid⟩ => hnew e he hid
    rw [Tables.appendEntry, if_neg hrow]
    simp [Tables.ofRecords, Memory.appendEntry]

/-- Otherwise it is kept or refused. -/
theorem perform_appendEntry_snd (entry : Entry) (records : Memory) :
    ((appendEntry entry).perform (kind.hold records)).2 = kind.hold records ∨
      ((appendEntry entry).perform (kind.hold records)).2 =
        kind.hold (records.appendEntry entry) := by
  by_cases htaken : ∃ e ∈ records.entries, e.id = entry.id
  · cases kind with
    | memory => exact .inr rfl
    | tables =>
        left
        have hrefused : (appendEntry entry).perform (StoreKind.tables.hold records) =
            (.error .duplicateRow, StoreKind.tables.hold records) :=
          perform_change_error nofun fun _ => if_pos (any_entries_ofRecords.mpr htaken)
        rw [hrefused]
  · right
    rw [perform_appendEntry fun e he hid => htaken ⟨e, he, hid⟩]

theorem perform_entriesOf {page : Page} (hlimit : 0 ≤ page.limit) (hoffset : 0 ≤ page.offset)
    (hfits : kind.Fits page.limit ∧ kind.Fits page.offset) (routine : String) :
    (entriesOf routine page).perform (kind.hold records) =
      (.ok (page.take (records.entriesOf routine)), kind.hold records) := by
  apply perform_ask
  · intro _
    rfl
  · rintro rfl
    rw [Tables.entriesOf, Tables.checkColumn_of_fits hfits.1, Tables.checkColumn_of_fits hfits.2,
      Tables.entries_ofRecords, List.filter_map, Page.takeRows_map,
      Page.take_eq_takeRows page _ hlimit hoffset]
    exact Tables.mapM_map fun e _ => EntryRow.read_ofEntry e

theorem perform_entriesOfExecution (execution : String) :
    (entriesOfExecution execution).perform (kind.hold records) =
      (.ok (records.entriesOfExecution execution), kind.hold records) := by
  apply perform_ask
  · intro _
    rfl
  · intro _
    rw [Tables.entriesOfExecution, Tables.entries_ofRecords, List.filter_map]
    exact Tables.mapM_map fun e _ => EntryRow.read_ofEntry e

end Entry

end Store

end Workflow
