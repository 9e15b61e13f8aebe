import Workflow.Json.Writer
import Workflow.Proofs.Store.Holding

/-!
# Either store will do

A store in memory and a store on tables answer a client alike, access by access. The client keeps to
some rules: nothing is inserted under a key that is taken, routines are inserted in the order in
which they were made, a routine that is written over another agrees with it in what is kept for good,
and pages are given by numbers that are not negative. And all that is written has to find room in the
tables: `Storable` says which accesses this leaves out, and there the two kinds do differ.

What of a store is kept for good can be read off the accesses so far. `Store.Reflects` says so of the
records. It survives each access, which both kinds of store answer from the same records.
-/

namespace Workflow

/-- The moment is earlier than the other, and the two can be compared. -/
def Moment.Before (earlier later : Moment) : Prop :=
  earlier.offset.isSome = later.offset.isSome ∧ earlier.instant < later.instant

instance (earlier later : Moment) : Decidable (earlier.Before later) :=
  inferInstanceAs (Decidable (_ ∧ _))

namespace Routine

theorem areComparable_of_pairwise {routines : List Routine}
    (h : routines.Pairwise fun r r' => r.created.Before r'.created) :
    areComparable routines = true := by
  cases routines with
  | nil => rfl
  | cons first rest =>
      have hsame : ∀ r ∈ first :: rest, r.created.offset.isSome = first.created.offset.isSome := by
        intro r hr
        rcases List.mem_cons.mp hr with rfl | hr
        · rfl
        · exact ((List.pairwise_cons.mp h).1 r hr).1.symm
      rw [areComparable, Bool.or_eq_true, List.all_eq_true, List.all_eq_true]
      cases hfirst : first.created.offset.isSome with
      | true => exact .inl fun r hr => (hsame r hr).trans hfirst
      | false =>
          refine .inr fun r hr => ?_
          rw [← Option.not_isSome, hsame r hr, hfirst]
          rfl

end Routine

/-- Routines that were inserted in the order in which they were made are listed in this order. -/
theorem StoreKind.listing_of_pairwise {routines : List Routine}
    (hmade : routines.Pairwise fun r r' => r.created.Before r'.created)
    (hclocks : routines.Pairwise fun r r' => r.created.wall < r'.created.wall) (kind : StoreKind)
    (status : Option RoutineStatus) :
    kind.listing status routines =
      .ok (routines.filter fun r => status.all (· = r.status)) := by
  cases kind with
  | memory =>
      have hfound := hmade.filter fun r => status.all (· = r.status)
      rw [listing, if_pos (Routine.areComparable_of_pairwise hfound), Routine.sorted]
      exact congrArg Except.ok (List.mergeSort_of_pairwise
        (hfound.imp fun h => decide_eq_true (Int.le_of_lt h.2)))
  | tables =>
      have hfound := hclocks.filter fun r => status.all (· = r.status)
      exact congrArg Except.ok (List.mergeSort_of_pairwise
        (hfound.imp fun h => decide_eq_true (Int.le_of_lt h)))

theorem Operation.perform_map_ok {σ α β : Type} {operation : Operation σ α} {s s' : σ} {a : α}
    (f : α → β) (h : operation.perform s = (.ok a, s')) :
    (f <$> operation).perform s = (.ok (f a), s') := by
  rw [perform_map, h]
  rfl

namespace Store

/-- One access to a store. -/
inductive Access where
  | template (id : String)
  | templateByKey (key : String)
  | templates
  | insertTemplate (template : Template)
  | routine (id : String)
  | routines (scope : String) (status : Option RoutineStatus)
  | insertRoutine (routine : Routine)
  | writeRoutine (routine : Routine)
  | setDefinition (id : String) (definition : Definition) (version : Int)
  | setStatus (id : String) (status : RoutineStatus)
  | insertSnapshot (snapshot : Snapshot)
  | snapshot (routine : String) (version : Int)
  | snapshots (routine : String)
  | appendEntry (entry : Entry)
  | entries (routine : String) (page : Page)
  | runEntries (execution : String)

/-- What an access gives back. -/
inductive Finding where
  | template (found : Option Template)
  | templates (found : List Template)
  | routine (found : Option Routine)
  | routines (found : List Routine)
  | snapshot (found : Option Snapshot)
  | snapshots (found : List Snapshot)
  | entry (kept : Entry)
  | entries (found : List Entry)
  deriving DecidableEq

/-- The work of an access. What is inserted or written is given back as it is. -/
def Access.work : Access → Work Finding
  | .template id => .template <$> template? id
  | .templateByKey key => .template <$> templateByKey? key
  | .templates => .templates <$> listTemplates
  | .insertTemplate new => (fun _ => .template (some new)) <$> Store.insertTemplate new
  | .routine id => .routine <$> routine? id
  | .routines scope status => .routines <$> listRoutines scope status
  | .insertRoutine new => (fun _ => .routine (some new)) <$> Store.insertRoutine new
  | .writeRoutine new => (fun _ => .routine (some new)) <$> Store.writeRoutine new
  | .setDefinition id definition version => .routine <$> Store.setDefinition id definition version
  | .setStatus id status => .routine <$> Store.setStatus id status
  | .insertSnapshot new => (fun _ => .snapshot (some new)) <$> Store.insertSnapshot new
  | .snapshot id version => .snapshot <$> snapshot? id version
  | .snapshots id => .snapshots <$> listSnapshots id
  | .appendEntry new => (fun _ => .entry new) <$> Store.appendEntry new
  | .entries id page => .entries <$> entriesOf id page
  | .runEntries execution => .entries <$> entriesOfExecution execution

/-- The template that is inserted. -/
def Access.newTemplate? : Access → Option Template
  | .insertTemplate new => some new
  | _ => none

/-- The routine that is inserted. -/
def Access.newRoutine? : Access → Option Routine
  | .insertRoutine new => some new
  | _ => none

/-- The snapshot that is inserted. -/
def Access.newSnapshot? : Access → Option Snapshot
  | .insertSnapshot new => some new
  | _ => none

/-- The entry that is appended. -/
def Access.newEntry? : Access → Option Entry
  | .appendEntry new => some new
  | _ => none

/-- The numbers that are written into columns or compared with them. -/
def Access.numbers : Access → List Int
  | .insertRoutine new | .writeRoutine new => [new.version]
  | .setDefinition _ _ version | .snapshot _ version => [version]
  | .insertSnapshot new => [new.version]
  | .entries _ page => [page.limit, page.offset]
  | _ => []

/-- The documents that are written into rows. -/
def Access.documents : Access → List Value
  | .insertTemplate new => [new.definition.encode]
  | .insertRoutine new | .writeRoutine new => [new.definition.encode, .object new.configuration]
  | .setDefinition _ definition _ => [definition.encode]
  | .insertSnapshot new => [new.definition.encode]
  | .appendEntry new => [new.result.encode]
  | _ => []

/-- The answers to accesses in a row. -/
def answers (store : Store) : List Access → List (Except Fault Finding)
  | [] => []
  | access :: rest =>
    let (answer, store) := access.work.perform store
    answer :: answers store rest

open Operation (perform_map_ok)
open Access (newTemplate? newRoutine? newSnapshot? newEntry?)

/-- The accesses keep to the rules for the clients of a store: what is inserted has a key of its own,
templates have a category, routines are inserted in the order in which they were made and count their
versions from one, a routine is written only over one that was inserted and agrees with it in what is
kept for good, and pages are given by numbers that are not negative. -/
structure Fair (accesses : List Access) : Prop where
  templateIds : ((accesses.filterMap newTemplate?).map Template.id).Nodup
  templateKeys : ((accesses.filterMap newTemplate?).map Template.key).Nodup
  categories : ∀ template ∈ accesses.filterMap newTemplate?, template.category ≠ ""
  routineIds : ((accesses.filterMap newRoutine?).map Routine.id).Nodup
  created : (accesses.filterMap newRoutine?).Pairwise fun r r' => r.created.Before r'.created
  numbered : ∀ routine, .insertRoutine routine ∈ accesses ∨ .writeRoutine routine ∈ accesses →
    1 ≤ routine.version
  rewrites : ∀ before routine after, accesses = before ++ .writeRoutine routine :: after →
    ∃ old ∈ before.filterMap newRoutine?, old.lasting = routine.lasting
  versions : ((accesses.filterMap newSnapshot?).map fun s => (s.routine, s.version)).Nodup
  entryIds : ((accesses.filterMap newEntry?).map Entry.id).Nodup
  pages : ∀ routine page, .entries routine page ∈ accesses → 0 ≤ page.limit ∧ 0 ≤ page.offset

/-- The tables have room for all numbers, the documents hold only numbers that a row gives back as
they were, which those that are not finite and integers without a text are not, no routine is given a
version number below one, and the clocks that the routines were made by show the order in which they
were made. -/
structure Storable (accesses : List Access) : Prop where
  numbers : ∀ access ∈ accesses, ∀ n ∈ access.numbers, Number.IsWord n
  documents : ∀ access ∈ accesses, ∀ document ∈ access.documents,
    document.isFinite = true ∧ document.writable = true
  positive : ∀ id definition version, .setDefinition id definition version ∈ accesses → 1 ≤ version
  clocks : (accesses.filterMap newRoutine?).Pairwise fun r r' => r.created.wall < r'.created.wall

variable {before rest : List Access} {access : Access} {records after : Memory}

section Insertions

variable {α κ : Type} {new? : Access → Option α} {keyOf : α → κ} {a : α}

theorem filterMap_of_none (h : new? access = none) :
    (before ++ [access]).filterMap new? = before.filterMap new? := by
  rw [List.filterMap_append, List.filterMap_cons_none h, List.filterMap_nil, List.append_nil]

theorem filterMap_of_some (new? : Access → Option α) (h : new? access = some a) :
    (before ++ [access]).filterMap new? = before.filterMap new? ++ [a] := by
  rw [List.filterMap_append, List.filterMap_cons_some h, List.filterMap_nil]

/-- What is inserted has another key than all that was inserted before. -/
theorem ne_of_nodup (h : (((before ++ access :: rest).filterMap new?).map keyOf).Nodup)
    (hnew : new? access = some a) : ∀ other ∈ before.filterMap new?, keyOf other ≠ keyOf a := by
  rw [List.filterMap_append, List.filterMap_cons_some hnew, List.map_append] at h
  intro other hother
  exact (List.nodup_append.mp h).2.2 _ (List.mem_map_of_mem hother) _ List.mem_cons_self

theorem sublist_filterMap : (before.filterMap new?).Sublist
    ((before ++ access :: rest).filterMap new?) :=
  (List.sublist_append_left before (access :: rest)).filterMap new?

end Insertions

/-- The records have what was inserted, and of the routines what is kept for good. -/
structure Reflects (before : List Access) (records : Memory) : Prop where
  templates : records.templates = before.filterMap newTemplate?
  routines : records.routines.map Routine.lasting =
    (before.filterMap newRoutine?).map Routine.lasting
  snapshots : records.snapshots = before.filterMap newSnapshot?
  entries : records.entries = before.filterMap newEntry?
  readable : records.Readable

namespace Reflects

theorem empty : Reflects [] {} := ⟨rfl, rfl, rfl, rfl, nofun⟩

/-- What can be seen of routines without what changes in them. -/
theorem map_routines {β : Type} (h : Reflects before records)
    (f : String × String × String × String × Moment → β) :
    (records.routines.map fun r => f r.lasting) =
      (before.filterMap newRoutine?).map fun r => f r.lasting := by
  have hf := congrArg (List.map f) h.routines
  rwa [List.map_map, List.map_map] at hf

theorem map_id (h : Reflects before records) :
    records.routines.map Routine.id = (before.filterMap newRoutine?).map Routine.id :=
  h.map_routines Prod.fst

/-- An access that inserts nothing may change routines in what is not kept for good. -/
theorem updateRoutine (h : Reflects before records) {f : Routine → Routine}
    (hlasting : ∀ r, (f r).lasting = r.lasting) (hversion : ∀ r, 1 ≤ r.version → 1 ≤ (f r).version)
    (id : String) (hnone : newTemplate? access = none ∧ newRoutine? access = none ∧
      newSnapshot? access = none ∧ newEntry? access = none) :
    Reflects (before ++ [access]) (records.updateRoutine id f) := by
  obtain ⟨htemplate, hroutine, hsnapshot, hentry⟩ := hnone
  refine ⟨?_, ?_, ?_, ?_, h.readable.updateRoutine hversion⟩
  · rw [filterMap_of_none htemplate]
    exact h.templates
  · have hsame : (records.updateRoutine id f).routines.map Routine.lasting =
        records.routines.map Routine.lasting := by
      simp only [Memory.updateRoutine, Keyed.update, List.map_map]
      refine List.map_congr_left fun r _ => ?_
      rw [Function.comp_apply]
      split
      · exact hlasting r
      · rfl
    rw [hsame, filterMap_of_none hroutine]
    exact h.routines
  · rw [filterMap_of_none hsnapshot]
    exact h.snapshots
  · rw [filterMap_of_none hentry]
    exact h.entries

/-- An access that only asks leaves the records as they are. -/
theorem asked (h : Reflects before records) (hnone : newTemplate? access = none ∧
      newRoutine? access = none ∧ newSnapshot? access = none ∧ newEntry? access = none) :
    Reflects (before ++ [access]) records := by
  obtain ⟨htemplate, hroutine, hsnapshot, hentry⟩ := hnone
  constructor
  · rw [filterMap_of_none htemplate, h.templates]
  · rw [filterMap_of_none hroutine, h.routines]
  · rw [filterMap_of_none hsnapshot, h.snapshots]
  · rw [filterMap_of_none hentry, h.entries]
  · exact h.readable

theorem insertTemplate (h : Reflects before records) (template : Template) :
    Reflects (before ++ [.insertTemplate template])
      { records with templates := records.templates ++ [template] } := by
  constructor
  · rw [filterMap_of_some newTemplate? rfl, ← h.templates]
  · rw [filterMap_of_none rfl, h.routines]
  · rw [filterMap_of_none rfl, h.snapshots]
  · rw [filterMap_of_none rfl, h.entries]
  · exact h.readable

theorem insertRoutine (h : Reflects before records) {routine : Routine}
    (hversion : 1 ≤ routine.version) :
    Reflects (before ++ [.insertRoutine routine])
      { records with routines := records.routines ++ [routine] } := by
  constructor
  · rw [filterMap_of_none rfl, h.templates]
  · rw [filterMap_of_some newRoutine? rfl, List.map_append, List.map_append, h.routines]
  · rw [filterMap_of_none rfl, h.snapshots]
  · rw [filterMap_of_none rfl, h.entries]
  · exact List.forall_mem_append.mpr ⟨h.readable, List.forall_mem_singleton.mpr hversion⟩

theorem insertSnapshot (h : Reflects before records) (snapshot : Snapshot) :
    Reflects (before ++ [.insertSnapshot snapshot]) (records.insertSnapshot snapshot) := by
  constructor
  · rw [filterMap_of_none rfl]
    exact h.templates
  · rw [filterMap_of_none rfl]
    exact h.routines
  · rw [filterMap_of_some newSnapshot? rfl, ← h.snapshots]
    rfl
  · rw [filterMap_of_none rfl]
    exact h.entries
  · exact h.readable

theorem appendEntry (h : Reflects before records) (entry : Entry) :
    Reflects (before ++ [.appendEntry entry]) (records.appendEntry entry) := by
  constructor
  · rw [filterMap_of_none rfl]
    exact h.templates
  · rw [filterMap_of_none rfl]
    exact h.routines
  · rw [filterMap_of_none rfl]
    exact h.snapshots
  · rw [filterMap_of_some newEntry? rfl, ← h.entries]
    rfl
  · exact h.readable

/-- Routines are stored in whatever order of their moments they are inserted in. -/
theorem pairwise_created (h : Reflects before records) {R : Moment → Moment → Prop}
    (hall : ((before ++ access :: rest).filterMap newRoutine?).Pairwise
      fun r r' => R r.created r'.created) :
    records.routines.Pairwise fun r r' => R r.created r'.created := by
  have hmoments : records.routines.map Routine.created =
      (before.filterMap newRoutine?).map Routine.created := h.map_routines (·.2.2.2.2)
  have hcreated := hall.sublist sublist_filterMap
  rw [← List.pairwise_map (f := Routine.created)] at hcreated ⊢
  rwa [hmoments]

section Fair

variable (hfair : Fair (before ++ access :: rest))

include hfair

theorem filed (h : Reflects before records) : records.Filed := by
  rw [Memory.Filed, h.templates]
  exact fun t ht => hfair.categories t (sublist_filterMap.subset ht)

theorem nodup_routines (h : Reflects before records) :
    (records.routines.map Routine.id).Nodup := by
  rw [h.map_id]
  exact hfair.routineIds.sublist (sublist_filterMap.map _)

theorem ne_of_newRoutine (h : Reflects before records) {routine : Routine}
    (hnew : newRoutine? access = some routine) : ∀ r ∈ records.routines, r.id ≠ routine.id := by
  intro r hr
  have hid : r.id ∈ (before.filterMap newRoutine?).map Routine.id := by
    rw [← h.map_id]
    exact List.mem_map_of_mem hr
  obtain ⟨other, hother, heq⟩ := List.mem_map.mp hid
  exact heq ▸ ne_of_nodup hfair.routineIds hnew other hother

theorem snapshot?_of_newSnapshot (h : Reflects before records) {snapshot : Snapshot}
    (hnew : newSnapshot? access = some snapshot) :
    records.snapshot? snapshot.routine snapshot.version = none := by
  rw [Memory.snapshot?, h.snapshots]
  refine List.find?_eq_none.mpr fun s hs hkey => ?_
  simp only [Bool.and_eq_true, decide_eq_true_eq] at hkey
  exact ne_of_nodup hfair.versions hnew s hs (Prod.ext hkey.1 hkey.2)

end Fair

end Reflects

/-- Either kind of store answers an access from the same records and holds the same ones after it. -/
theorem Reflects.step (h : Reflects before records) (hfair : Fair (before ++ access :: rest))
    (hstorable : Storable (before ++ access :: rest)) :
    ∃ finding after, (∀ kind : StoreKind,
        access.work.perform (kind.hold records) = (.ok finding, kind.hold after)) ∧
      Reflects (before ++ [access]) after := by
  have hmem : access ∈ before ++ access :: rest := List.mem_append_right _ List.mem_cons_self
  have hfiled := h.filed hfair
  have hfits (n : Int) (hn : n ∈ access.numbers) (kind : StoreKind) : kind.Fits n := by
    cases kind with
    | memory => trivial
    | tables => exact hstorable.numbers access hmem n hn
  cases access with
  | template id =>
      exact ⟨_, records, fun kind => perform_map_ok _ (perform_template? hfiled id),
        h.asked ⟨rfl, rfl, rfl, rfl⟩⟩
  | templateByKey key =>
      exact ⟨_, records, fun kind => perform_map_ok _ (perform_templateByKey? hfiled key),
        h.asked ⟨rfl, rfl, rfl, rfl⟩⟩
  | templates =>
      exact ⟨_, records, fun kind => perform_map_ok _ (perform_listTemplates hfiled),
        h.asked ⟨rfl, rfl, rfl, rfl⟩⟩
  | insertTemplate template =>
      exact ⟨_, _, fun kind => perform_map_ok _ (perform_insertTemplate
          (h.templates ▸ ne_of_nodup hfair.templateIds rfl)
          (h.templates ▸ ne_of_nodup hfair.templateKeys rfl)),
        h.insertTemplate template⟩
  | routine id =>
      exact ⟨_, records, fun kind => perform_map_ok _ (perform_routine? h.readable id),
        h.asked ⟨rfl, rfl, rfl, rfl⟩⟩
  | routines scope status =>
      have hmade := h.pairwise_created hfair.created
      have hclocks := h.pairwise_created (R := fun m m' => m.wall < m'.wall) hstorable.clocks
      have hlist (kind : StoreKind) : (listRoutines scope status).perform (kind.hold records) =
          (.ok ((records.routines.filter fun r => r.scope = scope).filter
            fun r => status.all (· = r.status)), kind.hold records) := by
        rw [perform_listRoutines h.readable,
          kind.listing_of_pairwise (hmade.filter _) (hclocks.filter _)]
      exact ⟨_, records, fun kind => perform_map_ok _ (hlist kind), h.asked ⟨rfl, rfl, rfl, rfl⟩⟩
  | insertRoutine routine =>
      exact ⟨_, _, fun kind => perform_map_ok _ (perform_insertRoutine
          (h.ne_of_newRoutine hfair rfl) (hfits _ List.mem_cons_self kind)),
        h.insertRoutine (hfair.numbered routine (.inl hmem))⟩
  | writeRoutine routine =>
      obtain ⟨made, hmade, hagrees⟩ := hfair.rewrites before routine rest rfl
      have hlasting : routine.lasting ∈ records.routines.map Routine.lasting := by
        rw [h.routines, ← hagrees]
        exact List.mem_map_of_mem hmade
      obtain ⟨old, hold, hsame⟩ := List.mem_map.mp hlasting
      exact ⟨_, _, fun kind => perform_map_ok _
          (perform_writeRoutine (h.nodup_routines hfair) hold hsame (hfits _ List.mem_cons_self kind)),
        h.updateRoutine (f := (·.overwrite routine)) (fun _ => rfl)
          (fun _ _ => hfair.numbered routine (.inr hmem)) routine.id ⟨rfl, rfl, rfl, rfl⟩⟩
  | setDefinition id definition version =>
      have hpositive := hstorable.positive id definition version hmem
      exact ⟨_, _, fun kind => perform_map_ok _ (perform_setDefinition h.readable id definition
          hpositive (hfits _ List.mem_cons_self kind)),
        h.updateRoutine (f := fun r => { r with definition, version }) (fun _ => rfl)
          (fun _ _ => hpositive) id ⟨rfl, rfl, rfl, rfl⟩⟩
  | setStatus id status =>
      exact ⟨_, _, fun kind => perform_map_ok _ (perform_setStatus h.readable id status),
        h.updateRoutine (f := fun r => { r with status }) (fun _ => rfl) (fun _ hr => hr) id
          ⟨rfl, rfl, rfl, rfl⟩⟩
  | insertSnapshot snapshot =>
      exact ⟨_, _, fun kind => perform_map_ok _ (perform_insertSnapshot
          (h.snapshot?_of_newSnapshot hfair rfl) (hfits _ List.mem_cons_self kind)),
        h.insertSnapshot snapshot⟩
  | snapshot routine version =>
      exact ⟨_, records, fun kind => perform_map_ok _
          (perform_snapshot? (hfits _ List.mem_cons_self kind) routine),
        h.asked ⟨rfl, rfl, rfl, rfl⟩⟩
  | snapshots routine =>
      exact ⟨_, records, fun kind => perform_map_ok _ (perform_listSnapshots routine),
        h.asked ⟨rfl, rfl, rfl, rfl⟩⟩
  | appendEntry entry =>
      exact ⟨_, _, fun kind => perform_map_ok _
          (perform_appendEntry (h.entries ▸ ne_of_nodup hfair.entryIds rfl)),
        h.appendEntry entry⟩
  | entries routine page =>
      obtain ⟨hlimit, hoffset⟩ := hfair.pages routine page hmem
      exact ⟨_, records, fun kind => perform_map_ok _ (perform_entriesOf hlimit hoffset
          ⟨hfits _ List.mem_cons_self kind,
            hfits _ (List.mem_cons_of_mem _ List.mem_cons_self) kind⟩ routine),
        h.asked ⟨rfl, rfl, rfl, rfl⟩⟩
  | runEntries execution =>
      exact ⟨_, records, fun kind => perform_map_ok _ (perform_entriesOfExecution execution),
        h.asked ⟨rfl, rfl, rfl, rfl⟩⟩

/-- Stores of both kinds that hold the same records give the same answers. -/
theorem Reflects.answers (h : Reflects before records) (hfair : Fair (before ++ rest))
    (hstorable : Storable (before ++ rest)) :
    ∃ findings : List Finding, ∀ kind : StoreKind,
      (kind.hold records).answers rest = findings.map .ok := by
  induction rest generalizing before records with
  | nil => exact ⟨[], fun _ => rfl⟩
  | cons access rest ih =>
      obtain ⟨finding, after, hanswer, hafter⟩ := h.step hfair hstorable
      obtain ⟨findings, hrest⟩ := ih hafter (by simpa using hfair) (by simpa using hstorable)
      refine ⟨finding :: findings, fun kind => ?_⟩
      rw [Store.answers, hanswer, List.map_cons, ← hrest kind]

end Store

end Workflow
