import Workflow.Proofs.Dispatch.Serving
import Workflow.Proofs.Scope.Share

/-!
# What a scope sees of an engine

Two engines look alike to a scope when they keep the same share for it and stand at the same number.
`Engine.Sees` says so, and it also holds on to everything else: what lies behind the share of the
scope is given for each of the two engines. Work that is blind to this relation finds out nothing
about other scopes and, since what lies behind stays as it is given, does nothing to them either.

The engines have no graphs at hand. Work of a scope on routines that the scope has is blind, and
here this is shown for the pieces of work that everything else is put together from.
-/

namespace Workflow

namespace Memory

/-- The records of some routines have changed in a way, and the others are as they were. -/
structure Alters (scope : String) (mine : String → Bool) (made : Nat) (next : Memory → Memory)
    (records after : Memory) : Prop where
  tidy : after.Tidy made
  belongs : after.belongs scope = mine
  own : after.only mine = next (records.only mine)
  others : (after.only fun id => !mine id) = records.only fun id => !mine id

variable {records : Memory} {scope id : String} {mine : String → Bool} {made : Nat}

theorem exists_of_mine (h : records.belongs scope = mine) (hmine : mine id = true) :
    ∃ r ∈ records.routines, r.id = id := by
  rw [← h] at hmine
  obtain ⟨r, hr, hid, -⟩ := belongs_iff.mp hmine
  exact ⟨r, hr, hid⟩

theorem Tidy.alters_self (h : Tidy made records) (hbelongs : records.belongs scope = mine) :
    records.Alters scope mine made (fun share => share) records := ⟨h, hbelongs, rfl, rfl⟩

theorem Tidy.alters_insertSnapshot (h : Tidy made records) (hbelongs : records.belongs scope = mine)
    {snapshot : Snapshot} (hmine : mine snapshot.routine = true) :
    records.Alters scope mine made (·.insertSnapshot snapshot) (records.insertSnapshot snapshot) where
  tidy := h.insertSnapshot (exists_of_mine hbelongs hmine)
  belongs := hbelongs
  own := only_insertSnapshot hmine
  others := only_insertSnapshot_of_not (by rw [hmine, Bool.not_true])

theorem Tidy.alters_appendEntry (h : Tidy made records) (hbelongs : records.belongs scope = mine)
    {entry : Entry} (hmine : mine entry.routine = true)
    (hnamed : ∃ n < made, entry.id = Identifier.ofNumber n) :
    records.Alters scope mine made (·.appendEntry entry) (records.appendEntry entry) where
  tidy := h.appendEntry (exists_of_mine hbelongs hmine) hnamed
  belongs := hbelongs
  own := only_appendEntry hmine
  others := only_appendEntry_of_not (by rw [hmine, Bool.not_true])

theorem Tidy.alters_updateRoutine (h : Tidy made records) (hbelongs : records.belongs scope = mine)
    (hmine : mine id = true) {f : Routine → Routine}
    (hf : ∀ r, (f r).id = r.id ∧ (f r).scope = r.scope)
    (hversion : ∀ r, 1 ≤ r.version → 1 ≤ (f r).version) :
    records.Alters scope mine made (·.updateRoutine id f) (records.updateRoutine id f) where
  tidy := h.updateRoutine (fun r => (hf r).1) hversion id
  belongs := (belongs_updateRoutine hf id).trans hbelongs
  own := only_updateRoutine (fun r => (hf r).1) records mine id
  others := only_updateRoutine_of_not (fun r => (hf r).1) (by rw [hmine, Bool.not_true])

end Memory

namespace StoreKind

/-- What a store says when a version is recorded already. -/
def taken : StoreKind → Snapshot → Fault
  | .memory, snapshot =>
    .naming (.int snapshot.version) (.snapshotTaken snapshot.routine snapshot.version)
  | .tables, _ => .duplicateRow

end StoreKind

namespace Store

variable {α : Type} {kind : StoreKind} {records : Memory}

theorem perform_insertSnapshot_of_taken {snapshot found : Snapshot}
    (htaken : records.snapshot? snapshot.routine snapshot.version = some found)
    (hfits : kind.Fits snapshot.version) :
    (insertSnapshot snapshot).perform (kind.hold records) =
      (.error (kind.taken snapshot), kind.hold records) := by
  apply perform_change_error
  · rintro rfl
    rw [htaken]
    rfl
  · rintro rfl
    have hrow : (Tables.ofRecords records).versions.any fun row =>
        row.routine = snapshot.routine && row.version = snapshot.version := by
      rw [Tables.versions_ofRecords, List.any_map, List.any_eq_true]
      exact ⟨found, List.mem_of_find?_eq_some htaken, List.find?_some htaken⟩
    rw [Tables.insertSnapshot, Tables.checkColumn_of_fits hfits]
    simp only [bind, Except.bind, if_pos hrow]
    rfl

/-- What a question to a store is answered by what it asks the records and the rows. -/
theorem perform_ask_hold (ofMemory : Memory → α) (ofTables : Tables → Except Fault α)
    (records : Memory) :
    (ask ofMemory ofTables).perform (kind.hold records) =
      (match kind with
        | .memory => .ok (ofMemory records)
        | .tables => ofTables (.ofRecords records), kind.hold records) := by
  cases kind <;> rfl

end Store

namespace Engine

variable {X α : Type}

/-- What lies behind the share of a scope: the records of other routines, and the table of
conversations. -/
structure Backdrop where
  others : Memory
  table : ConversationTable

/-- How a scope looks at two engines: it has the routines with certain identifiers, and behind its
share the engines are as given. -/
structure Outlook (X : Type) where
  kind : StoreKind
  scope : String
  /-- The scope has a routine with the identifier. -/
  mine : String → Bool
  left : Backdrop
  right : Backdrop
  settings : Settings
  registry : Registry X
  /-- The number the engines had at least. -/
  since : Nat

/-- The engine keeps tidy records, of which the scope sees a share. -/
structure Shows (o : Outlook X) (behind : Backdrop) (share records : Memory) (engine : Engine X) :
    Prop where
  store : engine.store = o.kind.hold records
  tidy : records.Tidy engine.made
  belongs : records.belongs o.scope = o.mine
  share : records.only o.mine = share
  others : (records.only fun id => !o.mine id) = behind.others
  table : engine.table = behind.table
  graphs : engine.graphs = { limit := 0 }
  unwritable : engine.unwritable = []
  settings : engine.settings = o.settings
  registry : engine.registry = o.registry
  since : o.since ≤ engine.made

/-- The engines look alike to the scope, and behind its share they are as given. -/
def Sees (o : Outlook X) (engine engine' : Engine X) : Prop :=
  ∃ share records records', Shows o o.left share records engine ∧
    Shows o o.right share records' engine' ∧ engine.made = engine'.made

/-- An engine that differs only in what is never looked at again, and in how much was made. -/
structure Follows (engine engine' : Engine X) : Prop where
  store : engine'.store = engine.store
  table : engine'.table = engine.table
  graphs : engine'.graphs = engine.graphs
  unwritable : engine'.unwritable = engine.unwritable
  settings : engine'.settings = engine.settings
  registry : engine'.registry = engine.registry
  made : engine.made ≤ engine'.made

variable {o : Outlook X} {behind : Backdrop} {share records after : Memory}
variable {engine engine' : Engine X} {id : String}

/-- A routine of another scope is not there. -/
theorem perform_routine_apart {kind : StoreKind} {scope : String}
    (hstore : engine.store = kind.hold records) (hreadable : records.Readable)
    (hapart : ∀ r, records.routine? id = some r → r.scope ≠ scope) :
    (routine id (some scope)).perform engine = (.error (.noRoutine id), engine) := by
  rw [routine, Operation.perform_bind_ok
    (perform_stored_same hstore (Store.perform_routine? hreadable id))]
  cases hfound : records.routine? id with
  | none => rfl
  | some found =>
      have hscope : ¬ (some scope).all (· = found.scope) = true := by
        simpa using (hapart found hfound).symm
      change (if _ then _ else _ : Work X Routine).perform engine = _
      rw [if_neg hscope]
      rfl

namespace Shows

theorem follows (h : Shows o behind share records engine) (hfollows : engine.Follows engine') :
    Shows o behind share records engine' where
  store := hfollows.store.trans h.store
  tidy := h.tidy.mono hfollows.made
  belongs := h.belongs
  share := h.share
  others := h.others
  table := hfollows.table.trans h.table
  graphs := hfollows.graphs.trans h.graphs
  unwritable := hfollows.unwritable.trans h.unwritable
  settings := hfollows.settings.trans h.settings
  registry := hfollows.registry.trans h.registry
  since := Nat.le_trans h.since hfollows.made

/-- From another number on. -/
theorem with_since (h : Shows o behind share records engine) {since : Nat}
    (hle : since ≤ engine.made) : Shows { o with since } behind share records engine where
  store := h.store
  tidy := h.tidy
  belongs := h.belongs
  share := h.share
  others := h.others
  table := h.table
  graphs := h.graphs
  unwritable := h.unwritable
  settings := h.settings
  registry := h.registry
  since := hle

theorem altered (h : Shows o behind share records engine) {next : Memory → Memory}
    (halters : records.Alters o.scope o.mine engine.made next after) :
    Shows o behind (next share) after { engine with store := o.kind.hold after } where
  store := rfl
  tidy := halters.tidy
  belongs := halters.belongs
  share := by rw [halters.own, h.share]
  others := halters.others.trans h.others
  table := h.table
  graphs := h.graphs
  unwritable := h.unwritable
  settings := h.settings
  registry := h.registry
  since := h.since

/-- The routines with identifiers of the scope are those of the scope. -/
theorem mine_id (h : Shows o behind share records engine) {r : Routine}
    (hr : r ∈ records.routines) : o.mine r.id = true ↔ r.scope = o.scope := by
  rw [← h.belongs, h.tidy.belongs_id hr]

/-- A routine that the scope does not have is not there for it. -/
theorem routine_refused (h : Shows o behind share records engine) (hmine : o.mine id = false) :
    (routine id (some o.scope)).perform engine = (.error (.noRoutine id), engine) := by
  refine perform_routine_apart h.store h.tidy.readable fun r hfound hscope => ?_
  obtain ⟨hmem, rfl⟩ := Memory.mem_of_routine? hfound
  rw [(h.mine_id hmem).mpr hscope] at hmine
  cases hmine

end Shows

theorem Sees.since_le {since : Nat} (h : Sees { o with since } engine engine')
    (hle : o.since ≤ since) : Sees o engine engine' := by
  obtain ⟨share, records, records', hs, ht, hmade⟩ := h
  exact ⟨share, records, records', hs.with_since (Nat.le_trans hle hs.since),
    ht.with_since (Nat.le_trans hle ht.since), hmade⟩

theorem Sees.settings_eq (h : Sees o engine engine') : engine.settings = engine'.settings := by
  obtain ⟨_, _, _, hs, ht, -⟩ := h
  rw [hs.settings, ht.settings]

open Operation (Blind)

/-- Changing parts of the engines that do not count. -/
theorem blind_modify {f : Engine X → Engine X}
    (hf : ∀ engine : Engine X, engine.Follows (f engine) ∧ (f engine).made = engine.made) :
    Blind (Sees o) (modify f : Work X PUnit) := by
  refine .modify fun s t ⟨share, records, records', hs, ht, hmade⟩ => ?_
  refine ⟨share, records, records', hs.follows (hf s).1, ht.follows (hf t).1, ?_⟩
  rw [(hf s).2, (hf t).2, hmade]

theorem blind_notify (notice : Notice) : Blind (Sees o) (notify notice : Work X Unit) :=
  blind_modify fun _ => ⟨⟨rfl, rfl, rfl, rfl, rfl, rfl, Nat.le_refl _⟩, rfl⟩

theorem follows_count (engine : Engine X) :
    engine.Follows { engine with made := engine.made + 1 } :=
  ⟨rfl, rfl, rfl, rfl, rfl, rfl, Nat.le_succ _⟩

theorem blind_count : Blind (Sees o) (count : Work X Nat) := by
  intro s t ⟨share, records, records', hs, ht, hmade⟩
  exact ⟨congrArg Except.ok hmade, share, records, records', hs.follows (follows_count s),
    ht.follows (follows_count t), congrArg (· + 1) hmade⟩

theorem blind_fresh : Blind (Sees o) (fresh : Work X String) := .map _ blind_count

/-- Going on after a new identifier, which is given to nothing else. -/
theorem leads_fresh {Q : Engine X → Engine X → Prop} {f : String → Work X α}
    (h : ∀ n, o.since ≤ n → Operation.Leads (Sees { o with since := n + 1 }) Q
      (f (Identifier.ofNumber n))) : Operation.Leads (Sees o) Q (fresh >>= f) := by
  intro s t ⟨share, records, records', hs, ht, hmade⟩
  have hfresh (engine : Engine X) : (fresh >>= f).perform engine =
      (f (Identifier.ofNumber engine.made)).perform { engine with made := engine.made + 1 } := rfl
  rw [hfresh, hfresh, ← hmade]
  refine h s.made hs.since _ _ ⟨share, records, records',
    (hs.follows (follows_count s)).with_since (Nat.le_refl _), ?_, rfl⟩
  rw [hmade]
  exact (ht.follows (follows_count t)).with_since (Nat.le_refl _)

theorem blind_send (mail : Mail) : Blind (Sees o) (send mail : Work X Receipt) :=
  .bind (blind_modify fun _ => ⟨⟨rfl, rfl, rfl, rfl, rfl, rfl, Nat.le_refl _⟩, rfl⟩) fun _ =>
    .bind blind_count fun _ => .pure _

theorem blind_check (d : Definition) : Blind (Sees o) (check d : Work X Graph) :=
  .reading (fun s t hst => by rw [hst.settings_eq]) fun _ => .ofExcept _

section Stored

/-- Work on the store that concerns the share of the scope alone. -/
theorem blind_stored {work : Store.Work α} (answer : Memory → Except Fault α)
    (next : Memory → Memory)
    (h : ∀ records made, records.Tidy made → records.belongs o.scope = o.mine →
      ∃ after, work.perform (o.kind.hold records) = (answer (records.only o.mine), o.kind.hold after) ∧
        records.Alters o.scope o.mine made next after) :
    Blind (Sees o) (stored work : Work X α) := by
  intro s t ⟨share, records, records', hs, ht, hmade⟩
  obtain ⟨after, hperform, halters⟩ := h records s.made hs.tidy hs.belongs
  obtain ⟨after', hperform', halters'⟩ := h records' t.made ht.tidy ht.belongs
  rw [perform_stored hs.store hperform, perform_stored ht.store hperform', hs.share, ht.share]
  exact ⟨rfl, next share, after, after', hs.altered halters, ht.altered halters', hmade⟩

/-- Asking the store about the share of the scope. -/
theorem blind_asked {work : Store.Work α} (answer : Memory → Except Fault α)
    (h : ∀ records : Memory, records.Readable →
      (∀ r ∈ records.routines, o.mine r.id = true ↔ r.scope = o.scope) →
      work.perform (o.kind.hold records) = (answer (records.only o.mine), o.kind.hold records)) :
    Blind (Sees o) (stored work : Work X α) := by
  refine blind_stored answer (fun share => share) fun records made htidy hbelongs => ⟨records, ?_, ?_⟩
  · refine h records htidy.readable fun r hr => ?_
    rw [← hbelongs, htidy.belongs_id hr]
  · exact htidy.alters_self hbelongs

/-- Asking the store for something that the share of the scope is enough for. -/
theorem blind_ask {ofMemory : Memory → α} {ofTables : Tables → Except Fault α}
    (hmemory : ∀ records : Memory, ofMemory (records.only o.mine) = ofMemory records)
    (htables : ∀ records : Memory, ofTables (.ofRecords (records.only o.mine)) =
      ofTables (.ofRecords records)) :
    Blind (Sees o) (stored (Store.ask ofMemory ofTables) : Work X α) := by
  refine blind_asked (fun share => match o.kind with
    | .memory => .ok (ofMemory share)
    | .tables => ofTables (.ofRecords share)) fun records _ _ => ?_
  rw [Store.perform_ask_hold, hmemory, htables]

theorem blind_listTemplates : Blind (Sees o) (stored Store.listTemplates : Work X (List Template)) :=
  blind_ask (fun _ => rfl) fun _ => rfl

theorem blind_template? (id : String) :
    Blind (Sees o) (stored (Store.template? id) : Work X (Option Template)) :=
  blind_ask (fun _ => rfl) fun _ => rfl

theorem blind_templateByKey? (key : String) :
    Blind (Sees o) (stored (Store.templateByKey? key) : Work X (Option Template)) :=
  blind_ask (fun _ => rfl) fun _ => rfl

theorem blind_listRoutines (status : Option RoutineStatus) :
    Blind (Sees o) (stored (Store.listRoutines o.scope status) : Work X (List Routine)) := by
  refine blind_asked (fun share => o.kind.listing status share.routines)
    fun records hreadable hmine => ?_
  rw [Store.perform_listRoutines hreadable]
  have hsame : (records.routines.filter fun r => r.scope = o.scope) =
      (records.only o.mine).routines := by
    refine List.filter_congr fun r hr => ?_
    rw [Bool.eq_iff_iff, decide_eq_true_eq, hmine r hr]
  rw [hsame]

variable (hmine : o.mine id = true)

include hmine

theorem blind_routine? : Blind (Sees o) (stored (Store.routine? id) : Work X (Option Routine)) := by
  refine blind_asked (fun share => .ok (share.routine? id)) fun records hreadable _ => ?_
  rw [Store.perform_routine? hreadable, Memory.routine?_only hmine]

theorem blind_listSnapshots :
    Blind (Sees o) (stored (Store.listSnapshots id) : Work X (List Snapshot)) := by
  refine blind_asked (fun share => .ok (share.listSnapshots id)) fun records _ _ => ?_
  rw [Store.perform_listSnapshots, Memory.listSnapshots_only hmine]

theorem blind_snapshot? (version : Int) :
    Blind (Sees o) (stored (Store.snapshot? id version) : Work X (Option Snapshot)) := by
  by_cases hfits : o.kind.Fits version
  · refine blind_asked (fun share => .ok (share.snapshot? id version)) fun records _ _ => ?_
    rw [Store.perform_snapshot? hfits, Memory.snapshot?_only hmine]
  · exact blind_asked (fun _ => .error (.oversizeColumn version)) fun records _ _ =>
      Store.perform_snapshot?_of_not_fits hfits id

theorem blind_entriesOf (page : Page) :
    Blind (Sees o) (stored (Store.entriesOf id page) : Work X (List Entry)) := by
  refine blind_ask (fun records => by rw [Memory.entriesOf_only hmine]) fun records => ?_
  have hrows (records : Memory) : (Tables.ofRecords records).entries.filter
      (fun row => row.routine = id) = (records.entriesOf id).map .ofEntry := by
    rw [Tables.entries_ofRecords, List.filter_map]
    rfl
  rw [Tables.entriesOf, Tables.entriesOf, hrows, hrows, Memory.entriesOf_only hmine]

omit hmine in
theorem blind_insertSnapshot {snapshot : Snapshot} (hmine : o.mine snapshot.routine = true) :
    Blind (Sees o) (stored (Store.insertSnapshot snapshot) : Work X Unit) := by
  by_cases hfits : o.kind.Fits snapshot.version
  · refine blind_stored
      (fun share => (share.snapshot? snapshot.routine snapshot.version).elim (.ok ())
        fun _ => .error (o.kind.taken snapshot))
      (fun share => (share.snapshot? snapshot.routine snapshot.version).elim
        (share.insertSnapshot snapshot) fun _ => share) fun records made htidy hbelongs => ?_
    rw [Memory.snapshot?_only hmine]
    cases htaken : records.snapshot? snapshot.routine snapshot.version with
    | some found =>
        refine ⟨records, Store.perform_insertSnapshot_of_taken htaken hfits, htidy, hbelongs, ?_, rfl⟩
        rw [Memory.snapshot?_only hmine, htaken, Option.elim_some]
    | none =>
        obtain ⟨htidy', hbelongs', hown, hothers⟩ := htidy.alters_insertSnapshot hbelongs hmine
        refine ⟨records.insertSnapshot snapshot, Store.perform_insertSnapshot htaken hfits, htidy',
          hbelongs', ?_, hothers⟩
        rw [Memory.snapshot?_only hmine, htaken, hown, Option.elim_none]
  · exact blind_asked (fun _ => .error (.oversizeColumn snapshot.version)) fun records _ _ =>
      Store.perform_insertSnapshot_of_not_fits hfits

theorem blind_setDefinition (definition : Definition) {version : Int} (hpos : 1 ≤ version)
    (hfits : o.kind.Fits version) :
    Blind (Sees o) (stored (Store.setDefinition id definition version) : Work X (Option Routine)) := by
  let f (r : Routine) : Routine := { r with definition, version }
  refine blind_stored (fun share => .ok ((share.updateRoutine id f).routine? id))
    (·.updateRoutine id f) fun records made htidy hbelongs => ⟨records.updateRoutine id f, ?_,
      htidy.alters_updateRoutine hbelongs hmine (fun _ => ⟨rfl, rfl⟩) fun _ _ => hpos⟩
  rw [Store.perform_setDefinition htidy.readable id definition hpos hfits,
    ← Memory.only_updateRoutine (f := f) (fun _ => rfl), Memory.routine?_only hmine]

theorem blind_putStatus (status : RoutineStatus) :
    Blind (Sees o) (stored (Store.setStatus id status) : Work X (Option Routine)) := by
  let f (r : Routine) : Routine := { r with status }
  refine blind_stored (fun share => .ok ((share.updateRoutine id f).routine? id))
    (·.updateRoutine id f) fun records made htidy hbelongs => ⟨records.updateRoutine id f, ?_,
      htidy.alters_updateRoutine hbelongs hmine (fun _ => ⟨rfl, rfl⟩) fun _ hr => hr⟩
  rw [Store.perform_setStatus htidy.readable id status,
    ← Memory.only_updateRoutine (f := f) (fun _ => rfl), Memory.routine?_only hmine]

end Stored

/-- A result of a routine is kept, under an identifier of its own. -/
theorem Shows.perform_audit (h : Shows o behind share records engine) (hmine : o.mine id = true)
    (execution : String) (step : Step) (result : StepResult) :
    let entry := Entry.ofResult (Identifier.ofNumber engine.made) id execution step result
    ∃ engine', (audit id execution step result).perform engine = (.ok (), engine') ∧
      Shows o behind (share.appendEntry entry) (records.appendEntry entry) engine' ∧
      engine'.made = engine.made + 1 := by
  intro entry
  let told : Engine X :=
    { engine with made := engine.made + 1, trail := engine.trail.append entry }
  have htold : Shows o behind share records told :=
    h.follows ⟨rfl, rfl, rfl, rfl, rfl, rfl, Nat.le_succ _⟩
  have hnew : ∀ e ∈ records.entries, e.id ≠ entry.id := by
    intro e he heq
    obtain ⟨n, hn, hname⟩ := h.tidy.dated e he
    have := Identifier.ofNumber_injective (hname.symm.trans heq)
    omega
  have hnamed : ∃ n < told.made, entry.id = Identifier.ofNumber n :=
    ⟨engine.made, Nat.lt_succ_self _, rfl⟩
  refine ⟨{ told with store := o.kind.hold (records.appendEntry entry) }, ?_,
    htold.altered (htold.tidy.alters_appendEntry h.belongs hmine hnamed), rfl⟩
  have hwritable : Dict.get? engine.unwritable id = none := by
    rw [h.unwritable]
    rfl
  rw [Engine.perform_audit, hwritable]
  exact perform_stored htold.store (Store.perform_appendEntry hnew)

theorem blind_audit (hmine : o.mine id = true) (execution : String) (step : Step)
    (result : StepResult) : Blind (Sees o) (audit id execution step result : Work X Unit) := by
  intro s t ⟨share, records, records', hs, ht, hmade⟩
  obtain ⟨s', hperform, hshows, hmade₁⟩ := hs.perform_audit hmine execution step result
  obtain ⟨t', hperform', hshows', hmade₂⟩ := ht.perform_audit hmine execution step result
  rw [hperform, hperform']
  rw [← hmade] at hshows'
  refine ⟨rfl, _, _, _, hshows, hshows', ?_⟩
  rw [hmade₁, hmade₂, hmade]

end Engine

end Workflow
