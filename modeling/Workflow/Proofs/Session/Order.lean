import Workflow.Proofs.Catalog
import Workflow.Proofs.Conversation.Belonging
import Workflow.Proofs.Conversation.Run
import Workflow.Proofs.Dispatch.Protected
import Workflow.Proofs.Scope.Stance

/-!
# Engines in order

What is done with an engine in a session leaves it in order: its records are, the catalogue has
each key once, names that are still to be given are free, and the conversations at hand belong to
routines that are stored. `Engine.Sound` says so. Most of what an engine does only adds audit
entries to what it knows of its conversations; `Engine.Gains` says which.
-/

namespace Workflow

namespace ConversationTable

variable {table table' : ConversationTable} {c : Conversation} {id : String}

theorem find?_erase_self (table : ConversationTable) (id : String) :
    (table.erase id).find? id = none := by
  refine List.find?_eq_none.mpr fun c hc => ?_
  simpa using (List.mem_filter.mp hc).2

theorem find?_erase_of_ne (table : ConversationTable) {other : String} (h : id ≠ other) :
    (table.erase other).find? id = table.find? id := by
  rw [find?, erase, Keyed.find?, List.find?_filter]
  refine congrArg (List.find? · table.conversations) (funext fun c => ?_)
  by_cases hid : c.id = id
  · simp [hid, h]
  · simp [hid]

/-- Making room drops at most a conversation that was completed. -/
theorem find?_makeRoom (table : ConversationTable) (id : String) :
    table.makeRoom.find? id = table.find? id ∨
      table.makeRoom.find? id = none ∧ id ∈ table.finished := by
  unfold makeRoom
  split
  · rename_i oldest rest hfinished
    split
    · by_cases hid : id = oldest
      · subst hid
        exact .inr ⟨find?_erase_self table id, hfinished ▸ List.mem_cons_self⟩
      · exact .inl (find?_erase_of_ne table hid)
    · exact .inl rfl
  · exact .inl rfl

theorem finished_makeRoom (table : ConversationTable) :
    table.makeRoom.finished ⊆ table.finished := by
  unfold makeRoom
  split
  · rename_i oldest rest hfinished
    split
    · rw [hfinished]
      exact List.subset_cons_self _ _
    · exact List.Subset.refl _
  · exact List.Subset.refl _

/-- The second table is the first one with a conversation taken in. -/
structure Takes (c : Conversation) (table table' : ConversationTable) : Prop where
  self : table'.find? c.id = some c
  others : ∀ id, id ≠ c.id → table'.find? id = table.find? id ∨
    table'.find? id = none ∧ id ∈ table.finished
  finished : ∀ id ∈ table'.finished, id ∈ table.finished ∨ id = c.id ∧ c.state = .completed

theorem takes_put (c : Conversation) (table : ConversationTable) : Takes c table (table.put c) where
  self := Keyed.find?_put_self _ _ _
  others _ hne := .inl (Keyed.find?_put_of_ne _ _ hne.symm _)
  finished _ hid := .inl hid

theorem takes_track (c : Conversation) (table : ConversationTable) :
    Takes c table (table.track c) := by
  have hput := takes_put c table
  by_cases hnew : c.state = .completed ∧ c.id ∉ table.finished
  · rw [track_of_new hnew]
    have hroom (id : String) := find?_makeRoom (table.put c) id
    refine ⟨?_, fun id hne => ?_, fun id hid => ?_⟩
    · rcases hroom c.id with hsame | ⟨-, hmem⟩
      · exact hsame.trans hput.self
      · exact absurd hmem hnew.2
    · rcases hroom id with hsame | hgone
      · exact .inl (hsame.trans (Keyed.find?_put_of_ne _ _ hne.symm _))
      · exact .inr hgone
    · rcases List.mem_append.mp hid with hid | hid
      · exact .inl (finished_makeRoom (table.put c) hid)
      · exact .inr ⟨List.mem_singleton.mp hid, hnew.1⟩
  · rw [track_of_not hnew]
    exact hput

end ConversationTable

/-- An entry without the identifier it was given. -/
def Entry.nameless (entry : Entry) : Entry := { entry with id := "" }

namespace Memory

variable {records after : Memory} {rules : Graph.Rules} {made made' : Nat} {told : List Notice}

theorem Change.templates_eq (change : Change rules made records made' after told) :
    after.templates = records.templates := by
  cases change <;> rfl

/-- A call gives the routine no other status, unless it asks for that. -/
theorem status_of_writes {call : Call} (h : call.Writes rules records after) {id : String}
    (hother : ∀ status, call ≠ .setStatus id status) {routine : Routine}
    (found : records.routine? id = some routine) :
    ∃ routine', after.routine? id = some routine' ∧ routine'.status = routine.status := by
  have hadvanced (snapshot : Snapshot) : ∃ routine',
      (records.advanceTo snapshot).routine? id = some routine' ∧
        routine'.status = routine.status := by
    by_cases heq : snapshot.routine = id
    · subst heq
      exact ⟨_, routine?_advanceTo found, rfl⟩
    · refine ⟨routine, ?_, rfl⟩
      rw [advanceTo, routine?_updateRoutine_of_ne (by exact fun _ => rfl) _ heq]
      exact found
  cases h with
  | nothing | recorded => exact ⟨routine, found, rfl⟩
  | added created =>
      refine ⟨routine, ?_, rfl⟩
      change (records.routines ++ [created]).find? _ = _
      rw [List.find?_append, show records.routines.find? _ = some routine from found]
      rfl
  | updated | returned => exact hadvanced _
  | moved other status =>
      have hne : other ≠ id := fun heq => hother status (heq ▸ rfl)
      exact ⟨routine, by rwa [routine?_updateRoutine_of_ne (by exact fun _ => rfl) _ hne], rfl⟩

end Memory

namespace Engine

open Activity (Holds RetainsEach)
open Operation (Respects)

variable {X α : Type} {kind : StoreKind} {records records' : Memory}
variable {engine engine' engine'' : Engine X} {added more : List Entry}

/-- A conversation at hand goes by a name that was given and belongs to a routine that is stored,
and it counts as finished only when it is completed. -/
structure Attended (records : Memory) (made : Nat) (finished : List String) (c : Conversation) :
    Prop where
  named : ∃ n < made, c.id = Identifier.ofNumber n
  stored : ∃ routine, records.routine? c.routine = some routine
  finished : c.id ∈ finished → c.state = .completed
  placed : c.Placed

/-- The engine is in order, with these records. -/
structure Sound (kind : StoreKind) (records : Memory) (engine : Engine X) : Prop extends
    Keeps engine kind records where
  ids : (records.templates.map Template.id).Nodup
  keys : (records.templates.map Template.key).Nodup
  fresh : ∀ entry ∈ records.entries, ∀ n, engine.made ≤ n → entry.id ≠ Identifier.ofNumber n
  attended : ∀ id c, engine.table.find? id = some c →
    Attended records engine.made engine.table.finished c
  finished : ∀ id ∈ engine.table.finished, ∃ n < engine.made, id = Identifier.ofNumber n

/-- The engine is in order. -/
def InOrder (kind : StoreKind) (engine : Engine X) : Prop := ∃ records, engine.Sound kind records

/-- A new engine is in order. -/
theorem inOrder_new (engine : Engine X) (kind : StoreKind) (hstore : engine.store = kind.hold {})
    (htable : engine.table = { limit := engine.table.limit }) : engine.InOrder kind := by
  refine ⟨{}, ⟨hstore, .empty⟩, List.nodup_nil, List.nodup_nil, nofun, ?_, ?_⟩ <;> rw [htable]
  · intro id c hfind
    cases hfind
  · exact fun _ hmem => absurd hmem List.not_mem_nil

section Gains

/-- Only audit entries were added to what is known of conversations and routines. -/
structure Gained (added : List Entry) (records records' : Memory) (engine engine' : Engine X) :
    Prop where
  table : engine'.table = engine.table
  settings : engine'.settings = engine.settings
  unwritable : engine'.unwritable = engine.unwritable
  made : engine.made ≤ engine'.made
  routines : records'.routines = records.routines
  entries : records'.entries.map Entry.nameless = records.entries.map Entry.nameless ++ added

/-- An engine in order stays in order and only gets these entries. -/
def Gains (kind : StoreKind) (added : List Entry) (engine engine' : Engine X) : Prop :=
  ∀ records, engine.Sound kind records →
    ∃ records', engine'.Sound kind records' ∧ Gained added records records' engine engine'

theorem Attended.later {made made' : Nat} {finished : List String} {c : Conversation}
    (h : Attended records made finished c) (hmade : made ≤ made')
    (hroutines : ∀ id routine, records.routine? id = some routine →
      ∃ routine', records'.routine? id = some routine') : Attended records' made' finished c := by
  obtain ⟨⟨n, hn, hname⟩, ⟨routine, hroutine⟩, hfinished, hplaced⟩ := h
  exact ⟨⟨n, Nat.lt_of_lt_of_le hn hmade, hname⟩, hroutines _ _ hroutine, hfinished, hplaced⟩

/-- A request to a conversation leaves it where it belongs, and completed if it was. -/
theorem Attended.handle {made : Nat} {finished : List String} {c : Conversation}
    (h : Attended records made finished c) (recorder : Recorder) (request : Request) :
    Attended records made finished (c.handle recorder request).conversation := by
  obtain ⟨hid, hroutine⟩ := c.belonging_handle recorder request
  obtain ⟨⟨n, hn, hname⟩, hstored, hfinished, hplaced⟩ := h
  refine ⟨⟨n, hn, hid.trans hname⟩, hroutine.symm ▸ hstored, fun hmem => ?_, ?_⟩
  · have hcompleted := hfinished (hid ▸ hmem)
    obtain ⟨-, hsame, -⟩ :=
      Conversation.meet_of_completed hcompleted ⟨request, recorder, fun _ => .ok ()⟩
    exact (congrArg Conversation.state hsame).trans hcompleted
  · exact (Conversation.becomes_meet hplaced ⟨request, recorder, fun _ => .ok ()⟩).placed hplaced

/-- What has to be shown of records to which nothing but entries and templates was added. -/
theorem Sound.gain (h : engine.Sound kind records) (hkeeps : engine'.Keeps kind records')
    (hgained : Gained added records records' engine engine')
    (hids : (records'.templates.map Template.id).Nodup)
    (hkeys : (records'.templates.map Template.key).Nodup)
    (hfresh : ∀ entry ∈ records'.entries, ∀ n, engine'.made ≤ n →
      entry.id ≠ Identifier.ofNumber n) : engine'.Sound kind records' := by
  refine ⟨hkeeps, hids, hkeys, hfresh, fun id c hfind => ?_, fun id hid => ?_⟩
  · rw [hgained.table] at hfind ⊢
    refine (h.attended id c hfind).later hgained.made fun other routine hroutine => ?_
    rw [Memory.routine?, hgained.routines]
    exact ⟨routine, hroutine⟩
  · rw [hgained.table] at hid
    obtain ⟨n, hn, hname⟩ := h.finished id hid
    exact ⟨n, Nat.lt_of_lt_of_le hn hgained.made, hname⟩

theorem Gained.refl (records : Memory) (engine : Engine X) :
    Gained [] records records engine engine :=
  ⟨rfl, rfl, rfl, Nat.le_refl _, rfl, (List.append_nil _).symm⟩

theorem Gained.trans {records'' : Memory} (first : Gained added records records' engine engine')
    (rest : Gained more records' records'' engine' engine'') :
    Gained (added ++ more) records records'' engine engine'' where
  table := rest.table.trans first.table
  settings := rest.settings.trans first.settings
  unwritable := rest.unwritable.trans first.unwritable
  made := Nat.le_trans first.made rest.made
  routines := rest.routines.trans first.routines
  entries := by
    rw [rest.entries, first.entries, List.append_assoc]

theorem Gains.trans (first : Gains kind added engine engine')
    (rest : Gains kind more engine' engine'') : Gains kind (added ++ more) engine engine'' := by
  intro records h
  obtain ⟨between, h, hfirst⟩ := first records h
  obtain ⟨records', h, hrest⟩ := rest between h
  exact ⟨records', h, hfirst.trans hrest⟩

theorem Gains.inOrder (h : Gains kind added engine engine') (horder : engine.InOrder kind) :
    engine'.InOrder kind := by
  obtain ⟨records, hsound⟩ := horder
  obtain ⟨records', hsound', -⟩ := h records hsound
  exact ⟨records', hsound'⟩

instance : IsPreorder (Engine X) (Gains kind []) where
  refl engine records h := ⟨records, h, .refl records engine⟩
  trans _ _ _ first rest := first.trans rest

/-- Where the records are the same it is enough that names were at most made. -/
theorem gains_of_same (hstore : engine'.store = engine.store)
    (htable : engine'.table = engine.table) (hsettings : engine'.settings = engine.settings)
    (hunwritable : engine'.unwritable = engine.unwritable) (hmade : engine.made ≤ engine'.made) :
    Gains kind [] engine engine' := by
  intro records h
  have hgained : Gained [] records records engine engine' :=
    ⟨htable, hsettings, hunwritable, hmade, rfl, (List.append_nil _).symm⟩
  exact ⟨records, h.gain (h.toKeeps.of_made hstore hmade) hgained h.ids h.keys
    fun entry hentry n hn => h.fresh entry hentry n (Nat.le_trans hmade hn), hgained⟩

theorem Quiet.gains (h : Quiet engine engine') : Gains kind [] engine engine' :=
  gains_of_same h.store h.table h.settings h.unwritable h.made

theorem gains_notify (notice : Notice) : Respects (Gains kind []) (notify notice : Work X Unit) :=
  fun _ => gains_of_same rfl rfl rfl rfl (Nat.le_refl _)

/-- The entries that are kept of results of a run, when the store takes those of the routine. -/
def keptOf (reason : Option String) (routine execution : String)
    (results : List (Step × StepResult)) : List Entry :=
  match reason with
  | some _ => []
  | none => results.map fun result => .ofResult "" routine execution result.1 result.2

@[simp] theorem keptOf_nil (reason : Option String) (routine execution : String) :
    keptOf reason routine execution [] = [] := by
  cases reason <;> rfl

theorem keptOf_append (reason : Option String) (routine execution : String)
    (first rest : List (Step × StepResult)) :
    keptOf reason routine execution (first ++ rest) =
      keptOf reason routine execution first ++ keptOf reason routine execution rest := by
  cases reason with
  | some _ => rfl
  | none => exact List.map_append

theorem execution_of_mem_keptOf {reason : Option String} {routine execution : String}
    {results : List (Step × StepResult)} {entry : Entry}
    (h : entry ∈ keptOf reason routine execution results) : entry.execution = execution := by
  cases reason with
  | some _ => cases h
  | none =>
      obtain ⟨_, -, rfl⟩ := List.mem_map.mp h
      rfl

/-- A result is kept exactly when the store takes those of the routine. -/
theorem gains_audit (engine : Engine X) (routine execution : String) (step : Step)
    (result : StepResult) :
    Gains kind (keptOf (Dict.get? engine.unwritable routine) routine execution [(step, result)])
      engine ((audit routine execution step result).perform engine).2 := by
  intro records h
  let entry := Entry.ofResult (Identifier.ofNumber engine.made) routine execution step result
  let told : Engine X :=
    { engine with made := engine.made + 1, trail := engine.trail.append entry }
  have htold : Gains kind [] engine told :=
    gains_of_same rfl rfl rfl rfl (Nat.le_succ engine.made)
  rw [perform_audit]
  cases Dict.get? engine.unwritable routine with
  | some reason => exact htold records h
  | none =>
      obtain ⟨named, owned, contiguous, current⟩ := h.chronicled.mono (Nat.le_succ engine.made)
      have hnew : ∀ e ∈ records.entries, e.id ≠ entry.id := fun e he =>
        h.fresh e he engine.made (Nat.le_refl _)
      have happended : (stored (Store.appendEntry entry)).perform told =
          (.ok (), { told with store := kind.hold (records.appendEntry entry) }) :=
        perform_stored h.store (Store.perform_appendEntry hnew)
      dsimp only
      rw [happended]
      have hgained : Gained [entry.nameless] records (records.appendEntry entry) engine
          { told with store := kind.hold (records.appendEntry entry) } :=
        ⟨rfl, rfl, rfl, Nat.le_succ _, rfl, List.map_append⟩
      refine ⟨_, h.gain ⟨rfl, named, owned, contiguous, current⟩ hgained h.ids h.keys ?_, hgained⟩
      intro e he n hn
      rcases List.mem_append.mp he with he | he
      · exact h.fresh e he n (Nat.le_of_succ_le hn)
      · rw [List.mem_singleton.mp he]
        exact fun heq => Nat.ne_of_lt hn (Identifier.ofNumber_injective heq)

theorem gains_passOn (kind : StoreKind) (engine : Engine X) (c : Conversation) (effect : Effect) :
    Gains kind (keptOf (Dict.get? engine.unwritable c.routine) c.routine c.id (resultsOf [effect]))
      engine ((passOn c effect).perform engine).2 := by
  cases effect with
  | said step message => exact (keptOf_nil _ _ _).symm ▸ gains_notify _ engine
  | moved state => exact (keptOf_nil _ _ _).symm ▸ refl_of (Gains kind []) engine
  | recorded step result => exact gains_audit engine c.routine c.id step result

/-- The results among the effects of a turn are kept, one after another. -/
theorem gains_each_passOn (kind : StoreKind) (c : Conversation) (effects : List Effect)
    (engine : Engine X) :
    ∃ told engine', (Operation.each (passOn c) effects).perform engine = (.ok told, engine') ∧
      Gains kind (keptOf (Dict.get? engine.unwritable c.routine) c.routine c.id (resultsOf effects))
        engine engine' := by
  induction effects generalizing engine with
  | nil =>
      exact ⟨[], engine, rfl, (keptOf_nil _ _ _).symm ▸ refl_of (Gains kind []) engine⟩
  | cons effect rest ih =>
      have hfirst := gains_passOn kind engine c effect
      obtain ⟨between, hpassed⟩ : ∃ between,
          (passOn c effect).perform engine = (.ok (), between) := by
        cases effect <;> exact ⟨_, rfl⟩
      rw [hpassed] at hfirst
      obtain ⟨told, engine', hrest, hgains⟩ := ih between
      refine ⟨() :: told, engine', ?_, fun records h => ?_⟩
      · rw [Operation.each, Operation.perform_bind_ok hpassed, Operation.perform_bind_ok hrest]
        rfl
      · obtain ⟨middle, hmiddle, hgained⟩ := hfirst records h
        have hresults : resultsOf (effect :: rest) = resultsOf [effect] ++ resultsOf rest := by
          change resultsOf ([effect] ++ rest) = _
          exact List.filterMap_append
        rw [hgained.unwritable] at hgains
        rw [hresults, keptOf_append]
        exact hfirst.trans hgains records h

theorem plain_passOn (c : Conversation) (effect : Effect) :
    Respects Plain (passOn c effect : Work X Unit) := by
  cases effect with
  | said step message => exact plain_notify rfl
  | moved state => exact .pure _
  | recorded step result => exact .bind (.attempt (plain_audit _ _ _ _)) fun _ => .pure _

theorem plain_carryOut (c : Conversation) (request : Request) :
    Respects Plain (carryOut c request : Work X Outcome) :=
  .bind .get fun _ => .bind (.each (plain_passOn _) _) fun _ => .pure _

/-- A request to a conversation is carried out, and the results of its steps are kept. -/
theorem perform_carryOut (kind : StoreKind) (engine : Engine X) (c : Conversation)
    (request : Request) :
    let outcome := c.handle (recorderFor engine c.routine) request
    ∃ engine', (carryOut c request).perform engine = (.ok outcome, engine') ∧
      Gains kind (keptOf (Dict.get? engine.unwritable c.routine) c.routine c.id
        (resultsOf outcome.effects)) engine engine' := by
  intro outcome
  obtain ⟨hid, hroutine⟩ := c.belonging_handle (recorderFor engine c.routine) request
  obtain ⟨told, engine', hpassed, hgains⟩ :=
    gains_each_passOn kind outcome.conversation outcome.effects engine
  rw [hid, hroutine] at hgains
  refine ⟨engine', ?_, hgains⟩
  rw [carryOut, Operation.perform_bind_ok (Operation.perform_get engine)]
  exact Operation.perform_bind_ok hpassed

end Gains

section Publications

/-- Publishing a template writes nothing that conversations and routines know of. -/
theorem gains_publish (t : Template) : Respects (Gains kind []) (publish t : Work X Template) := by
  intro engine records h
  have hcatalogues : engine.Catalogues kind records := ⟨h.store, h.ids, h.keys⟩
  rcases hcatalogues.publish_outcome t with ⟨_, refused⟩ | ⟨-, hafter, published⟩
  · rw [refused]
    exact ⟨records, h, .refl records engine⟩
  · rw [published]
    obtain ⟨named, owned, contiguous, current⟩ := h.chronicled
    have hgained : Gained [] records (records.insertTemplate t) engine
        { engine with store := kind.hold (records.insertTemplate t) } :=
      ⟨rfl, rfl, rfl, Nat.le_refl _, rfl, (List.append_nil _).symm⟩
    exact ⟨_, h.gain ⟨rfl, named, owned, contiguous, current⟩ hgained hafter.ids hafter.keys
      h.fresh, hgained⟩

theorem gains_of_quiet {operation : Work X α} (h : Respects Quiet operation) :
    Respects (Gains kind []) operation := fun engine => (h engine).gains

theorem gains_afterPublication (publication : Publication) (engine : Engine X) :
    Gains kind [] engine (engine.afterPublication publication) := by
  cases publication with
  | publish t => exact gains_publish t engine
  | seed templates =>
      have hone (t : Template) :
          Respects (Gains kind []) (publishNew t : Work X (Option Template)) := by
        refine .bind (gains_of_quiet (quiet_stored (Store.perform_ask_snd _ _))) fun taken => ?_
        cases taken with
        | some _ => exact .pure _
        | none => exact .map _ (gains_publish t)
      refine Respects.bind (.each (fun t => ?_) templates) (fun _ => .pure _) engine
      exact .bind (gains_of_quiet (.map _ quiet_count)) fun _ => hone _

end Publications

/-- Whatever way the records change, the engine stays in order. -/
theorem Sound.change (h : engine.Sound kind records) {rules : Graph.Rules} {made : Nat}
    {told : List Notice} (change : Memory.Change rules engine.made records made records' told) :
    (engine.changed kind made records' told).Sound kind records' := by
  have hle := change.made_le
  refine ⟨⟨rfl, change.chronicled h.chronicled⟩, ?_, ?_, ?_, ?_, ?_⟩
  · rw [change.templates_eq]
    exact h.ids
  · rw [change.templates_eq]
    exact h.keys
  · rw [change.entries_eq]
    exact fun entry hentry n hn => h.fresh entry hentry n (Nat.le_trans hle hn)
  · intro id c hfind
    refine (h.attended id c hfind).later hle fun other routine hroutine => ?_
    obtain ⟨routine', hroutine', -⟩ := (change.extends h.chronicled).routine other routine hroutine
    exact ⟨routine', hroutine'⟩
  · intro id hid
    obtain ⟨n, hn, hname⟩ := h.finished id hid
    exact ⟨n, Nat.lt_of_lt_of_le hn hle, hname⟩

/-- A conversation is taken in that goes by a name that was given. One that counted as finished
before has to be completed still. -/
theorem Sound.take (h : engine.Sound kind records) {c : Conversation} {table : ConversationTable}
    (htakes : ConversationTable.Takes c engine.table table)
    (hc : Attended records engine.made engine.table.finished c) :
    Sound kind records { engine with table } := by
  obtain ⟨hnamed, hstored, hfinished, hplaced⟩ := hc
  refine ⟨⟨h.store, h.chronicled⟩, h.ids, h.keys, h.fresh, fun id d hfind => ?_, fun id hid => ?_⟩
  · have hid : d.id = id := (ConversationTable.mem_of_find? hfind).2
    by_cases hown : id = c.id
    · subst hown
      obtain rfl : c = d := Option.some.inj (htakes.self.symm.trans hfind)
      refine ⟨hnamed, hstored, fun hmem => ?_, hplaced⟩
      rcases htakes.finished c.id hmem with hmem | ⟨-, hcompleted⟩
      · exact hfinished hmem
      · exact hcompleted
    · rcases htakes.others id hown with hsame | ⟨hgone, -⟩
      · obtain ⟨hnamed, hstored, hfinished, hplaced⟩ := h.attended id d (hsame.symm.trans hfind)
        refine ⟨hnamed, hstored, fun hmem => ?_, hplaced⟩
        rcases htakes.finished d.id hmem with hmem | ⟨heq, -⟩
        · exact hfinished hmem
        · exact absurd (hid.symm.trans heq) hown
      · cases hgone.symm.trans hfind
  · rcases htakes.finished id hid with hmem | ⟨rfl, -⟩
    · exact h.finished id hmem
    · exact hnamed

/-- Whatever results of steps are kept and whatever is told, the engine stays in order. -/
theorem sheltered_inOrder (kind : StoreKind) :
    Sheltered (fun _ _ => True) fun (_ : Unit) (engine : Engine X) => engine.InOrder kind where
  quiet hquiet := fun _ => hquiet.gains.inOrder
  told _ := fun engine _ => (gains_notify _ engine).inOrder
  kept _ result := fun engine _ => (gains_audit engine _ _ _ result).inOrder
  called _ _ _ _ := trivial

end Engine

end Workflow
