import Workflow.Engine.Conversations
import Workflow.Proofs.Conversation.Belonging
import Workflow.Proofs.Scope.Lookup

/-!
# What a call leaves behind

A call of a scope may end with one change of what was held on to: the scope gets a further routine,
or the table of conversations takes in a conversation of the scope. `Engine.Settled` relates the two
engines after a call. A conversation that is taken in either is new or stands in both tables before,
with the same routine.
-/

namespace Workflow

/-- What a call does to the table of conversations. -/
inductive Turnover where
  | nothing
  /-- The conversation takes the place of the one with its id. -/
  | put (c : Conversation)
  /-- The conversation is taken in as it stands after a request. -/
  | track (c : Conversation)

namespace Turnover

/-- The table afterwards. -/
def on : Turnover → ConversationTable → ConversationTable
  | nothing, table => table
  | put c, table => table.put c
  | track c, table => table.track c

/-- The conversation that is written. -/
def conversation? : Turnover → Option Conversation
  | nothing => none
  | put c | track c => some c

end Turnover

/-- The conversation stands in the table, as it is or as it was before. -/
def ConversationTable.Knows (table : ConversationTable) (c : Conversation) : Prop :=
  ∃ old ∈ table.conversations, old.id = c.id ∧ old.routine = c.routine

namespace ConversationTable

variable {table table' : ConversationTable} {mine : String → Bool} {c : Conversation} {id : String}

theorem mem_of_find? (h : table.find? id = some c) : c ∈ table.conversations ∧ c.id = id :=
  ⟨List.mem_of_find?_eq_some h, by simpa using List.find?_some h⟩

theorem find?_of_mem (hdistinct : (table.conversations.map Conversation.id).Nodup)
    (hc : c ∈ table.conversations) : table.find? c.id = some c := by
  cases hfind : table.find? c.id with
  | none => exact absurd (decide_eq_true rfl) (List.find?_eq_none.mp hfind c hc)
  | some found =>
      obtain ⟨hmem, hid⟩ := mem_of_find? hfind
      rw [List.inj_on_of_nodup_map hdistinct hmem hc hid]

/-- Two tables with the same conversations of some routines find the same ones of these. -/
theorem find?_of_alike
    (hsame : (table.conversations.filter fun c => mine c.routine) =
      table'.conversations.filter fun c => mine c.routine)
    (hdistinct : (table'.conversations.map Conversation.id).Nodup)
    (h : table.find? id = some c) (hmine : mine c.routine = true) : table'.find? id = some c := by
  obtain ⟨hmem, rfl⟩ := mem_of_find? h
  have hmem' : c ∈ table'.conversations.filter fun c => mine c.routine :=
    hsame ▸ List.mem_filter.mpr ⟨hmem, hmine⟩
  exact find?_of_mem hdistinct (List.mem_filter.mp hmem').1

end ConversationTable

namespace Memory

variable {records : Memory} {made : Nat}

/-- The records of some routines depend on which of the routines that are there are meant. -/
theorem Tidy.only_congr (h : Tidy made records) {mine mine' : String → Bool}
    (hsame : ∀ r ∈ records.routines, mine r.id = mine' r.id) :
    records.only mine = records.only mine' := by
  have howned {id : String} (howned : ∃ r ∈ records.routines, r.id = id) : mine id = mine' id := by
    obtain ⟨r, hr, rfl⟩ := howned
    exact hsame r hr
  simp only [only, List.filter_congr hsame,
    List.filter_congr fun s hs => howned (h.recorded s hs),
    List.filter_congr fun e he => howned (h.audited e he)]

theorem Tidy.addRoutine (h : Tidy made records) {routine : Routine} {n : Nat} (fresh : made ≤ n)
    (named : routine.id = Identifier.ofNumber n) (hpos : 1 ≤ routine.version) :
    Tidy (n + 1) { records with routines := records.routines ++ [routine] } := by
  have hmono := h.mono (Nat.le_succ_of_le fresh)
  have howner {id : String} (howner : ∃ r ∈ records.routines, r.id = id) :
      ∃ r ∈ records.routines ++ [routine], r.id = id := by
    obtain ⟨r, hr, hid⟩ := howner
    exact ⟨r, List.mem_append_left _ hr, hid⟩
  refine ⟨?_, ?_, ?_, fun s hs => howner (h.recorded s hs), fun e he => howner (h.audited e he),
    hmono.dated⟩
  · intro r hr
    rcases List.mem_append.mp hr with hr | hr
    · exact hmono.named r hr
    · rw [List.mem_singleton.mp hr]
      exact ⟨n, Nat.lt_succ_self n, named⟩
  · rw [List.map_append, List.map_singleton]
    refine List.nodup_append.mpr ⟨h.distinct, List.nodup_singleton _, fun id hid other hother => ?_⟩
    obtain ⟨r, hr, rfl⟩ := List.mem_map.mp hid
    rw [List.mem_singleton.mp hother, named]
    exact h.ne_of_fresh fresh r hr
  · intro r hr
    rcases List.mem_append.mp hr with hr | hr
    · exact h.readable r hr
    · rwa [List.mem_singleton.mp hr]

end Memory

namespace Engine

variable {X : Type} {o : Outlook X} {engine engine' : Engine X} {id : String}

namespace Outlook

/-- The outlook after the tables have changed. -/
def turned (o : Outlook X) (change : Turnover) : Outlook X :=
  { o with left := { o.left with table := change.on o.left.table }
           right := { o.right with table := change.on o.right.table } }

/-- The conversation belongs to the scope, and is new or stands in both tables. -/
structure Fair (o : Outlook X) (made : Nat) (c : Conversation) : Prop where
  mine : o.mine c.routine = true
  known : (∃ n, o.since ≤ n ∧ n < made ∧ c.id = Identifier.ofNumber n) ∨
    o.left.table.Knows c ∧ o.right.table.Knows c

end Outlook

/-- The engines look alike to the scope after a call. -/
def Settled (o : Outlook X) (engine engine' : Engine X) : Prop :=
  ∃ mine change, (∀ id, o.mine id = true → mine id = true) ∧
    (∀ c, Turnover.conversation? change = some c → o.Fair engine.made c) ∧
    Sees ({ o with mine }.turned change) engine engine'

theorem Sees.settled (h : Sees o engine engine') : Settled o engine engine' :=
  ⟨o.mine, .nothing, fun _ hid => hid, nofun, h⟩

/-- The tables take in a conversation. -/
theorem Sees.turned (h : Sees o engine engine') (change : Turnover)
    (hfair : ∀ c, change.conversation? = some c → o.Fair engine.made c) :
    Settled o { engine with table := change.on engine.table }
      { engine' with table := change.on engine'.table } := by
  obtain ⟨share, records, records', hs, ht, hmade⟩ := h
  refine ⟨o.mine, change, fun _ hid => hid, hfair, share, records, records', ?_, ?_, hmade⟩
  · exact ⟨hs.store, hs.tidy, hs.belongs, hs.share, hs.others, congrArg change.on hs.table,
      hs.graphs, hs.unwritable, hs.settings, hs.registry, hs.since⟩
  · exact ⟨ht.store, ht.tidy, ht.belongs, ht.share, ht.others, congrArg change.on ht.table,
      ht.graphs, ht.unwritable, ht.settings, ht.registry, ht.since⟩

open Operation (Blind Leads)

section Instantiate

/-- A routine that the scope gets is seen by the scope and by nobody else. -/
theorem Shows.added {behind : Backdrop} {share records : Memory}
    (h : Shows o behind share records engine) {routine : Routine}
    (hid : routine.id = Identifier.ofNumber engine.made) (hversion : routine.version = 1)
    (hscope : routine.scope = o.scope) (definition : Definition) (createdBy : String)
    (told : List Notice) :
    let snapshot : Snapshot := ⟨routine.id, 1, definition, createdBy⟩
    let mine (id : String) : Bool := o.mine id || decide (id = routine.id)
    Shows { o with mine } behind
      ({ share with routines := share.routines ++ [routine] }.insertSnapshot snapshot)
      ({ records with routines := records.routines ++ [routine] }.insertSnapshot snapshot)
      (engine.changed o.kind (engine.made + 1)
        ({ records with routines := records.routines ++ [routine] }.insertSnapshot snapshot)
        told) := by
  intro snapshot mine
  let added : Memory := { records with routines := records.routines ++ [routine] }
  have hnew (r : Routine) (hr : r ∈ records.routines) : r.id ≠ routine.id := by
    rw [hid]
    exact h.tidy.ne_of_fresh (Nat.le_refl _) r hr
  have hself : mine routine.id = true := by simp [mine]
  have hsame : ∀ r ∈ records.routines, mine r.id = o.mine r.id := by
    intro r hr
    simp only [mine, hnew r hr, decide_false, Bool.or_false]
  have htidy : added.Tidy (engine.made + 1) :=
    h.tidy.addRoutine (Nat.le_refl _) hid (by rw [hversion])
  have hbelongs : added.belongs o.scope = mine := by
    funext other
    have hone : ([routine].any fun r => r.id = other && r.scope = o.scope) =
        decide (other = routine.id) := by simp [hscope, eq_comm (a := other)]
    rw [Memory.belongs, List.any_append, ← Memory.belongs, h.belongs, hone]
  refine ⟨rfl, htidy.insertSnapshot ⟨routine, List.mem_append_right _ (List.mem_singleton_self _), rfl⟩,
    hbelongs, ?_, ?_, h.table, h.graphs, h.unwritable, h.settings, h.registry,
    Nat.le_succ_of_le h.since⟩
  · have hadded : added.only mine =
        { records.only mine with routines := (records.only mine).routines ++ [routine] } := by
      simp [added, Memory.only, hself]
    change (added.insertSnapshot snapshot).only mine = _
    rw [Memory.only_insertSnapshot hself, hadded, h.tidy.only_congr hsame, h.share]
  · have hadded : (added.only fun id => !mine id) = records.only fun id => !mine id := by
      simp [added, Memory.only, hself]
    change (added.insertSnapshot snapshot).only (fun id => !mine id) = _
    rw [Memory.only_insertSnapshot_of_not (by exact congrArg not hself), hadded, ← h.others]
    exact h.tidy.only_congr fun r hr => congrArg not (hsame r hr)

/-- A routine that is made gets an identifier that nothing else has, and a first version. -/
theorem Shows.perform_make {behind : Backdrop} {share records : Memory}
    (h : Shows o behind share records engine) (make : String → Routine)
    (hid : ∀ id, (make id).id = id) (hversion : ∀ id, (make id).version = 1) :
    let routine := make (Identifier.ofNumber engine.made)
    let snapshot : Snapshot := ⟨routine.id, 1, routine.definition, routine.createdBy⟩
    (do
      let id ← fresh
      stored (Store.insertRoutine (make id))
      let _ ← record (make id).id (make id).definition (make id).createdBy
      pure (make id) : Work X Routine).perform engine =
      (.ok routine, engine.changed o.kind (engine.made + 1)
        ({ records with routines := records.routines ++ [routine] }.insertSnapshot snapshot)
        [Memory.recordedNotice snapshot]) := by
  intro routine snapshot
  have hnamed : routine.id = Identifier.ofNumber engine.made := hid _
  have hnew (r : Routine) (hr : r ∈ records.routines) : r.id ≠ routine.id := by
    rw [hnamed]
    exact h.tidy.ne_of_fresh (Nat.le_refl _) r hr
  have hempty : records.history routine.id = [] := by
    refine List.filter_eq_nil_iff.mpr fun s hs howner => ?_
    obtain ⟨r, hr, heq⟩ := h.tidy.recorded s hs
    exact hnew r hr (heq.trans (by simpa using howner))
  have hfresh : (fresh : Work X String).perform engine =
      (.ok (Identifier.ofNumber engine.made), { engine with made := engine.made + 1 }) := rfl
  rw [Operation.perform_bind_ok hfresh]
  refine (congrArg (Operation.perform · _) (bind_assoc _ _ _).symm).trans ?_
  exact Operation.perform_bind_ok
    (perform_add (engine.made + 1) h.store hempty hnew (hversion _))

theorem leads_make (make : String → Routine) (hid : ∀ id, (make id).id = id)
    (hversion : ∀ id, (make id).version = 1) (hscope : ∀ id, (make id).scope = o.scope) :
    Leads (Sees o) (Settled o) (do
      let id ← fresh
      stored (Store.insertRoutine (make id))
      let _ ← record (make id).id (make id).definition (make id).createdBy
      pure (make id) : Work X Routine) := by
  intro s t ⟨share, records, records', hs, ht, hmade⟩
  let routine := make (Identifier.ofNumber s.made)
  let told := [Memory.recordedNotice ⟨routine.id, 1, routine.definition, routine.createdBy⟩]
  have hid' : routine.id = Identifier.ofNumber t.made := hmade ▸ hid _
  have hshows := hs.added (hid _) (hversion _) (hscope _) routine.definition routine.createdBy told
  have hshows' := ht.added hid' (hversion _) (hscope _) routine.definition routine.createdBy told
  rw [hs.perform_make make hid hversion, ht.perform_make make hid hversion, ← hmade]
  rw [← hmade] at hshows'
  refine ⟨rfl, fun id => o.mine id || decide (id = routine.id), .nothing, ?_, nofun, _, _, _,
    hshows, hshows', rfl⟩
  intro id hmine
  simp [hmine]

theorem leads_instantiate (template : Template) (configuration : Fields) (name createdBy : String) :
    Leads (Sees o) (Settled o)
      (instantiate template o.scope configuration name createdBy : Work X Routine) := by
  have hsettled (s t : Engine X) (h : Sees o s t) : Settled o s t := h.settled
  refine .bind (Blind.ofExcept _) hsettled fun definition _ => ?_
  refine .bind (blind_check definition) hsettled fun _ _ => ?_
  refine .bind (blind_count.bind fun _ => .pure _) hsettled fun created _ => ?_
  exact leads_make (fun id =>
    { id, template := template.id, scope := o.scope,
      name := if name = "" then template.name else name, configuration, definition, createdBy,
      created }) (fun _ => rfl) (fun _ => rfl) fun _ => rfl

end Instantiate

section Conversation

theorem blind_gate (hmine : o.mine id = true) : Blind (Sees o) (gate id : Work X Unit) := by
  refine .reading (fun s t hst => by rw [hst.settings_eq]) fun engine => ?_
  refine .ite (fun _ => .bind (blind_routine? hmine) fun found => ?_) fun _ => .pure _
  cases found with
  | none => exact .fail _
  | some routine => exact .ite (fun _ => .fail _) fun _ => .pure _

theorem blind_passOn {c : Conversation} (hmine : o.mine c.routine = true) (effect : Effect) :
    Blind (Sees o) (passOn c effect : Work X Unit) := by
  cases effect with
  | said step message => exact blind_notify _
  | moved state => exact .pure _
  | recorded step result => exact .bind (blind_audit hmine _ _ _).attempt fun _ => .pure _

theorem recorderFor_eq {c : Conversation} (h : Sees o engine engine') :
    recorderFor engine c.routine = .keeping ∧ recorderFor engine' c.routine = .keeping := by
  obtain ⟨_, _, _, hs, ht, -⟩ := h
  rw [recorderFor, recorderFor, hs.unwritable, ht.unwritable]
  exact ⟨rfl, rfl⟩

/-- Carrying out a request to a conversation of the scope, and going on with what comes of it. -/
theorem leads_carryOut {α : Type} {Q : Engine X → Engine X → Prop} {c : Conversation}
    (hmine : o.mine c.routine = true) (request : Request) (stops : ∀ s t, Sees o s t → Q s t)
    {f : Outcome → Work X α} (h : Leads (Sees o) Q (f (c.handle .keeping request))) :
    Leads (Sees o) Q (carryOut c request >>= f) := by
  have hkept : o.mine (c.handle .keeping request).conversation.routine = true := by
    rw [(c.belonging_handle .keeping request).2]
    exact hmine
  have hblind : Blind (Sees o) (do
      let _ ← Operation.each (passOn (c.handle .keeping request).conversation)
        (c.handle .keeping request).effects
      pure (c.handle .keeping request) : Work X Outcome) :=
    .bind (.each _ fun effect _ => blind_passOn hkept effect) fun _ => .pure _
  have hread (engine engine' : Engine X) (hsees : Sees o engine engine') :
      (carryOut c request).perform engine = (do
        let _ ← Operation.each (passOn (c.handle .keeping request).conversation)
          (c.handle .keeping request).effects
        pure (c.handle .keeping request) : Work X Outcome).perform engine ∧
      (carryOut c request).perform engine' = (do
        let _ ← Operation.each (passOn (c.handle .keeping request).conversation)
          (c.handle .keeping request).effects
        pure (c.handle .keeping request) : Work X Outcome).perform engine' := by
    obtain ⟨hleft, hright⟩ := recorderFor_eq (c := c) hsees
    rw [carryOut, Operation.perform_bind_ok (Operation.perform_get _),
      Operation.perform_bind_ok (Operation.perform_get _), hleft, hright]
    exact ⟨rfl, rfl⟩
  have hcarry : Blind (Sees o) (carryOut c request : Work X Outcome) := by
    intro s t hst
    obtain ⟨hleft, hright⟩ := hread s t hst
    rw [hleft, hright]
    exact hblind s t hst
  refine .bind hcarry stops fun outcome ⟨s, t, hst, hgiven⟩ => ?_
  rw [(hread s t hst).1] at hgiven
  rcases hperform : (do
      let _ ← Operation.each (passOn (c.handle .keeping request).conversation)
        (c.handle .keeping request).effects
      pure (c.handle .keeping request) : Work X Outcome).perform s with ⟨ended, after⟩
  obtain rfl : ended = .ok outcome := (congrArg Prod.fst hperform).symm.trans hgiven
  rwa [Operation.eq_of_perform_bind_pure hperform]

theorem leads_start (hmine : o.mine id = true) (bindings : Fields) :
    Leads (Sees o) (Settled o) (start id bindings : Work X Conversation) := by
  have hsettled (s t : Engine X) (h : Sees o s t) : Settled o s t := h.settled
  refine .bind (blind_routine hmine none) hsettled fun found ⟨s, t, hst, hgiven⟩ => ?_
  obtain rfl := id_of_routine hst hgiven
  split
  · exact .of_blind hsettled (.fail _)
  refine .bind (blind_check found.definition) hsettled fun graph _ => ?_
  refine leads_fresh fun n hsince => ?_
  let idle : Conversation :=
    { graph, id := Identifier.ofNumber n, routine := found.id
      bindings := .ofFields (Dict.merge found.configuration bindings) }
  have hlater (s t : Engine X) (h : Sees { o with since := n + 1 } s t) : Settled o s t :=
    (h.since_le (Nat.le_succ_of_le hsince)).settled
  refine leads_carryOut (o := { o with since := n + 1 }) (c := idle) hmine .start hlater ?_
  refine .bind (Blind.ofExcept _) hlater fun _ _ => ?_
  obtain ⟨hid, hroutine⟩ := idle.belonging_handle .keeping .start
  refine .bind (.modify fun s t hst => ?_) (fun _ _ h => h) fun _ _ => Blind.pure _
  have hle : n + 1 ≤ s.made := by
    obtain ⟨_, _, _, hs, _, _⟩ := hst
    exact hs.since
  refine (hst.since_le (Nat.le_succ_of_le hsince)).turned
    (.track (idle.handle .keeping .start).conversation) ?_
  rintro _ ⟨rfl⟩
  exact ⟨by rw [hroutine]; exact hmine, .inl ⟨n, hsince, hle, hid⟩⟩

/-- Asking for a conversation that both tables find. -/
theorem perform_conversation {c : Conversation} (h : engine.table.find? id = some c) :
    (conversation id).perform engine = (.ok c, engine) := by
  rw [conversation, Operation.perform_bind_ok (Operation.perform_get engine), h]
  rfl

theorem leads_resume {c : Conversation} (hleft : o.left.table.find? id = some c)
    (hright : o.right.table.find? id = some c) (hmine : o.mine c.routine = true) (input : Value) :
    Leads (Sees o) (Settled o) (resume id input : Work X Conversation) := by
  have hsettled (s t : Engine X) (h : Sees o s t) : Settled o s t := h.settled
  have hask (s t : Engine X) (h : Sees o s t) : (conversation id).perform s = (.ok c, s) ∧
      (conversation id).perform t = (.ok c, t) := by
    obtain ⟨_, _, _, hs, ht, -⟩ := h
    exact ⟨perform_conversation (hs.table ▸ hleft), perform_conversation (ht.table ▸ hright)⟩
  have hblind : Blind (Sees o) (conversation id : Work X Conversation) := by
    intro s t hst
    rw [(hask s t hst).1, (hask s t hst).2]
    exact ⟨rfl, hst⟩
  refine .bind hblind hsettled fun found ⟨s, t, hst, hgiven⟩ => ?_
  rw [(hask s t hst).1] at hgiven
  obtain rfl := Except.ok.inj hgiven
  refine .bind (blind_gate hmine) hsettled fun _ _ => ?_
  refine leads_carryOut hmine (.resume input) hsettled ?_
  obtain ⟨hid, hroutine⟩ := c.belonging_handle .keeping (.resume input)
  have hfair (made : Nat) : o.Fair made (c.handle .keeping (.resume input)).conversation :=
    ⟨by rw [hroutine]; exact hmine,
      .inr ⟨⟨c, (ConversationTable.mem_of_find? hleft).1, hid.symm, hroutine.symm⟩,
        c, (ConversationTable.mem_of_find? hright).1, hid.symm, hroutine.symm⟩⟩
  split
  · refine .bind (.modify fun s t hst => ?_) (fun _ _ h => h) fun _ _ => Blind.pure _
    refine hst.turned (.track (c.handle .keeping (.resume input)).conversation) ?_
    rintro _ ⟨rfl⟩
    exact hfair s.made
  · refine .bind (.modify fun s t hst => ?_) (fun _ _ h => h) fun _ _ => Blind.fail _
    refine hst.turned (.put (c.handle .keeping (.resume input)).conversation) ?_
    rintro _ ⟨rfl⟩
    exact hfair s.made

end Conversation

end Engine

end Workflow
