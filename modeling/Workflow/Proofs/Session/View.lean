import Workflow.Proofs.Refused
import Workflow.Proofs.Session.Order

/-!
# A conversation in the course of a session

A session is a row of jobs. What there is to see of one conversation is a `View`: the conversation
as it was when it was at hand last, the status of its routine, and the audit entries of its run.
Only replies to the conversation and changes of this status have a part in it, so the view goes
through a session on its own, by `View.after`. What is done to the engine is looked at job by job:
either it `Leaves` the conversation alone, or the view afterwards is the one that is expected.
-/

namespace Workflow

/-- What may be done with an engine in a session. What only asks for something is left out. -/
inductive Job (X : Type) where
  | publication (publication : Publication)
  | errand (errand : Errand)
  | register (key : String) (handler : Option (Handler X)) (description : String)
  | start (routine : String) (bindings : Fields)
  | resume (conversation : String) (input : Value)

namespace Engine

variable {X : Type}

/-- The engine after a job, however it ended. -/
def afterJob (perform : X → Context → Fields → Activity (Engine X) Returned) (engine : Engine X) :
    Job X → Engine X
  | .publication publication => engine.afterPublication publication
  | .errand errand => ((runErrand perform errand).run engine).2
  | .register key handler description =>
    match engine.registry.register key handler description with
    | .ok registry => { engine with registry }
    | .error _ => engine
  | .start routine bindings => ((start routine bindings).perform engine).2
  | .resume conversation input => ((resume conversation input).perform engine).2

/-- The engine after jobs in a row. -/
def afterJobs (perform : X → Context → Fields → Activity (Engine X) Returned) (engine : Engine X)
    (jobs : List (Job X)) : Engine X :=
  jobs.foldl (afterJob perform) engine

end Engine

/-- What there is to see of a conversation. -/
structure View where
  /-- The conversation as it was when it was at hand last. -/
  conversation : Conversation
  /-- The status of its routine. -/
  status : RoutineStatus
  /-- Why the store does not take results of the routine, if it does not. -/
  reason : Option String
  policy : ResumePolicy
  /-- The audit entries of its run, without their identifiers. -/
  entries : List Entry

namespace View

/-- What becomes of the results of the conversation. -/
def recorder (view : View) : Recorder := view.reason.elim .keeping .failing

/-- Answers to the conversation are held back. -/
def Held (view : View) : Prop := view.policy = .block ∧ view.status ≠ .active

instance (view : View) : Decidable view.Held := inferInstanceAs (Decidable (_ ∧ _))

/-- The view after a reply to the conversation. -/
def resumed (view : View) (input : Value) : View :=
  if view.Held then view
  else
    let outcome := view.conversation.handle view.recorder (.resume input)
    { view with
      conversation := outcome.conversation
      entries := view.entries ++ Engine.keptOf view.reason view.conversation.routine
        view.conversation.id (resultsOf outcome.effects) }

/-- The view after a job. -/
def after {X : Type} (view : View) : Job X → View
  | .resume id input => if id = view.conversation.id then view.resumed input else view
  | .errand (.setStatus id status) =>
    if id = view.conversation.routine ∧ view.status.mayBecome status then { view with status }
    else view
  | _ => view

/-- The view is that of a conversation on a routine in the engine, which keeps the records. A
conversation that is not at hand any more was completed. -/
structure Fits {X : Type} (id routine : String) (records : Memory) (engine : Engine X)
    (view : View) : Prop where
  own : view.conversation.id = id
  placed : view.conversation.Placed
  belongs : view.conversation.routine = routine
  named : ∃ n < engine.made, id = Identifier.ofNumber n
  held : engine.table.find? id = some view.conversation ∨
    engine.table.find? id = none ∧ view.conversation.state = .completed
  status : ∃ found, records.routine? routine = some found ∧ found.status = view.status
  reason : Dict.get? engine.unwritable routine = view.reason
  policy : engine.settings.resumePolicy = view.policy
  entries : (records.entries.map Entry.nameless).filter (fun entry => entry.execution = id) =
    view.entries

end View

/-- A conversation that is completed stays as it is, and nothing is told. -/
theorem Conversation.handle_of_completed {c : Conversation} (h : c.state = .completed)
    (recorder : Recorder) (input : Value) :
    (c.handle recorder (.resume input)).conversation = c ∧
      (c.handle recorder (.resume input)).effects = [] := by
  obtain ⟨-, hconversation, heffects⟩ :=
    meet_of_completed h ⟨.resume input, recorder, fun _ => .ok ()⟩
  have hnone := heffects nofun
  rw [hnone] at hconversation
  refine ⟨hconversation.trans ?_, hnone⟩
  change { c with messages := c.messages ++ [] } = c
  rw [List.append_nil]

theorem View.resumed_of_completed {view : View} (h : view.conversation.state = .completed)
    (input : Value) : view.resumed input = view := by
  obtain ⟨hsame, hnone⟩ := Conversation.handle_of_completed h view.recorder input
  unfold View.resumed
  split
  · rfl
  · dsimp only
    rw [hsame, hnone, resultsOf, List.filterMap_nil, Engine.keptOf_nil, List.append_nil]

namespace Engine

open Activity (Holds RetainsEach)
open Operation (Respects)

variable {X α : Type} {kind : StoreKind} {id r : String} {records records' : Memory}
variable {engine engine' : Engine X} {view : View} {added : List Entry}

/-- The engine is in order and has such a view of the conversation. -/
def Viewed (kind : StoreKind) (id routine : String) (view : View) (engine : Engine X) : Prop :=
  ∃ records, engine.Sound kind records ∧ view.Fits id routine records engine

/-- A conversation at hand can be seen. -/
theorem Sound.exists_viewed (h : engine.Sound kind records) {c : Conversation}
    (hfind : engine.table.find? id = some c) :
    ∃ view : View, view.conversation = c ∧ view.policy = engine.settings.resumePolicy ∧
      Viewed kind id c.routine view engine := by
  obtain ⟨hnamed, ⟨found, hfound⟩, -, hplaced⟩ := h.attended id c hfind
  have hid : c.id = id := (ConversationTable.mem_of_find? hfind).2
  exact ⟨⟨c, found.status, _, _, _⟩, rfl, rfl, records, h, hid, hplaced, rfl, hid ▸ hnamed,
    .inl hfind, ⟨found, hfound, rfl⟩, rfl, rfl, rfl⟩

/-- The entries of a run as they are told when they are asked for, without their identifiers. -/
def account (engine : Engine X) (execution : String) : Except Fault (List Entry) :=
  (engine.entries execution).map fun entries => entries.map Entry.nameless

/-- The status of a routine as it is told when the routine is asked for. -/
def statusOf (engine : Engine X) (routine : String) : Except Fault RoutineStatus :=
  ((Engine.routine routine none).perform engine).1.map Routine.status

theorem Viewed.own (h : Viewed kind id r view engine) : view.conversation.id = id := by
  obtain ⟨_, -, hfits⟩ := h
  exact hfits.own

theorem Viewed.belongs (h : Viewed kind id r view engine) : view.conversation.routine = r := by
  obtain ⟨_, -, hfits⟩ := h
  exact hfits.belongs

theorem Viewed.placed (h : Viewed kind id r view engine) : view.conversation.Placed := by
  obtain ⟨_, -, hfits⟩ := h
  exact hfits.placed

theorem Viewed.find?_eq (h : Viewed kind id r view engine) :
    engine.table.find? id = some view.conversation ∨ engine.table.find? id = none := by
  obtain ⟨_, -, hfits⟩ := h
  exact hfits.held.imp_right And.left

theorem Viewed.account_eq (h : Viewed kind id r view engine) :
    engine.account id = .ok view.entries := by
  obtain ⟨records, hsound, hfits⟩ := h
  rw [account, Engine.entries_eq hsound.store, ← hfits.entries, List.filter_map]
  rfl

theorem Viewed.statusOf_eq (h : Viewed kind id r view engine) :
    engine.statusOf r = .ok view.status := by
  obtain ⟨records, hsound, hfits⟩ := h
  obtain ⟨found, hfound, hstatus⟩ := hfits.status
  rw [statusOf, hsound.toKeeps.legible.perform_routine hfound, ← hstatus]
  rfl

section Fits

theorem fits_gain (h : view.Fits id r records engine)
    (hgained : Gained added records records' engine engine') :
    View.Fits id r records' engine' { view with
      entries := view.entries ++ added.filter fun entry => entry.execution = id } where
  own := h.own
  placed := h.placed
  belongs := h.belongs
  named := h.named.imp fun _ hn => ⟨Nat.lt_of_lt_of_le hn.1 hgained.made, hn.2⟩
  held := by
    rw [hgained.table]
    exact h.held
  status := by
    rw [Memory.routine?, hgained.routines]
    exact h.status
  reason := by
    rw [hgained.unwritable]
    exact h.reason
  policy := by
    rw [hgained.settings]
    exact h.policy
  entries := by
    rw [hgained.entries, List.filter_append, h.entries]

/-- Entries of other runs are not seen. -/
theorem fits_of_gained (h : view.Fits id r records engine)
    (hgained : Gained added records records' engine engine')
    (hother : ∀ entry ∈ added, entry.execution ≠ id) : view.Fits id r records' engine' := by
  have hnone : added.filter (fun entry => entry.execution = id) = [] :=
    List.filter_eq_nil_iff.mpr fun entry hentry => by simpa using hother entry hentry
  have hfits := fits_gain h hgained
  rwa [hnone, List.append_nil] at hfits

theorem fits_of_gained_own (h : view.Fits id r records engine)
    (hgained : Gained added records records' engine engine')
    (hown : ∀ entry ∈ added, entry.execution = id) :
    View.Fits id r records' engine' { view with entries := view.entries ++ added } := by
  have hall : added.filter (fun entry => entry.execution = id) = added :=
    List.filter_eq_self.mpr fun entry hentry => decide_eq_true (hown entry hentry)
  have hfits := fits_gain h hgained
  rwa [hall] at hfits

/-- Other conversations come and go, and so may this one once it is completed. -/
theorem fits_take (h : view.Fits id r records engine) (hsound : engine.Sound kind records)
    {c : Conversation} {table : ConversationTable}
    (htakes : ConversationTable.Takes c engine.table table) (hother : c.id ≠ id) :
    view.Fits id r records { engine with table } := by
  refine ⟨h.own, h.placed, h.belongs, h.named, ?_, h.status, h.reason, h.policy, h.entries⟩
  rcases htakes.others id hother.symm with hsame | ⟨hgone, hfinished⟩
  · exact (hsame : ConversationTable.find? table id = _) ▸ h.held
  · refine .inr ⟨hgone, ?_⟩
    rcases h.held with hfind | ⟨-, hcompleted⟩
    · exact (hsound.attended id _ hfind).finished (h.own.symm ▸ hfinished)
    · exact hcompleted

end Fits

/-- Nothing is done to the conversation, and the engine stays in order. -/
def Leaves (kind : StoreKind) (id r : String) (engine engine' : Engine X) : Prop :=
  ∀ records, engine.Sound kind records → ∃ records', engine'.Sound kind records' ∧
    ∀ view : View, view.Fits id r records engine → view.Fits id r records' engine'

namespace Leaves

theorem viewed (h : Leaves kind id r engine engine') :
    RetainsEach (Viewed kind id r) engine engine' := by
  rintro view ⟨records, hsound, hfits⟩
  obtain ⟨records', hsound', hleaves⟩ := h records hsound
  exact ⟨records', hsound', hleaves view hfits⟩

theorem inOrder (h : Leaves kind id r engine engine') (horder : engine.InOrder kind) :
    engine'.InOrder kind := by
  obtain ⟨records, hsound⟩ := horder
  obtain ⟨records', hsound', -⟩ := h records hsound
  exact ⟨records', hsound'⟩

theorem of_gains (h : Gains kind added engine engine')
    (hother : ∀ entry ∈ added, entry.execution ≠ id) : Leaves kind id r engine engine' := by
  intro records hsound
  obtain ⟨records', hsound', hgained⟩ := h records hsound
  exact ⟨records', hsound', fun view hfits => fits_of_gained hfits hgained hother⟩

theorem of_gains_nothing (h : Gains kind [] engine engine') : Leaves kind id r engine engine' :=
  of_gains h fun _ hmem => absurd hmem List.not_mem_nil

theorem refl (kind : StoreKind) (id r : String) (engine : Engine X) :
    Leaves kind id r engine engine := fun records hsound => ⟨records, hsound, fun _ hfits => hfits⟩

end Leaves

/-- What is done for an event leaves the conversation alone: its run began before. -/
theorem sheltered_viewed (kind : StoreKind) (id r : String) :
    Sheltered (fun _ execution => execution ≠ id) (Viewed (X := X) kind id r) where
  quiet hquiet := (Leaves.of_gains_nothing hquiet.gains).viewed
  told _ := fun engine => (Leaves.of_gains_nothing (gains_notify _ engine)).viewed
  kept hother result := fun engine => (Leaves.of_gains (gains_audit engine _ _ _ result)
    fun entry hentry => execution_of_mem_keptOf hentry ▸ hother).viewed
  called := by
    rintro view engine engine' key payload scope found ⟨records, hsound, hfits⟩ hmatch intent
      hintent
    obtain ⟨_, _, hmatch', hcalls⟩ := matchAll_outcome key payload scope hsound.toKeeps
    cases hmatch'.symm.trans hmatch
    obtain ⟨-, m, hm, -, hname⟩ := (hcalls found rfl).2 intent hintent
    obtain ⟨n, hn, hid⟩ := hfits.named
    intro heq
    have := Identifier.ofNumber_injective (hname.symm.trans (heq.trans hid))
    omega

/-- Whatever way the records change, only the status of the routine may look different. -/
theorem fits_change (h : view.Fits id r records engine) {rules : Graph.Rules} {made : Nat}
    {told : List Notice} (change : Memory.Change rules engine.made records made records' told)
    {status : RoutineStatus}
    (hstatus : ∃ found, records'.routine? r = some found ∧ found.status = status) :
    View.Fits id r records' (engine.changed kind made records' told) { view with status } where
  own := h.own
  placed := h.placed
  belongs := h.belongs
  named := h.named.imp fun _ hn => ⟨Nat.lt_of_lt_of_le hn.1 change.made_le, hn.2⟩
  held := h.held
  status := hstatus
  reason := h.reason
  policy := h.policy
  entries := by
    rw [change.entries_eq]
    exact h.entries

/-- A call changes the view only when it asks for another status of the routine. -/
theorem leaves_call (call : Call) (hother : ∀ status, call ≠ .setStatus r status)
    (engine : Engine X) : Leaves kind id r engine (call.after engine) := by
  intro records hsound
  obtain ⟨made, records', told, change, hafter, hwrites⟩ := call.writes hsound.toKeeps
  rw [hafter]
  refine ⟨records', hsound.change change, fun view hfits => ?_⟩
  obtain ⟨found, hfound, hstatus⟩ := hfits.status
  obtain ⟨found', hfound', hsame⟩ := Memory.status_of_writes hwrites hother hfound
  exact fits_change hfits change ⟨found', hfound', hsame.trans hstatus⟩

/-- The routine gets another status when it may. -/
theorem viewed_setStatus (h : Viewed kind id r view engine) (status : RoutineStatus) :
    Viewed kind id r (if view.status.mayBecome status then { view with status } else view)
      ((Call.setStatus r status).after engine) := by
  obtain ⟨records, hsound, hfits⟩ := h
  obtain ⟨found, hfound, hstatus⟩ := hfits.status
  have hafter : (Call.setStatus r status).after engine = ((setStatus r status).perform engine).2 :=
    Call.perform_ignored rfl
  rw [hafter, ← hstatus]
  split
  · rename_i allowed
    rw [hsound.toKeeps.legible.perform_setStatus hfound allowed]
    have change : Memory.Change (rules engine.settings) engine.made records engine.made
        (records.updateRoutine r fun found => { found with status })
        [.statusChanged r found.status status] := .moved r status hfound allowed
    refine ⟨_, hsound.change change, fits_change hfits change ⟨{ found with status }, ?_, rfl⟩⟩
    rw [Memory.routine?_updateRoutine_self (by exact fun _ => rfl), hfound]
    rfl
  · rename_i forbidden
    rw [hsound.toKeeps.legible.perform_setStatus_snd hfound forbidden]
    exact ⟨records, hsound, hfits⟩

section Conversations

/-- What is done once a conversation may start. -/
def begin (idle : Conversation) : Work X Conversation := do
  let outcome ← carryOut idle .start
  let _ ← Operation.ofExcept outcome.response
  changeTable fun table => table.track outcome.conversation
  pure outcome.conversation

/-- Starting a conversation is refused, or it comes down to beginning one with a new name on the
definition that the routine has. -/
theorem start_begins (h : engine.Legible kind records) (routine : String) (bindings : Fields) :
    engine.Refuses (start routine bindings) ∨
      ∃ (idle : Conversation) (found : Routine), idle.id = Identifier.ofNumber engine.made ∧
        idle.Placed ∧ idle.routine = routine ∧ records.routine? routine = some found ∧
        idle.graph.definition = found.definition ∧
        (start routine bindings).perform engine =
          (begin idle).perform { engine with made := engine.made + 1 } := by
  cases hfound : records.routine? routine with
  | none => exact .inl ((h.routine_refused hfound).bind _)
  | some found =>
  have hperform := h.perform_routine hfound
  by_cases hactive : found.status = .active
  case neg =>
    refine .inl (.of_bind hperform ?_)
    rw [if_pos hactive]
    exact ⟨_, rfl⟩
  have hcheck : (check found.definition : Work X Graph).perform engine = _ := perform_check _
  cases hgraph : Graph.ofDefinition (rules engine.settings) found.definition with
  | error fault =>
    rw [hgraph] at hcheck
    refine .inl (.of_bind hperform ?_)
    rw [if_neg (not_not.mpr hactive)]
    exact .bind ⟨fault, hcheck⟩ _
  | ok graph =>
  rw [hgraph] at hcheck
  obtain ⟨-, rfl⟩ := Memory.mem_of_routine? hfound
  refine .inr ⟨{ graph, id := Identifier.ofNumber engine.made, routine := found.id
                 bindings := .ofFields (Dict.merge found.configuration bindings) }, found, rfl,
    nofun, rfl, rfl, (Graph.of_ofDefinition hgraph).2, ?_⟩
  have hfresh : (fresh : Work X String).perform engine =
      (.ok (Identifier.ofNumber engine.made), { engine with made := engine.made + 1 }) := rfl
  rw [start, Operation.perform_bind_ok hperform, if_neg (not_not.mpr hactive),
    Operation.perform_bind_ok hcheck, Operation.perform_bind_ok hfresh]
  rfl

/-- The conversation is at hand as it starts, or its start fails and nothing but entries remain. -/
theorem begin_outcome (kind : StoreKind) (engine : Engine X) (idle : Conversation) :
    let outcome := idle.handle (recorderFor engine idle.routine) .start
    ∃ between, Gains kind (keptOf (Dict.get? engine.unwritable idle.routine) idle.routine idle.id
        (resultsOf outcome.effects)) engine between ∧ Plain engine between ∧
      ((∃ fault, (begin idle).perform engine = (.error fault, between)) ∨
        (begin idle).perform engine = (.ok outcome.conversation,
          { between with table := between.table.track outcome.conversation })) := by
  intro outcome
  obtain ⟨between, hcarried, hgains⟩ := perform_carryOut kind engine idle .start
  have hbegin : (begin idle).perform engine = _ := Operation.perform_bind_ok hcarried
  have hplain : Plain engine between := by
    simpa [hcarried] using plain_carryOut idle .start engine
  refine ⟨between, hgains, hplain, ?_⟩
  rw [hbegin]
  cases hresponse : (idle.handle (recorderFor engine idle.routine) .start).response with
  | error fault => exact .inl ⟨fault, rfl⟩
  | ok state => exact .inr rfl

/-- A conversation with a new name may be taken in. -/
theorem Sound.attended_new (hsound : engine.Sound kind records)
    (hgained : Gained added records records' engine engine') (hmade : engine.made < engine'.made)
    {idle : Conversation} (hname : idle.id = Identifier.ofNumber engine.made)
    (hplaced : idle.Placed) {found : Routine}
    (hfound : records.routine? idle.routine = some found) :
    Attended records' engine'.made engine'.table.finished idle := by
  refine ⟨⟨engine.made, hmade, hname⟩, ⟨found, ?_⟩, fun hmem => ?_, hplaced⟩
  · rw [Memory.routine?, hgained.routines]
    exact hfound
  · rw [hname, hgained.table] at hmem
    obtain ⟨n, hn, hname'⟩ := hsound.finished _ hmem
    exact absurd (Identifier.ofNumber_injective hname') (Nat.ne_of_gt hn)

/-- A conversation that starts is another one: it goes by a name of its own. -/
theorem leaves_start (routine : String) (bindings : Fields) (engine : Engine X) :
    Leaves kind id r engine ((start routine bindings).perform engine).2 := by
  intro records hsound
  rcases start_begins hsound.toKeeps.legible routine bindings with
    ⟨_, refused⟩ | ⟨idle, found, hname, hplaced, rfl, hfound, -, hbegins⟩
  · rw [refused]
    exact Leaves.refl kind id r engine records hsound
  let counted : Engine X := { engine with made := engine.made + 1 }
  have hcounted : Gains kind [] engine counted :=
    gains_of_same rfl rfl rfl rfl (Nat.le_succ engine.made)
  obtain ⟨between, hgains, -, hbegin⟩ := begin_outcome kind counted idle
  obtain ⟨_, hsound', hfirst⟩ := hcounted records hsound
  obtain ⟨records', hsound', hrest⟩ := hgains _ hsound'
  have hgained := hfirst.trans hrest
  have hother (view : View) (hfits : view.Fits id r records engine) : idle.id ≠ id := by
    obtain ⟨n, hn, hid⟩ := hfits.named
    exact fun heq =>
      Nat.ne_of_gt hn (Identifier.ofNumber_injective (hname.symm.trans (heq.trans hid)))
  have hbetween (view : View) (hfits : view.Fits id r records engine) :
      view.Fits id r records' between :=
    fits_of_gained hfits hgained fun entry hentry =>
      execution_of_mem_keptOf hentry ▸ hother view hfits
  rw [hbegins]
  rcases hbegin with ⟨fault, hfailed⟩ | hbegun
  · rw [hfailed]
    exact ⟨records', hsound', hbetween⟩
  rw [hbegun]
  let recorder := recorderFor counted idle.routine
  have htakes := ConversationTable.takes_track (idle.handle recorder .start).conversation
    between.table
  have hattended := hsound.attended_new hgained hrest.made hname hplaced hfound
  obtain ⟨hid, -⟩ := idle.belonging_handle recorder .start
  exact ⟨records', hsound'.take htakes (hattended.handle recorder .start), fun view hfits =>
    fits_take (hbetween view hfits) hsound' htakes (hid.symm ▸ hother view hfits)⟩

/-- A conversation starts on the definition that its routine has, and is at hand then. -/
theorem definition_of_start (h : engine.Legible kind records) {routine : String}
    {bindings : Fields} {c : Conversation}
    (hstart : (start routine bindings).perform engine = (.ok c, engine')) :
    engine'.table.find? c.id = some c ∧
      ∃ found, ((Engine.routine routine none).perform engine).1 = .ok found ∧
        c.graph.definition = found.definition := by
  rcases start_begins h routine bindings with
    ⟨_, refused⟩ | ⟨idle, found, -, hplaced, -, hfound, hdefinition, hbegins⟩
  · cases refused.symm.trans hstart
  obtain ⟨between, -, -, ⟨_, hfailed⟩ | hbegun⟩ :=
    begin_outcome kind { engine with made := engine.made + 1 } idle
  · cases hfailed.symm.trans (hbegins.symm.trans hstart)
  · cases hbegun.symm.trans (hbegins.symm.trans hstart)
    have hbecomes := Conversation.becomes_meet hplaced
      ⟨.start, recorderFor engine idle.routine, fun _ => .ok ()⟩
    exact ⟨(ConversationTable.takes_track _ between.table).self, found,
      congrArg Prod.fst (h.perform_routine hfound),
      (congrArg Graph.definition hbecomes.graph).trans hdefinition⟩

/-- The gate lets a reply pass unless the routine is not active and replies are to be blocked. -/
theorem perform_gate (h : engine.Legible kind records) {routine : Routine}
    (found : records.routine? r = some routine) :
    (gate r).perform engine =
      (if engine.settings.resumePolicy = .block ∧ routine.status ≠ .active then
        .error (.heldInput r routine.name routine.status) else .ok (), engine) := by
  rw [gate, Operation.perform_bind_ok (Operation.perform_get engine)]
  by_cases hblock : engine.settings.resumePolicy = .block
  · rw [if_pos hblock, Operation.perform_bind_ok (h.perform_routine? r), found]
    by_cases hactive : routine.status = .active
    · simp [hactive]
    · simp [hblock, hactive]
  · rw [if_neg hblock, if_neg fun h => hblock h.1]
    rfl

/-- A reply that passes the gate is delivered, and the conversation is put in its place as it is
then. -/
theorem resume_delivers {c : Conversation} (hfind : engine.table.find? id = some c)
    (hgate : (gate c.routine).perform engine = (.ok (), engine)) (input : Value)
    {between : Engine X}
    (hcarried : (carryOut c (.resume input)).perform engine =
      (.ok (c.handle (recorderFor engine c.routine) (.resume input)), between)) :
    let outcome := c.handle (recorderFor engine c.routine) (.resume input)
    (∃ fault, outcome.response = .error fault ∧ (resume id input).perform engine =
      (.error fault, { between with table := between.table.put outcome.conversation })) ∨
    (resume id input).perform engine = (.ok outcome.conversation,
      { between with table := between.table.track outcome.conversation }) := by
  intro outcome
  rw [resume, Operation.perform_bind_ok (perform_conversation hfind),
    Operation.perform_bind_ok hgate, Operation.perform_bind_ok hcarried]
  cases hresponse : (c.handle (recorderFor engine c.routine) (.resume input)).response with
  | error fault => exact .inl ⟨fault, rfl, rfl⟩
  | ok state => exact .inr rfl

/-- A reply that passes the gate leaves the engine in order. -/
theorem perform_resume (hsound : engine.Sound kind records) {c : Conversation}
    (hfind : engine.table.find? id = some c)
    (hgate : (gate c.routine).perform engine = (.ok (), engine)) (input : Value) :
    let outcome := c.handle (recorderFor engine c.routine) (.resume input)
    ∃ between table records', ((resume id input).perform engine).2 = { between with table } ∧
      between.Sound kind records' ∧
      Gained (keptOf (Dict.get? engine.unwritable c.routine) c.routine c.id
        (resultsOf outcome.effects)) records records' engine between ∧
      ConversationTable.Takes outcome.conversation between.table table ∧
      Sound kind records' { between with table } := by
  intro outcome
  obtain ⟨between, hcarried, hgains⟩ := perform_carryOut kind engine c (.resume input)
  obtain ⟨records', hsound', hgained⟩ := hgains records hsound
  have hattended := hsound'.attended id c (hgained.table ▸ hfind)
  obtain ⟨table, hafter, htakes⟩ : ∃ table,
      ((resume id input).perform engine).2 = { between with table } ∧
        ConversationTable.Takes outcome.conversation between.table table := by
    rcases resume_delivers hfind hgate input hcarried with ⟨_, -, hfailed⟩ | hanswered
    · exact ⟨_, congrArg Prod.snd hfailed, ConversationTable.takes_put _ _⟩
    · exact ⟨_, congrArg Prod.snd hanswered, ConversationTable.takes_track _ _⟩
  exact ⟨between, table, records', hafter, hsound', hgained, htakes,
    hsound'.take htakes (hattended.handle _ _)⟩

/-- A reply is refused unless its conversation is at hand and it passes the gate. -/
theorem resume_outcome (id : String) (input : Value) (engine : Engine X) :
    engine.Refuses (resume id input) ∨
      ∃ c, engine.table.find? id = some c ∧ (gate c.routine).perform engine = (.ok (), engine) := by
  rcases hconversation : (conversation id).perform engine with ⟨fault | c, engine'⟩ <;>
    obtain rfl : engine' = engine :=
      (congrArg Prod.snd hconversation).symm.trans (perform_conversation_snd id engine)
  · exact .inl (.bind ⟨fault, hconversation⟩ _)
  rcases hgate : (gate c.routine).perform engine' with ⟨fault | ⟨⟩, engine⟩ <;>
    obtain rfl : engine = engine' :=
      (congrArg Prod.snd hgate).symm.trans (perform_gate_snd c.routine engine')
  · exact .inl (.of_bind hconversation (.bind ⟨fault, hgate⟩ _))
  · exact .inr ⟨c, find?_of_conversation hconversation, hgate⟩

/-- A reply to another conversation. -/
theorem leaves_resume {other : String} (hother : other ≠ id) (input : Value) (engine : Engine X) :
    Leaves kind id r engine ((resume other input).perform engine).2 := by
  intro records hsound
  rcases resume_outcome other input engine with ⟨_, refused⟩ | ⟨c, hfind, hgate⟩
  · rw [refused]
    exact Leaves.refl kind id r engine records hsound
  have hid : c.id = other := (ConversationTable.mem_of_find? hfind).2
  obtain ⟨between, table, records', hafter, hbetween, hgained, htakes, hsound'⟩ :=
    perform_resume hsound hfind hgate input
  obtain ⟨hkept, -⟩ := c.belonging_handle (recorderFor engine c.routine) (.resume input)
  rw [hafter]
  refine ⟨records', hsound', fun view hfits => fits_take (fits_of_gained hfits hgained ?_) hbetween
    htakes (hkept.trans hid ▸ hother)⟩
  exact fun entry hentry => execution_of_mem_keptOf hentry ▸ hid ▸ hother

theorem inOrder_resume (h : engine.InOrder kind) (id : String) (input : Value) :
    ((resume id input).perform engine).2.InOrder kind := by
  rcases resume_outcome id input engine with ⟨_, refused⟩ | ⟨c, hfind, hgate⟩
  · rwa [refused]
  obtain ⟨records, hsound⟩ := h
  obtain ⟨_, _, records', hafter, -, -, -, hsound'⟩ := perform_resume hsound hfind hgate input
  exact ⟨records', hafter ▸ hsound'⟩

theorem perform_conversation_of_missing (h : engine.table.find? id = none) :
    (conversation id).perform engine = (.error (.noConversation id), engine) := by
  rw [conversation, Operation.perform_bind_ok (Operation.perform_get engine), h]
  rfl

/-- While answers are held back, they are refused. -/
theorem Viewed.refuses_resume (h : Viewed kind id r view engine) (held : view.Held)
    (input : Value) : engine.Refuses (resume id input) := by
  obtain ⟨records, hsound, hfits⟩ := h
  rcases hfits.held with hfind | ⟨hgone, -⟩
  · obtain ⟨found, hfound, hstatus⟩ := hfits.status
    refine .of_bind (perform_conversation hfind)
      (.bind ⟨.heldInput r found.name found.status, ?_⟩ _)
    rw [hfits.belongs, perform_gate hsound.toKeeps.legible hfound, hfits.policy, hstatus,
      if_pos (by exact held)]
  · exact .bind ⟨.noConversation id, perform_conversation_of_missing hgone⟩ _

/-- An answer that is not held back is delivered. -/
theorem viewed_delivered (hsound : engine.Sound kind records)
    (hfits : view.Fits id r records engine)
    (hfind : engine.table.find? id = some view.conversation) (held : ¬view.Held) (input : Value) :
    let after := ((resume id input).perform engine).2
    Viewed kind id r (view.resumed input) after ∧
      after.table.find? id = some (view.resumed input).conversation := by
  intro after
  obtain rfl : view.conversation.routine = r := hfits.belongs
  obtain ⟨found, hfound, hstatus⟩ := hfits.status
  have hgate : (gate view.conversation.routine).perform engine = (.ok (), engine) := by
    rw [perform_gate hsound.toKeeps.legible hfound, hfits.policy, hstatus,
      if_neg (by exact held)]
  have hrecorder : recorderFor engine view.conversation.routine = view.recorder := by
    rw [View.recorder, ← hfits.reason, recorderFor]
    cases Dict.get? engine.unwritable view.conversation.routine <;> rfl
  obtain ⟨between, table, records', hafter, -, hgained, htakes, hsound'⟩ :=
    perform_resume hsound hfind hgate input
  rw [hrecorder, hfits.reason] at hgained
  rw [hrecorder] at htakes
  obtain ⟨hid, hroutine⟩ := view.conversation.belonging_handle view.recorder (.resume input)
  have hself : table.find? id =
      some (view.conversation.handle view.recorder (.resume input)).conversation :=
    hfits.own ▸ hid ▸ htakes.self
  have hgain := fits_of_gained_own hfits hgained fun entry hentry =>
    (execution_of_mem_keptOf hentry).trans hfits.own
  have hplaced := (Conversation.becomes_meet hfits.placed
    ⟨.resume input, view.recorder, fun _ => .ok ()⟩).placed hfits.placed
  have hafter' : after = { between with table } := hafter
  rw [hafter', View.resumed, if_neg held]
  exact ⟨⟨records', hsound', hid.trans hfits.own, hplaced, hroutine, hgain.named, .inl hself,
    hgain.status, hgain.reason, hgain.policy, hgain.entries⟩, hself⟩

/-- A reply to the conversation is delivered or held back as the view says. Afterwards the
conversation is at hand, unless it stays as it is. -/
theorem viewed_resume (h : Viewed kind id r view engine) (input : Value) :
    let after := ((resume id input).perform engine).2
    Viewed kind id r (view.resumed input) after ∧
      (after.table.find? id = some (view.resumed input).conversation ∨
        (view.resumed input).conversation = view.conversation) := by
  intro after
  by_cases held : view.Held
  · obtain ⟨_, hrefused⟩ := h.refuses_resume held input
    have hsame : after = engine := congrArg Prod.snd hrefused
    rw [View.resumed, if_pos held, hsame]
    exact ⟨h, .inr rfl⟩
  obtain ⟨records, hsound, hfits⟩ := h
  rcases hfits.held with hfind | ⟨hgone, hcompleted⟩
  · obtain ⟨hviewed, hhand⟩ := viewed_delivered hsound hfits hfind held input
    exact ⟨hviewed, .inl hhand⟩
  · have hsame : after = engine :=
      congrArg Prod.snd (Operation.perform_bind_error (perform_conversation_of_missing hgone))
    rw [View.resumed_of_completed hcompleted, hsame]
    exact ⟨⟨records, hsound, hfits⟩, .inr rfl⟩

end Conversations

end Engine

end Workflow
