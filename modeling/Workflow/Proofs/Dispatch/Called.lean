import Workflow.Proofs.Dispatch.Company

/-!
# What an event calls for

Finding out what an event calls for leaves the records and the conversations as they are: names are
made, and observers are told of routines that are passed over, but never that a step was carried
out. `Engine.Quiet` says this of two engines. Only active routines are called, and each of them for
a run of its own, with a name that is new. Everything else that is done for routines may write to
the store, but passes over none and leaves the conversations at hand alone as well: it is
`Engine.Plain`.
-/

namespace Workflow

/-- The routine and the run of which a notice tells that a step was carried out. -/
def Notice.run? : Notice → Option (String × String)
  | .stepExecuted routine execution _ _ _ => some (routine, execution)
  | _ => none

/-- Observers are told that a routine was passed over. -/
def Notice.isSkip : Notice → Bool
  | .dispatchSkipped .. => true
  | _ => false

namespace Engine

open Operation (Respects)

variable {X α : Type} {kind : StoreKind} {engine engine' : Engine X} {records : Memory}

section Quiet

/-- The store and what it takes, the conversations at hand and the settings are the same, names were
at most made, and observers were not told that a step was carried out. -/
structure Quiet (engine engine' : Engine X) : Prop where
  store : engine'.store = engine.store
  table : engine'.table = engine.table
  settings : engine'.settings = engine.settings
  unwritable : engine'.unwritable = engine.unwritable
  made : engine.made ≤ engine'.made
  notices : ∃ more, engine'.notices = engine.notices ++ more ∧ ∀ notice ∈ more, notice.run? = none

theorem Quiet.of_made (hstore : engine'.store = engine.store) (htable : engine'.table = engine.table)
    (hsettings : engine'.settings = engine.settings)
    (hunwritable : engine'.unwritable = engine.unwritable) (hmade : engine.made ≤ engine'.made)
    (hnotices : engine'.notices = engine.notices) : Quiet engine engine' :=
  ⟨hstore, htable, hsettings, hunwritable, hmade, [], by rw [hnotices, List.append_nil], nofun⟩

instance : IsPreorder (Engine X) Quiet where
  refl _ := .of_made rfl rfl rfl rfl (Nat.le_refl _) rfl
  trans _ _ _ first rest := by
    obtain ⟨more, hmore, hquiet⟩ := first.notices
    obtain ⟨later, hlater, hquiet'⟩ := rest.notices
    refine ⟨rest.store.trans first.store, rest.table.trans first.table,
      rest.settings.trans first.settings, rest.unwritable.trans first.unwritable,
      Nat.le_trans first.made rest.made, more ++ later, ?_,
      List.forall_mem_append.mpr ⟨hquiet, hquiet'⟩⟩
    rw [hlater, hmore, List.append_assoc]

theorem quiet_count : Respects Quiet (count : Work X Nat) :=
  fun _ => .of_made rfl rfl rfl rfl (Nat.le_succ _) rfl

theorem quiet_notify {notice : Notice} (h : notice.run? = none) :
    Respects Quiet (notify notice : Work X Unit) := fun _ =>
  ⟨rfl, rfl, rfl, rfl, Nat.le_refl _, [notice], rfl, fun _ hmem => List.mem_singleton.mp hmem ▸ h⟩

theorem quiet_send (mail : Mail) : Respects Quiet (send mail : Work X Receipt) :=
  .bind (fun _ => .of_made rfl rfl rfl rfl (Nat.le_refl _) rfl) fun _ =>
    .bind quiet_count fun _ => .pure _

theorem quiet_stored {work : Store.Work α} (h : ∀ store, (work.perform store).2 = store) :
    Respects Quiet (stored work : Work X α) :=
  fun engine => .of_made (h engine.store) rfl rfl rfl (Nat.le_refl _) rfl

theorem quiet_graphOf (routine : Routine) : Respects Quiet (graphOf routine : Work X Graph) := by
  intro engine
  cases hfind : engine.graphs.find? routine.id routine.version with
  | some entry =>
      rw [graphOf, Operation.perform_bind_ok (Operation.perform_get engine), hfind]
      exact .of_made rfl rfl rfl rfl (Nat.le_refl _) rfl
  | none =>
      obtain ⟨graphs, hperform, -⟩ := perform_graphOf_of_missing hfind
      rw [hperform]
      exact .of_made rfl rfl rfl rfl (Nat.le_refl _) rfl

theorem quiet_skip (routine : Routine) (key : String) :
    Respects Quiet (skip routine key : Work X Unit) :=
  .bind (fun _ => .of_made rfl rfl rfl rfl (Nat.le_refl _) rfl) fun _ => quiet_notify rfl

theorem quiet_nextIntent (intent : Intent) (result : StepResult) :
    Respects Quiet (nextIntent intent result : Work X (Option Intent)) := by
  refine .ite (fun _ => .pure _) fun _ => ?_
  refine .bind (quiet_stored (Store.perform_ask_snd _ _)) fun found => ?_
  cases found with
  | none => exact .pure _
  | some routine =>
      exact .bind (quiet_graphOf routine) fun _ => .bind (.ofExcept _) fun _ => .pure _

theorem quiet_routine (id : String) (scope : Option String) :
    Respects Quiet (routine id scope : Work X Routine) := by
  refine .bind (quiet_stored (Store.perform_ask_snd _ _)) fun found => ?_
  cases found with
  | none => exact .fail _
  | some routine => exact .ite (fun _ => .pure _) fun _ => .fail _

theorem quiet_history (id : String) : Respects Quiet (history id : Work X (List Snapshot)) :=
  .bind (quiet_routine id none) fun _ => quiet_stored (Store.perform_ask_snd _ _)

theorem quiet_version (id : String) (number : Int) :
    Respects Quiet (version id number : Work X Snapshot) := by
  refine .bind (quiet_stored (Store.perform_ask_snd _ _)) fun found => ?_
  cases found with
  | none => exact .fail _
  | some snapshot => exact .pure _

theorem quiet_stepCount (id : String) : Respects Quiet (stepCount id : Work X Nat) := by
  refine .bind (.attempt (quiet_stored (Store.perform_ask_snd _ _))) fun outcome => ?_
  split <;> exact .pure _

end Quiet

section Plain

/-- The conversations at hand and the settings are the same, names were at most made, and no routine
was passed over. -/
structure Plain (engine engine' : Engine X) : Prop where
  table : engine'.table = engine.table
  settings : engine'.settings = engine.settings
  unwritable : engine'.unwritable = engine.unwritable
  skips : engine'.skips = engine.skips
  skipped : engine'.skipped = engine.skipped
  made : engine.made ≤ engine'.made
  notices : engine'.notices.filter Notice.isSkip = engine.notices.filter Notice.isSkip

instance : IsPreorder (Engine X) Plain where
  refl _ := ⟨rfl, rfl, rfl, rfl, rfl, Nat.le_refl _, rfl⟩
  trans _ _ _ first rest :=
    ⟨rest.table.trans first.table, rest.settings.trans first.settings,
      rest.unwritable.trans first.unwritable, rest.skips.trans first.skips,
      rest.skipped.trans first.skipped, Nat.le_trans first.made rest.made,
      rest.notices.trans first.notices⟩

theorem plain_stored (work : Store.Work α) : Respects Plain (stored work : Work X α) :=
  fun _ => ⟨rfl, rfl, rfl, rfl, rfl, Nat.le_refl _, rfl⟩

theorem plain_count : Respects Plain (count : Work X Nat) :=
  fun _ => ⟨rfl, rfl, rfl, rfl, rfl, Nat.le_succ _, rfl⟩

theorem plain_notify {notice : Notice} (h : notice.isSkip = false) :
    Respects Plain (notify notice : Work X Unit) := by
  refine fun engine => ⟨rfl, rfl, rfl, rfl, rfl, Nat.le_refl _, ?_⟩
  show (engine.notices ++ [notice]).filter Notice.isSkip = engine.notices.filter Notice.isSkip
  simp [h]

theorem plain_send (mail : Mail) : Respects Plain (send mail : Work X Receipt) :=
  .bind (fun _ => ⟨rfl, rfl, rfl, rfl, rfl, Nat.le_refl _, rfl⟩) fun _ =>
    .bind plain_count fun _ => .pure _

theorem plain_check (d : Definition) : Respects Plain (check d : Work X Graph) :=
  .bind .get fun _ => .ofExcept _

theorem plain_graphOf (routine : Routine) :
    Respects Plain (graphOf routine : Work X Graph) := by
  intro engine
  cases hfind : engine.graphs.find? routine.id routine.version with
  | some entry =>
      rw [graphOf, Operation.perform_bind_ok (Operation.perform_get engine), hfind]
      exact ⟨rfl, rfl, rfl, rfl, rfl, Nat.le_refl _, rfl⟩
  | none =>
      obtain ⟨graphs, hperform, -⟩ := perform_graphOf_of_missing hfind
      rw [hperform]
      exact ⟨rfl, rfl, rfl, rfl, rfl, Nat.le_refl _, rfl⟩

theorem plain_verdict (key : String) (payload : Fields) (routine : Routine) :
    Respects Plain (verdict key payload routine : Work X Verdict) := by
  refine .bind (.attempt (plain_graphOf routine)) fun outcome => ?_
  split <;> exact .pure _

theorem plain_audit (routine execution : String) (step : Step) (result : StepResult) :
    Respects Plain (audit routine execution step result : Work X Unit) := by
  refine .bind (.map _ plain_count) fun id =>
    .bind (fun _ => ⟨rfl, rfl, rfl, rfl, rfl, Nat.le_refl _, rfl⟩) fun _ =>
      .bind .get fun engine => ?_
  split
  · exact .fail _
  · exact plain_stored _

theorem plain_auditResult (intent : Intent) (result : StepResult) :
    Respects Plain (auditResult intent result : Work X Unit) :=
  .bind (.attempt (plain_audit _ _ _ _)) fun _ => .pure _

theorem plain_stepCount (id : String) :
    Respects Plain (stepCount id : Work X Nat) := by
  refine .bind (.attempt (plain_stored _)) fun outcome => ?_
  split <;> exact .pure _

theorem plain_nextIntent (intent : Intent) (result : StepResult) :
    Respects Plain (nextIntent intent result : Work X (Option Intent)) := by
  refine .ite (fun _ => .pure _) fun _ => .bind (plain_stored _) fun found => ?_
  split
  · exact .pure _
  · exact .bind (plain_graphOf _) fun _ => .bind (.ofExcept _) fun _ => .pure _

theorem plain_routine (id : String) (scope : Option String) :
    Respects Plain (routine id scope : Work X Routine) := by
  refine .bind (plain_stored _) fun found => ?_
  split
  · exact .ite (fun _ => .pure _) fun _ => .fail _
  · exact .fail _

theorem plain_version (id : String) (number : Int) :
    Respects Plain (version id number : Work X Snapshot) := by
  refine .bind (plain_stored _) fun found => ?_
  split
  · exact .pure _
  · exact .fail _

theorem plain_record (id : String) (definition : Definition) (createdBy : String) :
    Respects Plain (record id definition createdBy : Work X Snapshot) :=
  .bind (plain_stored _) fun _ => .bind (plain_stored _) fun _ =>
    .bind (plain_notify rfl) fun _ => .pure _

theorem plain_editable (id : String) : Respects Plain (editable id : Work X Routine) :=
  .bind (plain_routine id none) fun _ => .ite (fun _ => .fail _) fun _ => .pure _

theorem plain_advance (id : String) (definition : Definition) (createdBy : String) :
    Respects Plain (advance id definition createdBy : Work X Routine) := by
  refine .bind (plain_record id definition createdBy) fun snapshot =>
    .bind (plain_stored _) fun found => ?_
  split
  · exact .pure _
  · exact .fail _

theorem plain_instantiate (template : Template) (scope : String) (configuration : Fields)
    (name createdBy : String) :
    Respects Plain
      (instantiate template scope configuration name createdBy : Work X Routine) := by
  refine .bind (.ofExcept _) fun definition => .bind (plain_check definition) fun _ => ?_
  refine .bind (.bind plain_count fun _ => .pure _) fun created => ?_
  exact .bind (.map _ plain_count) fun _ => .bind (plain_stored _) fun _ =>
    .bind (plain_record _ _ _) fun _ => .pure _

theorem plain_setStatus (id : String) (status : RoutineStatus) :
    Respects Plain (setStatus id status : Work X Routine) := by
  refine .bind (plain_routine id none) fun found => .ite (fun _ => .pure _) fun _ =>
    .ite (fun _ => .fail _) fun _ => .bind (plain_stored _) fun changed => ?_
  split
  · exact .bind (plain_notify rfl) fun _ => .pure _
  · exact .fail _

theorem plain_call (call : Call) : Respects Plain (call.operation : Work X Unit) := by
  cases call with
  | instantiate template scope configuration name createdBy =>
      exact .bind (plain_instantiate _ _ _ _ _) fun _ => .pure _
  | snapshot id definition createdBy =>
      exact .bind (plain_routine id none) fun _ => .bind (plain_record _ _ _) fun _ => .pure _
  | updateDefinition id definition createdBy =>
      refine .bind (.bind (plain_editable id) fun _ => ?_) fun _ => .pure _
      exact .bind (plain_check definition) fun _ => plain_advance _ _ _
  | rollback id number createdBy =>
      refine .bind (.bind (plain_editable id) fun _ => ?_) fun _ => .pure _
      exact .bind (plain_version id number) fun _ => plain_advance _ _ _
  | setStatus id status => exact .bind (plain_setStatus id status) fun _ => .pure _

end Plain

section Matching

variable (key : String) (payload : Fields) (scope : String)

/-- The intent is for an active one of the routines, in a run with a number of the range. -/
def Calls (routines : List Routine) (low high : Nat) (intent : Intent) : Prop :=
  (∃ r ∈ routines, r.status = .active ∧ r.id = intent.routine) ∧
    ∃ n, low ≤ n ∧ n < high ∧ intent.execution = Identifier.ofNumber n

theorem Calls.mono {routines routines' : List Routine} {low high low' high' : Nat} {intent : Intent}
    (h : Calls routines low high intent) (hsubset : routines ⊆ routines') (hlow : low' ≤ low)
    (hhigh : high ≤ high') : Calls routines' low' high' intent := by
  obtain ⟨⟨r, hr, hactive, hid⟩, n, hn, hn', hname⟩ := h
  exact ⟨⟨r, hsubset hr, hactive, hid⟩, n, Nat.le_trans hlow hn, Nat.lt_of_lt_of_le hn' hhigh,
    hname⟩

theorem active_of_verdictOn {graph : Graph} {status : RoutineStatus} {step : Step}
    (h : verdictOn graph status key payload = .due step) : status = .active := by
  unfold verdictOn at h
  split at h
  · cases h
  · split at h
    · cases h
    · split at h
      · cases h
      · exact not_not.mp ‹_›

/-- A routine is called only when it is active. -/
theorem matchRoutine_outcome (found : Matches) (routine : Routine) (engine : Engine X) :
    ∃ (outcome : Except Fault Matches) (engine' : Engine X),
      (matchRoutine key payload scope found routine).perform engine = (outcome, engine') ∧
      Quiet engine engine' ∧
      ∀ all, outcome = .ok all → ∃ more, all.intents = found.intents ++ more ∧
        (more = [] ∨
          ∃ intent, more = [intent] ∧ Calls [routine] engine.made engine'.made intent) := by
  obtain ⟨meant, between, hverdict, hbetween, hdue⟩ : ∃ meant between,
      (verdict key payload routine).perform engine = (.ok meant, between) ∧ Quiet engine between ∧
        ∀ step, meant = .due step → routine.status = .active := by
    have hquiet := quiet_graphOf routine engine
    have hattempt : (graphOf routine).attempt.perform engine = _ := Operation.perform_attempt _ _
    rw [verdict, Operation.perform_bind_ok hattempt]
    cases ((graphOf routine).perform engine).1 with
    | error fault => exact ⟨_, _, rfl, hquiet, by rintro _ ⟨⟩⟩
    | ok graph => exact ⟨_, _, rfl, hquiet, fun _ => active_of_verdictOn key payload⟩
  have hmatch : (matchRoutine key payload scope found routine).perform engine = _ :=
    Operation.perform_bind_ok hverdict
  refine ⟨_, _, hmatch, ?_⟩
  cases meant with
  | wordless => exact ⟨hbetween, by rintro _ ⟨⟩⟩
  | due step =>
      refine ⟨trans_of Quiet hbetween (quiet_count between), ?_⟩
      rintro _ ⟨rfl⟩
      exact ⟨_, rfl, .inr ⟨_, rfl, ⟨routine, List.mem_singleton_self _, hdue step rfl, rfl⟩,
        between.made, hbetween.made, Nat.lt_succ_self _, rfl⟩⟩
  | inactive =>
      refine ⟨trans_of Quiet hbetween (quiet_skip routine key between), ?_⟩
      rintro _ ⟨rfl⟩
      exact ⟨[], (List.append_nil _).symm, .inl rfl⟩
  | broken | silent | stepless =>
      refine ⟨hbetween, ?_⟩
      rintro _ ⟨rfl⟩
      exact ⟨[], (List.append_nil _).symm, .inl rfl⟩

theorem matchEach_outcome (routines : List Routine) (found : Matches) (engine : Engine X) :
    ∃ (outcome : Except Fault Matches) (engine' : Engine X),
      (routines.foldlM (matchRoutine key payload scope) found).perform engine =
        (outcome, engine') ∧ Quiet engine engine' ∧
      ∀ all, outcome = .ok all → ∃ more, all.intents = found.intents ++ more ∧
        (more.map Intent.execution).Nodup ∧
        ∀ intent ∈ more, Calls routines engine.made engine'.made intent := by
  induction routines generalizing found engine with
  | nil =>
      refine ⟨.ok found, engine, rfl, refl_of Quiet engine, ?_⟩
      rintro _ ⟨rfl⟩
      exact ⟨[], (List.append_nil _).symm, .nil, nofun⟩
  | cons routine rest ih =>
      obtain ⟨outcome, between, hfirst, hbetween, hcalls⟩ :=
        matchRoutine_outcome key payload scope found routine engine
      cases outcome with
      | error fault =>
          refine ⟨.error fault, between, ?_, hbetween, nofun⟩
          rw [List.foldlM_cons, Operation.perform_bind_error hfirst]
      | ok more =>
      obtain ⟨first, hintents, hcalls⟩ := hcalls more rfl
      obtain ⟨outcome, engine', hrest, hquiet, hlater⟩ := ih more between
      have hperform : ((routine :: rest).foldlM (matchRoutine key payload scope) found).perform
          engine = (outcome, engine') := by
        rw [List.foldlM_cons, Operation.perform_bind_ok hfirst, hrest]
      refine ⟨outcome, engine', hperform, trans_of Quiet hbetween hquiet, fun all hall => ?_⟩
      obtain ⟨more, hall, hnodup, hmore⟩ := hlater all hall
      have hrest' : ∀ intent ∈ more,
          Calls (routine :: rest) engine.made engine'.made intent := fun intent hintent =>
        (hmore intent hintent).mono (List.subset_cons_self _ _) hbetween.made (Nat.le_refl _)
      refine ⟨first ++ more, by rw [hall, hintents, List.append_assoc], ?_, ?_⟩
        <;> obtain rfl | ⟨intent, rfl, hintent⟩ := hcalls
      · exact hnodup
      · -- the run of the first intent has a lower number than those that come later
        obtain ⟨-, n, -, hn, hname⟩ := hintent
        refine List.nodup_cons.mpr ⟨fun hmem => ?_, hnodup⟩
        obtain ⟨other, hother, heq⟩ := List.mem_map.mp hmem
        obtain ⟨-, m, hm, -, hname'⟩ := hmore other hother
        have := Identifier.ofNumber_injective (hname.symm.trans (heq.symm.trans hname'))
        omega
      · exact hrest'
      · refine List.forall_mem_cons.mpr ⟨hintent.mono ?_ (Nat.le_refl _) hquiet.made, hrest'⟩
        exact List.cons_subset_cons _ (List.nil_subset _)

theorem quiet_matchAll : Respects Quiet (matchAll key payload scope : Work X Matches) := by
  refine .bind (quiet_stored (Store.perform_listRoutines_snd scope none)) fun listed engine => ?_
  obtain ⟨_, engine', hperform, hquiet, -⟩ :=
    matchEach_outcome key payload scope listed {} engine
  rw [hperform]
  exact hquiet

/-- Only active routines are called, each for a run of its own. -/
theorem matchAll_outcome (h : engine.Keeps kind records) :
    ∃ (outcome : Except Fault Matches) (engine' : Engine X),
      (matchAll key payload scope).perform engine = (outcome, engine') ∧
      ∀ found, outcome = .ok found →
        (found.intents.map Intent.execution).Nodup ∧
        ∀ intent ∈ found.intents, Calls records.routines engine.made engine'.made intent := by
  have hlist : (stored (Store.listRoutines scope none)).perform engine = _ :=
    perform_stored_same h.store (Store.perform_listRoutines h.chronicled.readable scope none)
  cases hlisting : kind.listing none (records.routines.filter fun r => r.scope = scope) with
  | error fault =>
      rw [hlisting] at hlist
      exact ⟨_, _, Operation.perform_bind_error hlist, nofun⟩
  | ok listed =>
      rw [hlisting] at hlist
      obtain ⟨outcome, engine', hperform, -, hintents⟩ :=
        matchEach_outcome key payload scope listed {} engine
      refine ⟨outcome, engine', (Operation.perform_bind_ok hlist).trans hperform,
        fun found hfound => ?_⟩
      obtain ⟨more, hmore, hnodup, hcalls⟩ := hintents found hfound
      obtain rfl : found.intents = more := hmore
      refine ⟨hnodup, fun intent hintent => (hcalls intent hintent).mono (fun r hr => ?_)
        (Nat.le_refl _) (Nat.le_refl _)⟩
      exact (List.mem_filter.mp ((StoreKind.mem_of_listing hlisting).mp hr).1).1

end Matching

end Engine

end Workflow
