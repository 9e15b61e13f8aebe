import Workflow.Proofs.Dispatch.Protected

/-!
# Answers and what is kept

The results an event is answered with are kept, each in the run it belongs to. Handlers may change
the routine they work for, and then what comes after a step may not be found. A step may also break
off, and then it leaves no result. A chain that is lost in one of these ways is answered with one
failure, which is not kept, in place of the results that are. In all other cases the answer has
exactly the results that are kept of the run, in their order.
-/

namespace Workflow.Engine

open Activity (Ends Guarantees Holds RetainsEach)
open Operation (Respects Retains)

variable {X α : Type} {kind : StoreKind} {n : Nat} {kept : List Entry}
variable {engine engine' : Engine X} {records : Memory}

section Recording

/-- The store takes every result, and the name of the next entry is new. -/
structure Taking (n : Nat) (unwritable : Dict String) (notices : List Notice) (made : Nat)
    (records : Memory) : Prop where
  writable : unwritable = []
  begun : n < made
  fresh : ∀ entry ∈ records.entries, ∀ m, made ≤ m → entry.id ≠ Identifier.ofNumber m

/-- The store takes every result, and these are kept of a run that has begun. -/
structure Recording (n : Nat) (kept : List Entry) (unwritable : Dict String)
    (notices : List Notice) (made : Nat) (records : Memory) : Prop extends
    Taking n unwritable notices made records where
  entries : records.entriesOfExecution (Identifier.ofNumber n) = kept

variable {unwritable : Dict String} {notices : List Notice} {made made' : Nat}

theorem Taking.later (h : Taking n unwritable notices made records) (hle : made ≤ made') :
    Taking n unwritable notices made' records :=
  ⟨h.writable, Nat.lt_of_lt_of_le h.begun hle, fun entry hentry m hm =>
    h.fresh entry hentry m (Nat.le_trans hle hm)⟩

theorem Taking.appendEntry (h : Taking n unwritable notices made records) {entry : Entry}
    (hid : entry.id = Identifier.ofNumber made) :
    Taking n unwritable notices (made + 1) (records.appendEntry entry) := by
  refine ⟨h.writable, Nat.lt_succ_of_lt h.begun, fun e he m hm => ?_⟩
  rcases List.mem_append.mp he with he | he
  · exact h.fresh e he m (Nat.le_of_succ_le hm)
  · obtain rfl := List.mem_singleton.mp he
    rw [hid]
    exact fun heq => Nat.ne_of_lt hm (Identifier.ofNumber_injective heq)

theorem entriesOfExecution_appendEntry (records : Memory) (entry : Entry) (execution : String) :
    (records.appendEntry entry).entriesOfExecution execution =
      records.entriesOfExecution execution ++ [entry].filter fun e => e.execution = execution :=
  List.filter_append _ _

theorem Taking.change (h : Taking n unwritable notices made records) {rules : Graph.Rules}
    {after : Memory} {told : List Notice}
    (change : Memory.Change rules made records made' after told) :
    Taking n unwritable notices made' after := by
  refine ⟨h.writable, Nat.lt_of_lt_of_le h.begun change.made_le, ?_⟩
  rw [change.entries_eq]
  exact (h.later change.made_le).fresh

/-- Results of any run are taken. -/
theorem protected_taking (n : Nat) : Protected (fun _ _ => True) fun _ : Unit => Taking n where
  later := Taking.later
  told h _ := ⟨h.writable, h.begun, h.fresh⟩
  change _ change h := h.change change
  kept h hid _ := h.appendEntry hid
  called _ _ := trivial

/-- What is kept of a run is left alone by what is done for other runs. -/
theorem protected_recording (n : Nat) :
    Protected (fun _ execution => execution ≠ Identifier.ofNumber n) (Recording n) where
  later h hle := ⟨h.later hle, h.entries⟩
  told h _ := ⟨⟨h.writable, h.begun, h.fresh⟩, h.entries⟩
  change := by
    intro kept unwritable notices rules made made' records after told _ change h
    refine ⟨h.toTaking.change change, ?_⟩
    rw [← h.entries, Memory.entriesOfExecution, change.entries_eq]
    rfl
  kept := by
    intro kept unwritable notices made records entry h hid hother
    refine ⟨h.appendEntry hid, ?_⟩
    rw [entriesOfExecution_appendEntry, h.entries,
      List.filter_eq_nil_iff.mpr (List.forall_mem_singleton.mpr (by simpa using hother)),
      List.append_nil]
  called := by
    rintro kept unwritable notices made made' records intent h ⟨-, m, hlow, -, hname⟩ heq
    have := Identifier.ofNumber_injective (hname.symm.trans heq)
    exact Nat.ne_of_lt (Nat.lt_of_lt_of_le h.begun hlow) this.symm

theorem entries_eq_of_standing (h : engine.Standing kind (Recording n) kept) :
    engine.entries (Identifier.ofNumber n) = .ok kept := by
  obtain ⟨records, hkeeps, hrecording⟩ := h
  rw [entries_eq hkeeps.store, hrecording.entries]

end Recording

section Own

variable {perform : X → Context → Fields → Activity (Engine X) Returned}
variable {rely : Engine X → Engine X → Prop} {intent : Intent}

/-- Looking for what comes after a step does nothing unless the step says to go on. -/
theorem continues_of_nextIntent {result : StepResult} {outcome : Except Fault (Option Intent)}
    (h : (nextIntent intent result).perform engine = (outcome, engine'))
    (hne : outcome ≠ .ok none) : result.continues = true := by
  cases hcontinues : result.continues with
  | true => rfl
  | false =>
      rw [nextIntent, hcontinues, if_pos (by decide)] at h
      cases h
      exact absurd rfl hne

/-- The result of a step is added to what is kept of its run. -/
theorem perform_auditResult_own (h : engine.Standing kind (Recording n) kept)
    (hrun : intent.execution = Identifier.ofNumber n) (result : StepResult) :
    ∃ engine' entry, (auditResult intent result).perform engine = (.ok (), engine') ∧
      engine'.Standing kind (Recording n) (kept ++ [entry]) ∧ entry.routine = intent.routine ∧
      entry.result = result := by
  obtain ⟨records, hkeeps, hrecording⟩ := h
  let entry := Entry.ofResult (Identifier.ofNumber engine.made) intent.routine intent.execution
    intent.step result
  let told : Engine X :=
    { engine with made := engine.made + 1, trail := engine.trail.append entry }
  have hnew : ∀ e ∈ records.entries, e.id ≠ entry.id := fun e he =>
    hrecording.fresh e he engine.made (Nat.le_refl _)
  let after : Engine X := { told with store := kind.hold (records.appendEntry entry) }
  have haudit : (audit intent.routine intent.execution intent.step result).perform engine =
      (.ok (), after) := by
    have htold : told.store = kind.hold records := hkeeps.store
    have hget : Dict.get? engine.unwritable intent.routine = none := by
      rw [hrecording.writable]
      rfl
    rw [perform_audit, hget]
    exact perform_stored htold (Store.perform_appendEntry hnew)
  have hown : [entry].filter (fun e => e.execution = Identifier.ofNumber n) = [entry] :=
    List.filter_eq_self.mpr (List.forall_mem_singleton.mpr (decide_eq_true hrun))
  obtain ⟨named, owned, contiguous, current⟩ := hkeeps.chronicled.mono (Nat.le_succ engine.made)
  refine ⟨after, entry, ?_, ⟨records.appendEntry entry, ⟨rfl, named, owned, contiguous, current⟩,
    hrecording.appendEntry rfl, ?_⟩, rfl, rfl⟩
  · rw [auditResult, Operation.perform_bind, Operation.perform_attempt, haudit]
    rfl
  · rw [entriesOfExecution_appendEntry, hrecording.entries, hown]

/-- The step of the intent breaks off with the fault at some time, whatever others do meanwhile. -/
def BreaksOff (perform : X → Context → Fields → Activity (Engine X) Returned) (intent : Intent)
    (fault : Fault) : Prop :=
  ∃ before after, (surroundings perform).Breaks Activity.Anything intent before fault after

/-- Why the chain that begins with the intent may be lost, with which fault. -/
inductive Loses (perform : X → Context → Fields → Activity (Engine X) Returned) (intent : Intent) :
    Fault → Prop
  /-- A step of the run breaks off. -/
  | broken {later : Intent} {fault : Fault} (routine : later.routine = intent.routine)
      (execution : later.execution = intent.execution) (breaks : BreaksOff perform later fault) :
      Loses perform intent fault
  /-- What comes after a step of the run cannot be found. -/
  | astray {later : Intent} {result : StepResult} {fault : Fault} {between : Engine X}
      (routine : later.routine = intent.routine) (execution : later.execution = intent.execution)
      (missing : ((nextIntent later result).perform between).1 = .error fault) :
      Loses perform intent fault
  /-- The routine grows on and on, and the allowance is used up. -/
  | exhausted : Loses perform intent .exhausted

/-- What loses a chain later on loses the whole. -/
theorem Loses.earlier {following : Intent} {fault : Fault} (h : Loses perform following fault)
    (hroutine : following.routine = intent.routine)
    (hexecution : following.execution = intent.execution) : Loses perform intent fault := by
  cases h with
  | broken routine execution breaks =>
      exact .broken (routine.trans hroutine) (execution.trans hexecution) breaks
  | astray routine execution missing =>
      exact .astray (routine.trans hroutine) (execution.trans hexecution) missing
  | exhausted => exact .exhausted

variable (hperform : ∀ x context config,
  Holds (Standing kind (Recording n)) (perform x context config))

include hperform in
/-- While a step is carried out nothing is added to its run. -/
theorem holds_execute_own (intent : Intent) :
    Holds (Standing kind (Recording n)) ((surroundings perform).execute intent) := by
  have hnotify (notice : Notice) : Respects (RetainsEach (Standing kind (Recording n)))
      (notify notice : Work X Unit) := fun engine kept ⟨records, hkeeps, h⟩ =>
    ⟨records, ⟨hkeeps.store, hkeeps.chronicled⟩, ⟨h.writable, h.begun, h.fresh⟩, h.entries⟩
  have hanswer := holds_answer (protected_recording n).sheltered hperform intent
  exact .bind (.andThen hanswer fun _ => .ended _) fun _ => .bind (.ended _)
    fun _ => .bind (.ofOperation (hnotify _)) fun _ => .ended _

variable (hrely : ∀ s t, rely s t → RetainsEach (Standing kind (Recording n)) s t)
variable (hrun : intent.execution = Identifier.ofNumber n)

include hperform hrely hrun

omit hperform hrely in
theorem ends_auditResult_own (h : engine.Standing kind (Recording n) kept) {result : StepResult}
    {outcome : Except Fault StepResult}
    (hends : Ends rely (do
      Activity.ofOperation (auditResult intent result)
      pure result) engine outcome engine') :
    outcome = .ok result ∧ ∃ entry, engine'.Standing kind (Recording n) (kept ++ [entry]) ∧
      entry.routine = intent.routine ∧ entry.result = result := by
  obtain ⟨t, entry, hperform, ht⟩ := perform_auditResult_own h hrun result
  have hlast := (Activity.ends_ofOperation_bind_iff hperform).mp hends
  obtain ⟨rfl, rfl⟩ := Activity.ends_ended_iff.mp hlast
  exact ⟨rfl, entry, ht⟩

/-- A step that is carried out has a result, and this is added to what is kept of the run, or it
breaks off and nothing is. -/
theorem ends_runFirst_own (h : engine.Standing kind (Recording n) kept)
    {outcome : Except Fault StepResult}
    (hends : Ends rely (runFirst perform intent) engine outcome engine') :
    (∃ result, outcome = .ok result ∧ (result.continues = true → result.success = true) ∧
      ∃ entry, engine'.Standing kind (Recording n) (kept ++ [entry]) ∧
        entry.routine = intent.routine ∧ entry.result = result) ∨
      ∃ fault, outcome = .error fault ∧ BreaksOff perform intent fault ∧
        engine'.Standing kind (Recording n) kept := by
  rcases Activity.ends_bind_iff.mp hends with ⟨fault, rfl, hfault⟩ | ⟨result, s, hexecute, hends⟩
  · have hstands := (holds_execute_own hperform intent).ends hrely h hfault
    rcases ends_execute_iff.mp hfault.anything with ⟨_, _, hok, -⟩ | ⟨_, hsame, hbreaks⟩
    · cases hok
    · cases hsame
      exact .inr ⟨fault, rfl, ⟨engine, engine', hbreaks⟩, hstands⟩
  · have hsuccess := (result_of_ends_execute hexecute).1
    have hs := (holds_execute_own hperform intent).ends hrely h hexecute
    obtain ⟨rfl, hentry⟩ := ends_auditResult_own hrun hs hends
    exact .inl ⟨result, rfl, fun hgoes => hsuccess.symm.trans hgoes, hentry⟩

/-- A step of a chain has a result, and this is added to what is kept of the run, or it breaks off.
-/
theorem ends_runStep_own (h : engine.Standing kind (Recording n) kept)
    {outcome : Except Fault StepResult}
    (hends : Ends rely (runStep perform intent) engine outcome engine') :
    (∃ result, outcome = .ok result ∧ (result.continues = true → result.success = true) ∧
      ∃ entry, engine'.Standing kind (Recording n) (kept ++ [entry]) ∧
        entry.routine = intent.routine ∧ entry.result = result) ∨
      ∃ fault, outcome = .error fault ∧ BreaksOff perform intent fault ∧
        engine'.Standing kind (Recording n) kept := by
  unfold runStep at hends
  split at hends
  · obtain ⟨rfl, hentry⟩ := ends_auditResult_own hrun h hends
    exact .inl ⟨_, rfl, nofun, hentry⟩
  · exact ends_runFirst_own hperform hrely hrun h hends

/-- What is kept of the steps of a run, by induction on the number of steps. If the run is lost, all
that is kept are successes, and if nothing is then it is the first step that has broken off. -/
theorem ends_runSteps_own (fuel : Nat) (h : engine.Standing kind (Recording n) kept)
    {outcome : Except Fault (List StepResult)}
    (hends : Ends rely (runSteps perform fuel intent) engine outcome engine') :
    ∃ entries, engine'.Standing kind (Recording n) (kept ++ entries) ∧
      (∀ entry ∈ entries, entry.routine = intent.routine) ∧
      (outcome = .ok (entries.map Entry.result) ∨
        ∃ fault, outcome = .error fault ∧ Loses perform intent fault ∧
          (∀ entry ∈ entries, entry.result.success = true) ∧
          (fuel ≠ 0 → entries = [] → BreaksOff perform intent fault)) := by
  induction fuel generalizing intent engine kept outcome with
  | zero =>
      obtain ⟨rfl, rfl⟩ := Activity.ends_ended_iff.mp hends
      exact ⟨[], by rwa [List.append_nil], nofun, .inr ⟨_, rfl, .exhausted, nofun, nofun⟩⟩
  | succ fuel ih =>
  rcases ends_runSteps_cases hends with ⟨fault, rfl, hfault⟩ | ⟨result, s, hfirst, hafter⟩
  · rcases ends_runStep_own hperform hrely hrun h hfault with
      ⟨_, hok, -⟩ | ⟨_, hsame, hbreaks, hstands⟩
    · cases hok
    · cases hsame
      exact ⟨[], by rwa [List.append_nil], nofun,
        .inr ⟨fault, rfl, .broken rfl rfl hbreaks, nofun, fun _ _ => hbreaks⟩⟩
  rcases ends_runStep_own hperform hrely hrun h hfirst with
    ⟨_, hresult, hsuccess, entry, hs, hmine, hentry⟩ | ⟨_, hfault, -⟩
  case inr => cases hfault
  cases hresult
  have hstep : ∀ e ∈ [entry], e.routine = intent.routine := List.forall_mem_singleton.mpr hmine
  have hlater {after : Except Fault (Option Intent)} {t : Engine X}
      (hnext : (nextIntent intent result).perform s = (after, t)) :
      t.Standing kind (Recording n) (kept ++ [entry]) := by
    have ht := standing_of_quiet (protected_recording n) (quiet_nextIntent intent result s) _ hs
    rwa [hnext] at ht
  -- what comes after it
  rcases hafter with
    ⟨fault, rfl, hnext⟩ | ⟨rfl, hnext⟩ | ⟨following, t, later, hnext, hrest, houtcome⟩
  · have hastray : Loses perform intent fault := .astray rfl rfl (congrArg Prod.fst hnext)
    refine ⟨[entry], hlater hnext, hstep,
      .inr ⟨fault, rfl, hastray, ?_, fun _ hnil => nomatch hnil⟩⟩
    rw [List.forall_mem_singleton, hentry]
    exact hsuccess (continues_of_nextIntent hnext nofun)
  · exact ⟨[entry], hlater hnext, hstep, .inl (by rw [List.map_singleton, hentry])⟩
  · obtain ⟨hroutine, hexecution⟩ := kin_of_nextIntent (congrArg Prod.fst hnext)
    obtain ⟨entries, hu, hmine', hends'⟩ := ih (hexecution.trans hrun) (hlater hnext) hrest
    refine ⟨entry :: entries, by rwa [List.append_cons], ?_, ?_⟩
    · exact List.forall_mem_cons.mpr ⟨hmine, fun e he => (hmine' e he).trans hroutine⟩
    · rcases hends' with rfl | ⟨fault, rfl, hloses, hall, -⟩
      · exact .inl (by rw [houtcome, List.map_cons, hentry]; rfl)
      · refine .inr ⟨fault, houtcome, hloses.earlier hroutine hexecution, ?_,
          fun _ hnil => nomatch hnil⟩
        rw [List.forall_mem_cons, hentry]
        exact ⟨hsuccess (continues_of_nextIntent hnext nofun), hall⟩

theorem ends_runChain_own (h : engine.Standing kind (Recording n) [])
    {outcome : Except Fault (List StepResult)}
    (hends : Ends rely (runChain perform intent) engine outcome engine') :
    ∃ entries, engine'.Standing kind (Recording n) entries ∧
      (∀ entry ∈ entries, entry.routine = intent.routine) ∧
      (outcome = .ok (entries.map Entry.result) ∨
        ∃ fault, outcome = .error fault ∧ Loses perform intent fault ∧
          (∀ entry ∈ entries, entry.result.success = true) ∧
          (entries = [] → BreaksOff perform intent fault)) := by
  obtain ⟨count, hcount, -⟩ := perform_stepCount engine intent.routine
  rcases Activity.ends_bind_iff.mp hends with ⟨fault, rfl, hfault⟩ | ⟨_, _, hok, hends⟩
  · cases hcount.symm.trans (Activity.ends_ofOperation_iff.mp hfault)
  · cases hcount.symm.trans (Activity.ends_ofOperation_iff.mp hok)
    obtain ⟨entries, hentries, hmine, rfl | ⟨fault, rfl, hloses, hall, hbreaks⟩⟩ :=
      ends_runSteps_own hperform hrely hrun _ h hends
    · exact ⟨entries, hentries, hmine, .inl rfl⟩
    · have hfuel : count + chainAllowance ≠ 0 := by simp [chainAllowance]
      exact ⟨entries, hentries, hmine, .inr ⟨fault, rfl, hloses, hall, hbreaks hfuel⟩⟩

end Own

theorem forall₂_zip {β γ : Type} {R : α → β → Prop} (f : α → γ) {as : List α} {bs : List β}
    (h : List.Forall₂ R as bs) :
    List.Forall₂ (fun a b => b.1 = f a ∧ R a b.2) as ((as.map f).zip bs) := by
  induction h with
  | nil => exact .nil
  | cons hab _ ih => exact .cons ⟨rfl, hab⟩ ih

section Dispatch

/-- The records are in order, every result is taken, and neither an entry nor the run it belongs to
has a name that is still to be given. -/
structure Accepts (engine : Engine X) (kind : StoreKind) (records : Memory) : Prop extends
    Keeps engine kind records where
  writable : engine.unwritable = []
  fresh : ∀ entry ∈ records.entries, ∀ n, engine.made ≤ n →
    entry.id ≠ Identifier.ofNumber n ∧ entry.execution ≠ Identifier.ofNumber n

/-- The answers are those to intents with new runs of their own, and agree in the sense of `D` with
what is kept of these runs. -/
def Tallies (D : Intent → α → List Entry → Prop) (engine engine' : Engine X) (answers : List α) :
    Prop :=
  ∃ intents : List Intent, (intents.map Intent.execution).Nodup ∧
    (∀ intent ∈ intents, ∃ n, engine.made ≤ n ∧ intent.execution = Identifier.ofNumber n) ∧
    List.Forall₂ (fun intent answer => ∃ entries,
      engine'.entries intent.execution = .ok entries ∧ D intent answer entries) intents answers

/-- One result is kept of the run, and it is the answer. If the step has broken off, nothing is, and
the answer is the failure that tells of the fault. -/
def Single (perform : X → Context → Fields → Activity (Engine X) Returned) (intent : Intent)
    (result : StepResult) (entries : List Entry) : Prop :=
  entries.map (fun entry => (entry.routine, entry.result)) = [(intent.routine, result)] ∨
    entries = [] ∧ ∃ fault, BreaksOff perform intent fault ∧ crashed intent fault = .ok result

/-- The routine of the chain and its results agree with what is kept of the run: they are the same
results, or one failure that tells why the chain is lost stands in the place of results that are all
successes. If there are none of these then it is the first step that has broken off. -/
def Chained (perform : X → Context → Fields → Activity (Engine X) Returned) (intent : Intent)
    (chain : String × List StepResult) (entries : List Entry) : Prop :=
  chain.1 = intent.routine ∧ (∀ entry ∈ entries, entry.routine = intent.routine) ∧
    (chain.2 = entries.map Entry.result ∨
      ∃ fault, crashedChain intent fault = .ok chain.2 ∧ Loses perform intent fault ∧
        (∀ entry ∈ entries, entry.result.success = true) ∧
        (entries = [] → BreaksOff perform intent fault))

variable {key : String} {payload : Fields} {scope : String}

/-- Nothing is kept yet of the runs an event calls for. -/
theorem begun_of_matchAll (h : engine.Accepts kind records) {found : Matches}
    (hmatch : (matchAll key payload scope).perform engine = (.ok found, engine')) :
    (found.intents.map Intent.execution).Nodup ∧ ∀ intent ∈ found.intents, ∃ n, engine.made ≤ n ∧
      intent.execution = Identifier.ofNumber n ∧ engine'.Standing kind (Recording n) [] := by
  have hquiet := quiet_matchAll key payload scope engine
  obtain ⟨_, _, hmatch', hcalls⟩ := matchAll_outcome key payload scope h.toKeeps
  cases hmatch'.symm.trans hmatch
  rw [hmatch] at hquiet
  obtain ⟨hnodup, hcalls⟩ := hcalls found rfl
  refine ⟨hnodup, fun intent hintent => ?_⟩
  obtain ⟨-, n, hlow, hhigh, hname⟩ := hcalls intent hintent
  refine ⟨n, hlow, hname, records, h.toKeeps.of_made hquiet.store hquiet.made, ⟨?_, hhigh, ?_⟩, ?_⟩
  · rw [hquiet.unwritable, h.writable]
  · exact fun entry hentry m hm => (h.fresh entry hentry m (Nat.le_trans hquiet.made hm)).1
  · refine List.filter_eq_nil_iff.mpr fun entry hentry => ?_
    simpa using (h.fresh entry hentry n hlow).2

variable {perform : X → Context → Fields → Activity (Engine X) Returned}
variable (mindful : ∀ x context config, Mindful kind (perform x context config))

include mindful

/-- Intents side by side, each in a run of its own: what each of them ends with agrees with what is
kept of its run. -/
theorem exists_outcomes_settled {run : Intent → Activity (Engine X) α}
    {D : Intent → Except Fault α → List Entry → Prop}
    (hholds : ∀ {ι : Type} {other : String → String → Prop}
      {Q : ι → Dict String → List Notice → Nat → Memory → Prop}, Protected other Q →
      (∀ x context config, Holds (Standing kind Q) (perform x context config)) →
      ∀ intent, other intent.routine intent.execution → Holds (Standing kind Q) (run intent))
    (hown : ∀ {n intent s s' outcome},
      (∀ x context config, Holds (Standing kind (Recording n)) (perform x context config)) →
      intent.execution = Identifier.ofNumber n → s.Standing kind (Recording n) [] →
      Ends (RetainsEach (Standing kind (Recording n))) (run intent) s outcome s' →
      ∃ entries, s'.Standing kind (Recording n) entries ∧ D intent outcome entries)
    {intents : List Intent} (hnodup : (intents.map Intent.execution).Nodup)
    (hbegun : ∀ intent ∈ intents, ∃ n, intent.execution = Identifier.ofNumber n ∧
      engine.Standing kind (Recording n) []) :
    ∃ outcomes engine', (settled run intents).run engine = (.ok outcomes, engine') ∧
      List.Forall₂ (fun intent outcome => ∃ entries,
        engine'.entries intent.execution = .ok entries ∧ D intent outcome entries)
        intents outcomes := by
  obtain ⟨outcomes, engine', hrun, htogether⟩ := @run_settled X _ run intents engine
  have hlength := (Activity.forall₂_of_ends_together (Activity.ends_eq_iff.mpr htogether)).length_eq
  rw [List.length_map] at hlength
  refine ⟨outcomes, engine', hrun, forall₂_of_split hlength fun before mine after hsplit => ?_⟩
  subst hsplit
  obtain ⟨n, hname, hnone⟩ := hbegun mine List.mem_append_cons_self
  have hperform (x : X) (context : Context) (config : Fields) :=
    mindful x context config _ _ _ (protected_recording n)
  -- the chain itself goes on when it adds to its run, the others leave the run alone
  let Going (s : Engine X) : Prop := ∃ kept, s.Standing kind (Recording n) kept
  have hgoing (s : Engine X) : Going s ↔ ∃ i : Unit, s.Standing kind (fun _ => Taking n) i := by
    constructor
    · rintro ⟨kept, records, hkeeps, h⟩
      exact ⟨(), records, hkeeps, h.toTaking⟩
    · rintro ⟨-, records, hkeeps, h⟩
      exact ⟨_, records, hkeeps, h, rfl⟩
  have hmine (t : Engine X) (ht : Retains Going engine t) :
      Guarantees (Retains Going) (Retains Going) t (run mine) := by
    have hguarantees := hholds (protected_taking n) (fun x context config =>
      mindful x context config _ _ _ (protected_taking n)) mine trivial t
      ((hgoing t).mp (ht ⟨[], hnone⟩))
    refine (hguarantees.imp_others fun s t h hs => ?_).imp fun s t h hs => ?_
    · exact (hgoing t).mp (h ((hgoing s).mpr hs))
    · exact (hgoing t).mpr (h.some ((hgoing s).mp hs))
  have hothers (intent : Intent) (hmem : intent ∈ before ++ after) (t : Engine X)
      (ht : Retains Going engine t) :
      Guarantees (Retains Going) (RetainsEach (Standing kind (Recording n))) t (run intent) := by
    refine hholds (protected_recording n) hperform intent (fun heq => ?_) t (ht ⟨[], hnone⟩)
    rw [List.map_append, List.map_cons, List.nodup_middle, List.nodup_cons, ← List.map_append]
      at hnodup
    exact hnodup.1 (List.mem_map.mpr ⟨intent, hmem, heq.trans hname.symm⟩)
  obtain ⟨first, outcome, last, _, hrun', hfirst, t, t', ht, hends, ht'⟩ :=
    run_settled_among (fun _ _ h => h.some) hmine hothers
  obtain ⟨houtcomes, rfl⟩ := Prod.mk.inj (hrun.symm.trans hrun')
  obtain rfl := Except.ok.inj houtcomes
  obtain ⟨entries, hentries, hD⟩ := hown hperform hname (ht [] hnone) hends
  refine ⟨first, _, last, rfl, hfirst, entries, ?_, hD⟩
  rw [hname]
  exact entries_eq_of_standing (ht' entries hentries)

theorem tallies_runAll (h : engine.Accepts kind records) {found : Matches} {matched after : Engine X}
    (hmatch : (matchAll key payload scope).perform engine = (.ok found, matched))
    {results : List StepResult}
    (hrun : (runAll perform found.intents).run matched = (.ok results, after)) :
    Tallies (Single perform) engine after results := by
  obtain ⟨hnodup, hbegun⟩ := begun_of_matchAll h hmatch
  obtain ⟨outcomes, _, hsettled, houtcomes⟩ := exists_outcomes_settled mindful
    (fun hQ hperform _ hother => holds_runFirst hQ.sheltered hperform hother)
    (D := fun intent outcome entries =>
      (∃ result, outcome = .ok result ∧ entries.map (fun entry => (entry.routine, entry.result)) =
        [(intent.routine, result)]) ∨
        entries = [] ∧ ∃ fault, outcome = .error fault ∧ BreaksOff perform intent fault)
    (fun {n intent s s' outcome} hperform hrun hs hends => by
      rcases ends_runFirst_own hperform (fun _ _ h => h) hrun hs hends with
        ⟨result, rfl, -, entry, hs', hroutine, hresult⟩ | ⟨fault, rfl, hbreaks, hs'⟩
      · exact ⟨[entry], hs', .inl ⟨result, rfl, by rw [List.map_singleton, hroutine, hresult]⟩⟩
      · exact ⟨[], hs', .inr ⟨rfl, fault, rfl, hbreaks⟩⟩)
    hnodup fun intent hintent => (hbegun intent hintent).imp fun n hn => hn.2
  rw [runAll, run_isolated hsettled] at hrun
  obtain ⟨hall, rfl⟩ := Prod.mk.inj hrun
  refine ⟨found.intents, hnodup,
    fun intent hintent => (hbegun intent hintent).imp fun n hn => ⟨hn.1, hn.2.1⟩,
    (forall₂_of_recoveredAll houtcomes hall).imp fun intent result => ?_⟩
  rintro ⟨_, ⟨entries, hentries, ⟨kept, rfl, hkept⟩ | ⟨rfl, fault, rfl, hbreaks⟩⟩, hresult⟩
  · obtain rfl := Except.ok.inj hresult
    exact ⟨entries, hentries, .inl hkept⟩
  · exact ⟨[], hentries, .inr ⟨rfl, fault, hbreaks, hresult⟩⟩

theorem tallies_runChains (h : engine.Accepts kind records) {found : Matches}
    {matched after : Engine X}
    (hmatch : (matchAll key payload scope).perform engine = (.ok found, matched))
    {chains : List (String × List StepResult)}
    (hrun : (runChains perform found.intents).run matched = (.ok chains, after)) :
    Tallies (Chained perform) engine after chains := by
  obtain ⟨hnodup, hbegun⟩ := begun_of_matchAll h hmatch
  obtain ⟨outcomes, _, hsettled, houtcomes⟩ := exists_outcomes_settled mindful
    (fun hQ hperform _ hother => holds_runChain hQ.sheltered hperform hother)
    (fun hperform hrun hs hends => ends_runChain_own hperform (fun _ _ h => h) hrun hs hends)
    hnodup fun intent hintent => (hbegun intent hintent).imp fun n hn => hn.2
  rw [runChains, Activity.run_bind, run_isolated hsettled] at hrun
  cases hall : recoveredAll crashedChain found.intents outcomes with
  | error fault =>
      rw [hall] at hrun
      cases hrun
  | ok answers =>
      rw [hall] at hrun
      cases hrun
      refine ⟨found.intents, hnodup,
        fun intent hintent => (hbegun intent hintent).imp fun n hn => ⟨hn.1, hn.2.1⟩,
        (forall₂_zip Intent.routine (forall₂_of_recoveredAll houtcomes hall)).imp
          fun intent chain => ?_⟩
      rintro ⟨hroutine, outcome, ⟨entries, hentries, hmine, hcases⟩, hresults⟩
      refine ⟨entries, hentries, hroutine, hmine, ?_⟩
      rcases hcases with rfl | ⟨fault, rfl, hloses, hall, hbreaks⟩
      · exact .inl (Except.ok.inj hresults).symm
      · exact .inr ⟨fault, hresults, hloses, hall, hbreaks⟩

end Dispatch

/-- A definition without the step whose handler gives it to the routine. -/
def unhooked : Definition :=
  { steps := [{ id := "go", type := "trigger", key := some "k" }, { id := "mark", type := "tag" }]
    edges := [{ source := "go", target := "mark" }] }

end Workflow.Engine
