import Workflow.Proofs.Dispatch.Called
import Workflow.Proofs.Dispatch.Errand

/-!
# What the runs of others leave alone

A property of engines is `Sheltered` when neither finding out what an event calls for nor results of
other runs touch it. It survives what is done for an event as long as its intents are those of
others, and it survives an errand when what this asks of the life of routines leaves it alone.

Handlers may change the life of routines while steps are carried out, also that of the routine they
work for. Properties of the records that are `Protected` outlast that as well. A handler that leaves
alone whatever is protected is said to be mindful, and one that does its work by errands is.
-/

namespace Workflow

namespace Activity

open Operation (Respects Retains)

variable {σ ι α β : Type} {P : ι → σ → Prop}

/-- Each of the properties that holds before holds afterwards. -/
def RetainsEach (P : ι → σ → Prop) (s s' : σ) : Prop := ∀ i, P i s → P i s'

instance (P : ι → σ → Prop) : IsPreorder σ (RetainsEach P) where
  refl _ _ h := h
  trans _ _ _ first rest i h := rest i (first i h)

theorem RetainsEach.some {s s' : σ} (h : RetainsEach P s s') :
    Retains (fun s => ∃ i, P i s) s s' := fun ⟨i, hi⟩ => ⟨i, h i hi⟩

/-- Begun in a state with one of the properties, the activity keeps each of them with each of its
changes, as long as others keep to it at the pauses that there is one. -/
def Holds (P : ι → σ → Prop) (p : Activity σ α) : Prop :=
  ∀ s, (∃ i, P i s) → Guarantees (Retains fun s => ∃ i, P i s) (RetainsEach P) s p

namespace Holds

theorem ended (outcome : Except Fault α) : Holds P (.ended outcome) := fun s _ => .ended outcome s

theorem ofOperation {operation : Operation σ α} (h : Respects (RetainsEach P) operation) :
    Holds P (.ofOperation operation) := fun s _ => .ofOperation (h s)

theorem andThen {p : Activity σ α} {next : Except Fault α → Activity σ β} (first : Holds P p)
    (rest : ∀ outcome, Holds P (next outcome)) : Holds P (p.andThen next) := fun s hs =>
  (first s hs).andThen (fun _ _ h => h.some) fun outcome t ht => rest outcome t (ht hs)

theorem bind {p : Activity σ α} {f : α → Activity σ β} (first : Holds P p)
    (rest : ∀ a, Holds P (f a)) : Holds P (p >>= f) := fun s hs =>
  .bind (fun _ _ h => h.some) (first s hs) fun a t ht => rest a t (ht hs)

/-- Going on after an operation, with what is known of its answer. -/
theorem ofOperation_bind {operation : Operation σ α} {f : α → Activity σ β}
    (first : Respects (RetainsEach P) operation)
    (rest : ∀ a i s, P i s → (operation.perform s).1 = .ok a → Holds P (f a)) :
    Holds P (Activity.ofOperation operation >>= f) := by
  rintro s ⟨i, hi⟩
  refine .ofOperation_bind (first s) fun a t ht => ?_
  have ht' : P i t := by simpa [ht] using first s i hi
  exact rest a i s hi (congrArg Prod.fst ht) t ⟨i, ht'⟩

theorem ends {rely : σ → σ → Prop} (hrely : ∀ s t, rely s t → RetainsEach P s t)
    {p : Activity σ α} (h : Holds P p) {s s' : σ} {outcome : Except Fault α} {i : ι} (hs : P i s)
    (hends : Ends rely p s outcome s') : P i s' :=
  (h s ⟨i, hs⟩).ends (fun _ _ h => h.some) hrely hends i hs

end Holds

end Activity

theorem Memory.Change.run?_eq_none {rules : Graph.Rules} {made made' : Nat}
    {records after : Memory} {told : List Notice} {notice : Notice}
    (change : Memory.Change rules made records made' after told) (h : notice ∈ told) :
    notice.run? = none := by
  cases change with
  | kept => cases h
  | created | noted | advanced | moved =>
      obtain rfl := List.mem_singleton.mp h
      rfl

namespace Engine

open Activity (Holds RetainsEach)
open Operation (Respects)

variable {X α : Type} {kind : StoreKind} {engine engine' : Engine X} {records : Memory}

section Sheltered

variable {ι : Type}

/-- Properties of engines that outlast what is done for others. -/
structure Sheltered (other : String → String → Prop) (P : ι → Engine X → Prop) : Prop where
  quiet : ∀ {engine engine' : Engine X}, Quiet engine engine' → RetainsEach P engine engine'
  told : ∀ {notice : Notice}, (∀ run, notice.run? = some run → other run.1 run.2) →
    Respects (RetainsEach P) (notify notice : Work X Unit)
  kept : ∀ {intent : Intent}, other intent.routine intent.execution → ∀ result,
    Respects (RetainsEach P) (auditResult intent result : Work X Unit)
  called : ∀ {i engine engine' key payload scope} {found : Matches}, P i engine →
    (matchAll key payload scope).perform engine = (.ok found, engine') →
    ∀ intent ∈ found.intents, other intent.routine intent.execution

variable {other : String → String → Prop} {P : ι → Engine X → Prop} (hP : Sheltered other P)

include hP

theorem Sheltered.of_quiet {operation : Work X α} (h : Respects Quiet operation) :
    Respects (RetainsEach P) operation := fun engine => hP.quiet (h engine)

section Steps

variable {perform : X → Context → Fields → Activity (Engine X) Returned}
variable (hperform : ∀ x context config, Holds P (perform x context config))
include hperform

theorem holds_answer (intent : Intent) : Holds P ((surroundings perform).answer intent) := by
  have hrun (handler : Handler X) (context : Context) (config : Fields) :
      Holds P ((surroundings perform).run handler context config) := by
    cases handler with
    | builtin b =>
        refine .bind (.ofOperation (hP.of_quiet (.bind (.ofExcept _) fun plan => ?_)))
          fun _ => .ended _
        cases plan.mail with
        | none => exact .pure _
        | some mail => exact .bind (quiet_send mail) fun _ => .pure _
    | custom x => exact .bind (hperform x context config) fun _ => .ended _
  have hprepare : Respects Quiet ((surroundings perform).prepare intent) :=
    .bind .get fun _ => .bind (.ofExcept _) fun _ => .bind (.ofExcept _) fun _ => .pure _
  exact .bind (.ofOperation (hP.of_quiet hprepare)) fun _ => hrun _ _ _

variable {intent : Intent} (h : other intent.routine intent.execution)

include h

theorem holds_execute : Holds P ((surroundings perform).execute intent) := by
  refine .bind (.andThen (holds_answer hP hperform intent) fun _ => .ended _) fun outcome => ?_
  refine .bind (.ended _) fun result => .bind (.ofOperation (hP.told ?_)) fun _ => .ended _
  rintro _ ⟨⟩
  exact h

theorem holds_runFirst : Holds P (runFirst perform intent) :=
  .bind (holds_execute hP hperform h) fun result =>
    .bind (.ofOperation (hP.kept h result)) fun _ => .ended _

theorem holds_runStep : Holds P (runStep perform intent) := by
  unfold runStep
  split
  · exact .bind (.ofOperation (hP.kept h _)) fun _ => .ended _
  · exact holds_runFirst hP hperform h

theorem holds_runSteps (fuel : Nat) : Holds P (runSteps perform fuel intent) := by
  induction fuel generalizing intent with
  | zero => exact .ended _
  | succ fuel ih =>
      refine .bind (holds_runStep hP hperform h) fun result => ?_
      refine .ofOperation_bind (hP.of_quiet (quiet_nextIntent intent result))
        fun next _ engine _ hnext => ?_
      cases next with
      | none => exact .ended _
      | some following =>
          obtain ⟨hroutine, hexecution⟩ := kin_of_nextIntent hnext
          exact .bind (ih (by rwa [hroutine, hexecution])) fun _ => .ended _

theorem holds_runChain : Holds P (runChain perform intent) :=
  .bind (.ofOperation (hP.of_quiet (quiet_stepCount intent.routine))) fun _ =>
    holds_runSteps hP hperform h _

end Steps

omit hP in
theorem holds_isolated {run : Intent → Activity (Engine X) α}
    {crashed : Intent → Fault → Except Fault α} {intents : List Intent}
    (h : ∀ intent ∈ intents, Holds P (run intent)) :
    Holds P (isolated run crashed intents) :=
  fun _ hs => guarantees_isolated (fun _ _ h => h.some) fun intent hintent t ht =>
    h intent hintent t (ht hs)

section Dispatch

variable (key : String) (payload : Fields) (scope : String)

/-- All that an event calls for is for others. -/
theorem holds_event {f : Matches → Activity (Engine X) α}
    (hf : ∀ found : Matches,
      (∀ intent ∈ found.intents, other intent.routine intent.execution) → Holds P (f found)) :
    Holds P (Activity.ofOperation (matchAll key payload scope) >>= f) :=
  .ofOperation_bind (hP.of_quiet (quiet_matchAll key payload scope)) fun found _ _ hi hfound =>
    hf found (hP.called hi (Prod.ext hfound rfl))

variable {perform : X → Context → Fields → Activity (Engine X) Returned}
variable (hperform : ∀ x context config, Holds P (perform x context config))

include hperform

theorem holds_runChains {intents : List Intent}
    (h : ∀ intent ∈ intents, other intent.routine intent.execution) :
    Holds P (runChains perform intents) :=
  .bind (holds_isolated fun intent hintent => holds_runChain hP hperform (h intent hintent))
    fun _ => .ended _

theorem holds_runAll {intents : List Intent}
    (h : ∀ intent ∈ intents, other intent.routine intent.execution) :
    Holds P (runAll perform intents) :=
  holds_isolated fun intent hintent => holds_runFirst hP hperform (h intent hintent)

theorem holds_dispatchCounted (follow : Bool) :
    Holds P (dispatchCounted perform key payload scope follow) := by
  refine holds_event hP key payload scope fun found hfound => ?_
  cases follow with
  | true => exact .bind (holds_runChains hP hperform hfound) fun _ => .ended _
  | false => exact .bind (holds_runAll hP hperform hfound) fun _ => .ended _

theorem holds_dispatchChains : Holds P (dispatchChains perform key payload scope) :=
  holds_event hP key payload scope fun _ hfound => holds_runChains hP hperform hfound

/-- An errand leaves sheltered properties alone if what it asks of the life of routines does. -/
theorem holds_runErrand {errand : Errand}
    (hcall : ∀ call, errand.call? = some call → ∀ engine : Engine X,
      RetainsEach P engine (call.after engine)) : Holds P (runErrand perform errand) := by
  cases hwrites : errand.call? with
  | some call =>
      obtain ⟨operation, hrun, hafter⟩ := runErrand_of_call hwrites perform
      rw [hrun]
      exact .ofOperation fun engine => hafter engine ▸ hcall call hwrites engine
  | none =>
  cases errand with
  | routine id scope => exact .ofOperation (.map _ (hP.of_quiet (quiet_routine id scope)))
  | routines scope status =>
      exact .ofOperation (.map _ (hP.of_quiet
        (quiet_stored (Store.perform_listRoutines_snd scope status))))
  | history id => exact .ofOperation (.map _ (hP.of_quiet (quiet_history id)))
  | version id number => exact .ofOperation (.map _ (hP.of_quiet (quiet_version id number)))
  | dispatch key payload scope =>
      have hcounted := holds_dispatchCounted hP key payload scope hperform false
      exact .bind (.bind hcounted fun _ => .ended _) fun _ => .ended _
  | dispatchCounted key payload scope follow =>
      exact .bind (holds_dispatchCounted hP key payload scope hperform follow) fun _ => .ended _
  | dispatchChains key payload scope =>
      exact .bind (holds_dispatchChains hP key payload scope hperform) fun _ => .ended _
  | instantiate | snapshot | updateDefinition | rollback | setStatus => cases hwrites

end Dispatch

end Sheltered

section Protected

variable {ι : Type}

/-- Properties of the records that outlast what is done for others. They may depend on the routines
whose results the store does not take, on what observers were told and on the number that names are
counted from. -/
structure Protected (other : String → String → Prop)
    (Q : ι → Dict String → List Notice → Nat → Memory → Prop) : Prop where
  later : ∀ {i unwritable notices made made' records}, Q i unwritable notices made records →
    made ≤ made' → Q i unwritable notices made' records
  told : ∀ {i unwritable notices more made records}, Q i unwritable notices made records →
    (∀ notice ∈ more, ∀ run, notice.run? = some run → other run.1 run.2) →
    Q i unwritable (notices ++ more) made records
  change : ∀ {i unwritable notices rules made made' records after told},
    records.Chronicled made → Memory.Change rules made records made' after told →
    Q i unwritable notices made records → Q i unwritable notices made' after
  kept : ∀ {i unwritable notices made records} {entry : Entry},
    Q i unwritable notices made records → entry.id = Identifier.ofNumber made →
    other entry.routine entry.execution →
    Q i unwritable notices (made + 1) (records.appendEntry entry)
  called : ∀ {i unwritable notices made made' records intent},
    Q i unwritable notices made records → Calls records.routines made made' intent →
    other intent.routine intent.execution

/-- The records of the engine are in order and have one of the properties. -/
def Standing (kind : StoreKind) (Q : ι → Dict String → List Notice → Nat → Memory → Prop) (i : ι)
    (engine : Engine X) : Prop :=
  ∃ records, engine.Keeps kind records ∧ Q i engine.unwritable engine.notices engine.made records

variable {other : String → String → Prop}
variable {Q : ι → Dict String → List Notice → Nat → Memory → Prop}
variable (hQ : Protected other Q)

include hQ

theorem standing_of_quiet (h : Quiet engine engine') :
    RetainsEach (Standing kind Q) engine engine' := by
  rintro i ⟨records, hkeeps, hstands⟩
  obtain ⟨hstore, -, -, hunwritable, hmade, more, hnotices, hquiet⟩ := h
  refine ⟨records, hkeeps.of_made hstore hmade, ?_⟩
  rw [hunwritable, hnotices]
  refine hQ.told (hQ.later hstands hmade) fun notice hnotice run hrun => ?_
  cases (hquiet notice hnotice).symm.trans hrun

/-- Observers are told that a step of another run was carried out. -/
theorem standing_notify {notice : Notice}
    (h : ∀ run, notice.run? = some run → other run.1 run.2) :
    Respects (RetainsEach (Standing kind Q)) (notify notice : Work X Unit) := by
  rintro engine i ⟨records, hkeeps, hstands⟩
  refine ⟨records, ⟨hkeeps.store, hkeeps.chronicled⟩, hQ.told hstands fun _ hmem => ?_⟩
  obtain rfl := List.mem_singleton.mp hmem
  exact h

/-- Whatever is asked of the life of routines leaves protected properties alone. -/
theorem standing_of_call (call : Call) (engine : Engine X) :
    RetainsEach (Standing kind Q) engine (call.after engine) := by
  rintro i ⟨records, hkeeps, hstands⟩
  obtain ⟨made, after, told, change, hafter⟩ := call.changes hkeeps
  rw [hafter]
  refine ⟨after, ⟨rfl, change.chronicled hkeeps.chronicled⟩,
    hQ.told (hQ.change hkeeps.chronicled change hstands) fun notice hnotice run hrun => ?_⟩
  cases (change.run?_eq_none hnotice).symm.trans hrun

/-- Keeping a result of another run. -/
theorem standing_auditResult {intent : Intent} (h : other intent.routine intent.execution)
    (result : StepResult) :
    Respects (RetainsEach (Standing kind Q)) (auditResult intent result : Work X Unit) := by
  rintro engine i ⟨records, hkeeps, hstands⟩
  let entry := Entry.ofResult (Identifier.ofNumber engine.made) intent.routine intent.execution
    intent.step result
  let told : Engine X :=
    { engine with made := engine.made + 1, trail := engine.trail.append entry }
  have hchronicled := hkeeps.chronicled.mono (Nat.le_succ engine.made)
  have hlater := hQ.later hstands (Nat.le_succ engine.made)
  change ((audit intent.routine intent.execution intent.step result).perform engine).2.Standing
    kind Q i
  rw [perform_audit]
  cases Dict.get? engine.unwritable intent.routine with
  | some reason => exact ⟨records, ⟨hkeeps.store, hchronicled⟩, hlater⟩
  | none =>
      have hafter : ((stored (Store.appendEntry entry)).perform told).2.store =
          ((Store.appendEntry entry).perform (kind.hold records)).2 := by
        rw [← hkeeps.store]
        rfl
      rcases @Store.perform_appendEntry_snd kind entry records with hsame | happended
      · exact ⟨records, ⟨hafter.trans hsame, hchronicled⟩, hlater⟩
      · obtain ⟨named, owned, contiguous, current⟩ := hchronicled
        exact ⟨records.appendEntry entry,
          ⟨hafter.trans happended, named, owned, contiguous, current⟩, hQ.kept hstands rfl h⟩

/-- Protected properties of the records are sheltered. -/
theorem Protected.sheltered : Sheltered other (Standing (X := X) kind Q) where
  quiet := standing_of_quiet hQ
  told := standing_notify hQ
  kept := standing_auditResult hQ
  called := by
    rintro i engine engine' key payload scope found ⟨records, hkeeps, hstands⟩ hmatch
    obtain ⟨_, _, hmatch', hcalls⟩ := matchAll_outcome key payload scope hkeeps
    cases hmatch'.symm.trans hmatch
    exact fun intent hintent => hQ.called hstands ((hcalls found rfl).2 intent hintent)

end Protected

section Mindful

/-- The activity leaves alone whatever is protected. -/
def Mindful (kind : StoreKind) (p : Activity (Engine X) α) : Prop :=
  ∀ (ι : Type) (other : String → String → Prop)
    (Q : ι → Dict String → List Notice → Nat → Memory → Prop),
    Protected other Q → Holds (Standing kind Q) p

theorem Mindful.ended (outcome : Except Fault α) :
    Mindful kind (.ended outcome : Activity (Engine X) α) := fun _ _ _ _ => .ended outcome

theorem Mindful.andThen {β : Type} {p : Activity (Engine X) α}
    {next : Except Fault α → Activity (Engine X) β} (first : Mindful kind p)
    (rest : ∀ outcome, Mindful kind (next outcome)) : Mindful kind (p.andThen next) :=
  fun ι other Q hQ => .andThen (first ι other Q hQ) fun outcome => rest outcome ι other Q hQ

/-- An errand is mindful when the handlers are that an event it passes on finds. -/
theorem mindful_runErrand {perform : X → Context → Fields → Activity (Engine X) Returned}
    (hperform : ∀ x context config, Mindful kind (perform x context config)) (errand : Errand) :
    Mindful kind (runErrand perform errand) := fun ι other Q hQ =>
  holds_runErrand hQ.sheltered (fun x context config => hperform x context config ι other Q hQ)
    fun call _ engine => standing_of_call hQ call engine

end Mindful

section Hooked

/-- A routine whose first step is carried out by a handler of the user's own. -/
def hookedRoutine : Routine where
  id := Identifier.ofNumber 0
  template := "t"
  scope := "s"
  name := "n"
  definition :=
    { steps := [{ id := "go", type := "trigger", key := some "k" },
        { id := "hook", type := "action", key := some "hook" },
        { id := "mark", type := "tag", config := [("tag_name", .text "hooked")] }]
      edges := [{ source := "go", target := "hook" }, { source := "hook", target := "mark" }] }
  created := ⟨0, none⟩

def hookedRecords : Memory :=
  { routines := [hookedRoutine] : Memory }.insertSnapshot
    ⟨hookedRoutine.id, 1, hookedRoutine.definition, hookedRoutine.createdBy⟩

def hookedEngine : Engine Unit where
  settings := {}
  store := StoreKind.memory.hold hookedRecords
  registry := Registry.standard ++ [("hook", { handler := .custom () })]
  graphs := { limit := 1 }
  table := { limit := 1 }
  made := 1

theorem keeps_hookedEngine : hookedEngine.Keeps .memory hookedRecords :=
  ⟨rfl, Memory.Chronicled.empty.create (Nat.zero_le 0) rfl rfl rfl⟩

/-- The handler runs an errand on the routine it is called for. -/
def hook (errand : String → Errand) (_ : Unit) (context : Context) (_ : Fields) :
    Activity (Engine Unit) Returned :=
  (runErrand (fun _ _ _ => .ended (.ok (.value .null))) (errand context.routine)).andThen
    fun _ => .ended (.ok (.value (.text "Hooked.")))

theorem mindful_hook (errand : String → Errand) (x : Unit) (context : Context) (config : Fields) :
    Mindful kind (hook errand x context config) :=
  (mindful_runErrand (fun _ _ _ => .ended _) _).andThen fun _ => .ended _

end Hooked

end Engine

end Workflow
