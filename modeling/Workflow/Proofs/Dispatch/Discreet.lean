import Workflow.Engine.Dispatch
import Workflow.Proofs.Blind

/-!
# Steps that do not find out a difference

What the library does for a step of a routine is put together from a few pieces of work: asking for
the routine, finding its graph, sending, and keeping the result. `Engine.Discreet` lists what these
pieces and the handlers have to be blind to. Whatever is carried out for intents is then blind to it
too, a single step as well as chains that go side by side.
-/

namespace Workflow

/-- The intent to go on with a step, which remembers what the step before gave out. -/
def Intent.onward (intent : Intent) (result : StepResult) (step : Step) : Intent :=
  { intent with
    step
    context := { intent.context with
      memory := Engine.remember intent.context.memory intent.step result } }

namespace Engine

variable {X : Type} {perform : X → Context → Fields → Activity (Engine X) Returned}
variable {R : Engine X → Engine X → Prop} {ours : String → Prop}

open Activity (Blind)

/-- Neither what the library does for steps of our routines nor a handler finds out a difference
between related engines. -/
structure Discreet (perform : X → Context → Fields → Activity (Engine X) Returned)
    (R : Engine X → Engine X → Prop) (ours : String → Prop) : Prop where
  registry : ∀ s t, R s t → s.registry = t.registry
  notify : ∀ notice, Operation.Blind R (Engine.notify notice)
  send : ∀ mail, Operation.Blind R (Engine.send mail)
  audit : ∀ intent result, ours intent.routine → Operation.Blind R (auditResult intent result)
  next : ∀ intent result, ours intent.routine → Operation.Blind R (nextIntent intent result)
  count : ∀ id, ours id → Operation.Blind R (stepCount id)
  perform : ∀ x context config, Blind R (perform x context config)

section Intents

variable {intent following : Intent} {result : StepResult} {engine engine' : Engine X}
variable {key scope : String} {payload : Fields} {found more : Matches} {routine : Routine}

theorem eq_of_nextIntent
    (h : (nextIntent intent result).perform engine = (.ok (some following), engine')) :
    following = intent.onward result following.step := by
  rw [nextIntent] at h
  split at h
  · cases h
  obtain ⟨found, between, -, h⟩ := Operation.exists_of_perform_bind h
  cases found with
  | none => cases h
  | some routine =>
      obtain ⟨graph, _, -, h⟩ := Operation.exists_of_perform_bind h
      obtain ⟨after, _, -, h⟩ := Operation.exists_of_perform_bind h
      cases after with
      | none => cases h
      | some step =>
          cases h
          rfl

/-- The intent after an intent belongs to the same run of the same routine. -/
theorem kin_of_nextIntent
    (h : ((nextIntent intent result).perform engine).1 = .ok (some following)) :
    following.routine = intent.routine ∧ following.execution = intent.execution := by
  rw [eq_of_nextIntent (Prod.ext h rfl)]
  exact ⟨rfl, rfl⟩

/-- An intent that comes of a routine belongs to this routine, and nothing is remembered yet. -/
theorem context_of_matchRoutine
    (h : (matchRoutine key payload scope found routine).perform engine = (.ok more, engine'))
    (hintent : intent ∈ more.intents) :
    intent ∈ found.intents ∨
      intent.routine = routine.id ∧ intent.context = { routine := routine.id, scope, payload } := by
  obtain ⟨meant, between, -, h⟩ := Operation.exists_of_perform_bind h
  cases meant with
  | broken | silent | stepless =>
      cases h
      exact .inl hintent
  | wordless => cases h
  | inactive =>
      obtain ⟨_, _, -, h⟩ := Operation.exists_of_perform_bind h
      cases h
      exact .inl hintent
  | due step =>
      cases h
      rcases List.mem_append.mp hintent with hintent | hintent
      · exact .inl hintent
      · rw [List.mem_singleton.mp hintent]
        exact .inr ⟨rfl, rfl⟩

theorem context_of_matchEach {routines : List Routine}
    (h : (routines.foldlM (matchRoutine key payload scope) found).perform engine =
      (.ok more, engine'))
    (hintent : intent ∈ more.intents) :
    intent ∈ found.intents ∨
      ∃ r ∈ routines, intent.routine = r.id ∧
        intent.context = { routine := r.id, scope, payload } := by
  induction routines generalizing engine found with
  | nil =>
      cases h
      exact .inl hintent
  | cons routine rest ih =>
      rw [List.foldlM_cons] at h
      obtain ⟨between, _, hfirst, h⟩ := Operation.exists_of_perform_bind h
      rcases ih h with hbetween | ⟨r, hr, hcontext⟩
      · rcases context_of_matchRoutine hfirst hbetween with hfound | hcontext
        · exact .inl hfound
        · exact .inr ⟨routine, List.mem_cons_self, hcontext⟩
      · exact .inr ⟨r, List.mem_cons_of_mem _ hr, hcontext⟩

end Intents

namespace Discreet

variable (h : Discreet perform R ours) {intent : Intent}

include h

theorem run (handler : Handler X) (context : Context) (config : Fields) :
    Blind R ((surroundings perform).run handler context config) := by
  cases handler with
  | builtin b =>
      refine .bind (.ofOperation (.bind (.ofExcept _) fun plan => ?_)) fun _ => .ended _
      cases plan.mail with
      | none => exact .pure _
      | some mail => exact .bind (h.send mail) fun _ => .pure _
  | custom x => exact .bind (h.perform x context config) fun _ => .ended _

theorem execute (intent : Intent) : Blind R ((surroundings perform).execute intent) := by
  have hprepare : Operation.Blind R ((surroundings perform).prepare intent) := by
    refine .reading (fun s t hst => ?_) fun _ =>
      .bind (.ofExcept _) fun _ => .bind (.ofExcept _) fun _ => .pure _
    rw [show (surroundings perform).registry s = (surroundings perform).registry t from
      h.registry s t hst]
  have hanswer : Blind R ((surroundings perform).answer intent) :=
    .bind (.ofOperation hprepare) fun prepared => h.run _ _ _
  exact .bind hanswer.attempt fun _ => .bind (.ended _) fun _ =>
    .bind (.ofOperation (h.notify _)) fun _ => .ended _

theorem runFirst (mine : ours intent.routine) : Blind R (runFirst perform intent) :=
  .bind (h.execute intent) fun result =>
    .bind (.ofOperation (h.audit intent result mine)) fun _ => .ended _

theorem runStep (mine : ours intent.routine) : Blind R (runStep perform intent) := by
  unfold Engine.runStep
  split
  · exact .bind (.ofOperation (h.audit intent _ mine)) fun _ => .ended _
  · exact h.runFirst mine

theorem runSteps (fuel : Nat) (mine : ours intent.routine) :
    Blind R (runSteps perform fuel intent) := by
  induction fuel generalizing intent with
  | zero => exact .ended _
  | succ fuel ih =>
      refine .bind (h.runStep mine) fun result => ?_
      refine .ofOperation_bind (h.next intent result mine) fun following hfollowing => ?_
      cases following with
      | none => exact .ended _
      | some following =>
          obtain ⟨engine, _, _, hnext⟩ := hfollowing
          have hsame : following.routine = intent.routine := (kin_of_nextIntent hnext).1
          exact .bind (ih (hsame ▸ mine)) fun _ => .ended _

theorem runChain (mine : ours intent.routine) : Blind R (runChain perform intent) :=
  .bind (.ofOperation (h.count intent.routine mine)) fun _ => h.runSteps _ mine

omit h

theorem isolated {α : Type} {run : Intent → Activity (Engine X) α}
    {crashed : Intent → Fault → Except Fault α} {intents : List Intent}
    (hrun : ∀ intent ∈ intents, Blind R (run intent)) :
    Blind R (isolated run crashed intents) := by
  refine .bind ?_ fun _ => .ended _
  unfold settled
  split
  · exact .ended _
  refine .bind .giveWay fun _ => .bind (.together fun p hp => ?_) fun _ =>
    .bind .giveWay fun _ => .ended _
  obtain ⟨intent, hintent, rfl⟩ := List.mem_map.mp hp
  exact (hrun intent hintent).attempt

include h

theorem runAll {intents : List Intent} (mine : ∀ intent ∈ intents, ours intent.routine) :
    Blind R (runAll perform intents) :=
  isolated fun intent hintent => h.runFirst (mine intent hintent)

theorem runChains {intents : List Intent} (mine : ∀ intent ∈ intents, ours intent.routine) :
    Blind R (runChains perform intents) :=
  .bind (isolated fun intent hintent => h.runChain (mine intent hintent)) fun _ => .ended _

end Discreet

end Engine

end Workflow
