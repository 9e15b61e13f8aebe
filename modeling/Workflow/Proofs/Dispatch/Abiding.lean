import Workflow.Proofs.Dispatch.Audited

/-!
# Activities that abide by a relation

An activity abides by a relation between states when each of its changes is in the relation, as long
as others keep to it at the pauses. All that the library does for an event is put together from a
few pieces of work. `Engine.Abiding` lists them: if these and the handlers abide by a relation,
whatever is done for events does. Then what is told of each intent is told of its end among others
that keep to the relation, and the answers come in the order of the intents.
-/

namespace Workflow

namespace Activity

open Operation (Respects)

variable {σ α β : Type} {R : σ → σ → Prop}

/-- Each change of the activity is in the relation, as long as others keep to it at the pauses. -/
def Abides (R : σ → σ → Prop) (p : Activity σ α) : Prop := ∀ s, Guarantees R R s p

namespace Abides

theorem ended (outcome : Except Fault α) : Abides R (.ended outcome) := fun s => .ended outcome s

theorem ofOperation {operation : Operation σ α} (h : Respects R operation) :
    Abides R (.ofOperation operation) := fun s => .ofOperation (h s)

variable [IsPreorder σ R]

theorem andThen {p : Activity σ α} {next : Except Fault α → Activity σ β} (first : Abides R p)
    (rest : ∀ outcome, Abides R (next outcome)) : Abides R (p.andThen next) := fun s =>
  (first s).andThen (fun _ _ h => h) fun outcome t _ => rest outcome t

theorem bind {p : Activity σ α} {f : α → Activity σ β} (first : Abides R p)
    (rest : ∀ a, Abides R (f a)) : Abides R (p >>= f) := fun s =>
  .bind (fun _ _ h => h) (first s) fun a t _ => rest a t

/-- Whatever the others do, as long as they keep to the relation. -/
theorem ends {p : Activity σ α} (h : Abides R p) {s s' : σ} {outcome : Except Fault α}
    (hends : Ends R p s outcome s') : R s s' :=
  (h s).ends (fun _ _ h => h) (fun _ _ h => h) hends

end Abides

end Activity

namespace Engine

open Activity (Abides Ends)
open Operation (Respects)

variable {X α : Type} {R : Engine X → Engine X → Prop} {engine engine' : Engine X}
variable {perform : X → Context → Fields → Activity (Engine X) Returned}

/-- Neither what the library does for an event nor a handler breaks the relation. -/
structure Abiding (perform : X → Context → Fields → Activity (Engine X) Returned)
    (R : Engine X → Engine X → Prop) : Prop where
  executed : ∀ routine execution step key result,
    Respects R (notify (.stepExecuted routine execution step key result))
  send : ∀ mail, Respects R (Engine.send mail)
  audit : ∀ intent result, Respects R (auditResult intent result)
  next : ∀ intent result, Respects R (nextIntent intent result)
  count : ∀ id, Respects R (stepCount id)
  perform : ∀ x context config, Abides R (perform x context config)

theorem forall₂_zipWith {β γ : Type} {R : α → β → Prop} {S : α → γ → Prop} {f : α → β → γ}
    {as : List α} {bs : List β} (h : List.Forall₂ R as bs) (hf : ∀ a b, R a b → S a (f a b)) :
    List.Forall₂ S as (as.zipWith f bs) := by
  induction h with
  | nil => exact .nil
  | cons hab _ ih => exact .cons (hf _ _ hab) ih

theorem forall₂_of_mapM {outcomes : List (Except Fault α)} {all : List α}
    (h : (outcomes.mapM fun outcome => outcome) = .ok all) :
    List.Forall₂ (fun outcome a => outcome = .ok a) outcomes all := by
  induction outcomes generalizing all with
  | nil =>
      cases h
      exact .nil
  | cons outcome rest ih =>
      rw [List.mapM_cons] at h
      obtain ⟨a, ha, h⟩ := exists_of_bind_eq_ok h
      obtain ⟨more, hmore, h⟩ := exists_of_bind_eq_ok h
      cases h
      exact .cons ha (ih hmore)

section Isolated

variable [IsPreorder (Engine X) R] {run : Intent → Activity (Engine X) α}
variable {crashed : Intent → Fault → Except Fault α} {intents : List Intent}

theorem abides_isolated (h : ∀ intent ∈ intents, Abides R (run intent)) :
    Abides R (isolated run crashed intents) := fun _ =>
  guarantees_isolated (fun _ _ h => h) fun intent hintent t _ => h intent hintent t

/-- The answer tells of an intent what it ends with, at some time in between, among others that keep
to the relation. -/
def TellsOf (R : Engine X → Engine X → Prop) (run : Intent → Activity (Engine X) α)
    (crashed : Intent → Fault → Except Fault α) (engine engine' : Engine X) (intent : Intent)
    (answer : Except Fault α) : Prop :=
  ∃ outcome, Settles R run engine engine' intent outcome ∧
    answer = recovered crashed intent outcome

/-- However intents end side by side, something is told of each of them, in their order. The first
fault without words, if there is one, is all that is told in the end. -/
theorem exists_told_of_ends {β : Type} {g : List α → β}
    (h : ∀ intent ∈ intents, Abides R (run intent)) {outcome : Except Fault β}
    (hends : Ends R (isolated run crashed intents >>= fun answers => pure (g answers)) engine
      outcome engine') :
    ∃ answers, outcome = (answers.mapM fun answer => answer).map g ∧
      List.Forall₂ (TellsOf R run crashed engine engine') intents answers := by
  obtain ⟨told, between, htold, hlast⟩ := Activity.ends_andThen_iff.mp hends
  obtain ⟨_, _, hsettled, hall⟩ := Activity.ends_andThen_iff.mp htold
  obtain ⟨outcomes, rfl, houtcomes⟩ :=
    exists_outcomes_of_ends (fun intent hintent t _ => h intent hintent t) hsettled
  obtain ⟨rfl, rfl⟩ := Activity.ends_ended_iff.mp hall
  let answers := intents.zipWith (recovered crashed) outcomes
  have htogether : outcome = (answers.mapM fun answer => answer).map g ∧ engine' = between := by
    cases hanswers : answers.mapM fun answer => answer with
    | error fault =>
        rw [hanswers] at hlast
        exact Activity.ends_ended_iff.mp hlast
    | ok answers =>
        rw [hanswers] at hlast
        exact Activity.ends_ended_iff.mp hlast
  obtain ⟨rfl, rfl⟩ := htogether
  exact ⟨answers, rfl, forall₂_zipWith houtcomes fun _ outcome hsettles =>
    ⟨outcome, hsettles, rfl⟩⟩

end Isolated

theorem forall₂_through {β γ : Type} {R : α → β → Prop} {S : β → γ → Prop} {T : α → γ → Prop}
    (hthrough : ∀ a b c, R a b → S b c → T a c) {as : List α} {bs : List β} {cs : List γ}
    (first : List.Forall₂ R as bs) (rest : List.Forall₂ S bs cs) : List.Forall₂ T as cs := by
  induction first generalizing cs with
  | nil =>
      cases rest
      exact .nil
  | cons hab _ ih =>
      cases rest with
      | cons hbc hrest => exact .cons (hthrough _ _ _ hab hbc) (ih hrest)

theorem forall_of_forall₂ {β : Type} {R : α → β → Prop} {P : β → Prop}
    (himp : ∀ a b, R a b → P b) {as : List α} {bs : List β} (h : List.Forall₂ R as bs) :
    ∀ b ∈ bs, P b := by
  induction h with
  | nil => exact List.forall_mem_nil P
  | cons hab _ ih => exact List.forall_mem_cons.mpr ⟨himp _ _ hab, ih⟩

namespace Abiding

variable [IsPreorder (Engine X) R] (h : Abiding perform R)

include h

theorem run (handler : Handler X) (context : Context) (config : Fields) :
    Abides R ((surroundings perform).run handler context config) := by
  cases handler with
  | builtin b =>
      refine .bind (.ofOperation (.bind (.ofExcept _) fun plan => ?_)) fun _ => .ended _
      cases plan.mail with
      | none => exact .pure _
      | some mail => exact .bind (h.send mail) fun _ => .pure _
  | custom x => exact .bind (h.perform x context config) fun _ => .ended _

theorem execute (intent : Intent) : Abides R ((surroundings perform).execute intent) := by
  have hprepare : Respects R ((surroundings perform).prepare intent) :=
    .bind .get fun _ => .bind (.ofExcept _) fun _ => .bind (.ofExcept _) fun _ => .pure _
  have hanswer : Abides R ((surroundings perform).answer intent) :=
    .bind (.ofOperation hprepare) fun _ => h.run _ _ _
  refine .bind (.andThen hanswer fun _ => .ended _) fun _ => .bind (.ended _) fun _ => ?_
  exact .bind (.ofOperation (h.executed _ _ _ _ _)) fun _ => .ended _

theorem runFirst (intent : Intent) : Abides R (runFirst perform intent) :=
  .bind (h.execute intent) fun result => .bind (.ofOperation (h.audit intent result)) fun _ =>
    .ended _

theorem runStep (intent : Intent) : Abides R (runStep perform intent) := by
  unfold Engine.runStep
  split
  · exact .bind (.ofOperation (h.audit intent _)) fun _ => .ended _
  · exact h.runFirst intent

theorem runSteps (fuel : Nat) (intent : Intent) : Abides R (runSteps perform fuel intent) := by
  induction fuel generalizing intent with
  | zero => exact .ended _
  | succ fuel ih =>
      refine .bind (h.runStep intent) fun result => .bind (.ofOperation (h.next intent result))
        fun following => ?_
      cases following with
      | none => exact .ended _
      | some following => exact .bind (ih following) fun _ => .ended _

theorem runChain (intent : Intent) : Abides R (runChain perform intent) :=
  .bind (.ofOperation (h.count intent.routine)) fun _ => h.runSteps _ intent

theorem runAll (intents : List Intent) : Abides R (runAll perform intents) :=
  abides_isolated fun intent _ => h.runFirst intent

theorem runChains (intents : List Intent) : Abides R (runChains perform intents) :=
  .bind (abides_isolated fun intent _ => h.runChain intent) fun _ => .ended _

/-- What is done for an event once it is known what it brings about. -/
theorem runFound (follow : Bool) (found : Matches) : Abides R (do
    if follow then
      let chains ← Engine.runChains perform found.intents
      pure (chains.flatMap (·.2), found.skipped)
    else
      let results ← Engine.runAll perform found.intents
      pure (results, found.skipped)) := by
  split
  · exact .bind (h.runChains found.intents) fun _ => .ended _
  · exact .bind (h.runAll found.intents) fun _ => .ended _

variable {key : String} {payload : Fields} {scope : String}

theorem dispatchCounted (hmatching : Respects R (matchAll key payload scope)) (follow : Bool) :
    Abides R (dispatchCounted perform key payload scope follow) :=
  .bind (.ofOperation hmatching) (h.runFound follow)

theorem dispatchChains (hmatching : Respects R (matchAll key payload scope)) :
    Abides R (dispatchChains perform key payload scope) :=
  .bind (.ofOperation hmatching) fun found => h.runChains found.intents

end Abiding

/-- However steps in a row end, if not with a fault: there is one at least. -/
theorem ne_nil_of_ends_runSteps {fuel : Nat} {intent : Intent} {results : List StepResult}
    (hends : Ends R (runSteps perform fuel intent) engine (.ok results) engine') :
    results ≠ [] := by
  cases fuel with
  | zero => cases (Activity.ends_ended_iff.mp hends).1
  | succ fuel =>
      rcases ends_runSteps_cases hends with ⟨_, hfault, -⟩ | ⟨result, _, -, hafter⟩
      · cases hfault
      rcases hafter with ⟨_, hfault, -⟩ | ⟨hone, -⟩ | ⟨_, _, rest, -, -, hmore⟩
      · cases hfault
      · rw [Except.ok.inj hone]
        exact List.cons_ne_nil _ _
      · cases rest with
        | error fault => cases hmore
        | ok later =>
            rw [Except.ok.inj hmore]
            exact List.cons_ne_nil _ _

/-- Of a chain one result at least is told. -/
theorem ne_nil_of_tellsOf {intent : Intent} {chain : List StepResult}
    (h : TellsOf R (runChain perform) crashedChain engine engine' intent (.ok chain)) :
    chain ≠ [] := by
  obtain ⟨outcome, ⟨before, after, -, hends, -⟩, htold⟩ := h
  cases outcome with
  | error fault =>
      obtain ⟨result, -, rfl⟩ := crashedChain_eq_ok_iff.mp htold.symm
      exact List.cons_ne_nil _ _
  | ok results =>
      obtain rfl := Except.ok.inj htold
      rcases Activity.ends_bind_iff.mp hends with ⟨_, hfault, _⟩ | ⟨count, t, -, hends⟩
      · cases hfault
      · exact ne_nil_of_ends_runSteps hends

end Engine

end Workflow
