import Workflow.Engine.Dispatch
import Workflow.Proofs.Handler.Barrier
import Workflow.Proofs.Placeholder.Filled
import Workflow.Proofs.Refused

/-!
# Faults that have words

A fault without words comes from a handler of the user's own and from nowhere else. Where the faults
of handlers have words, a step or a chain that is broken off is so by a fault that has words. A
handler `Speaks` when besides the outputs it has built have the parts of an answer. With such
handlers a step whose key has words is carried out with a result.
-/

namespace Workflow

/-- The fault has no words. -/
def Fault.speechless : Fault → Bool
  | .handler (.speechless _) => true
  | _ => false

theorem Fault.speechless_eq_false_iff {fault : Fault} :
    fault.speechless = false ↔ ∃ words, fault.wording = .ok words := by
  unfold speechless wording
  split
  · simp
  · simp

theorem Fault.speechless_of_ofNumber {fault : Fault} (h : fault.ofNumber = true) :
    fault.speechless = false := by
  cases fault <;> first | rfl | cases h

/-- If the outcome is a fault then it has words. -/
abbrev Worded {α : Type} (outcome : Except Fault α) : Prop := Avoids Fault.speechless outcome

theorem Hinges.worded {α : Type} {fine : Prop} {outcome : Except Fault α} {a : α}
    (h : Hinges fine outcome a) : Worded outcome := by
  by_cases hfine : fine
  · rw [h.ok hfine]
    exact .ok a
  · obtain ⟨fault, rfl, hfault⟩ := h.error hfine
    exact .error (Fault.speechless_of_ofNumber hfault)

section Leaves

theorem worded_wording (v : Value) : Worded v.wording := (Placeholder.wording_hinges v).worded

theorem worded_check {α : Type} (subject : String) (decode : Decoder α) (input : Value) :
    Worded (Fault.check subject decode input) := by
  unfold Fault.check
  split
  · exact .ok _
  · exact .error rfl

theorem worded_ofValue (v : Value) : Worded (Answer.ofValue v) := by
  unfold Answer.ofValue
  split
  · exact .ok _
  · exact worded_check _ _ _
  · exact .error rfl

theorem worded_naming (named : Value) {fault : Fault} (h : fault.speechless = false) :
    (Fault.naming named fault).speechless = false := by
  unfold Fault.naming
  split
  · exact h
  · rfl

theorem worded_find {X : Type} (registry : Registry X) (key : Value) :
    Worded (registry.find key) := by
  have hunregistered {α : Type} :
      Worded (.error (Fault.naming key (.handler (.unregistered key))) : Except Fault α) :=
    .error (worded_naming key rfl)
  unfold Registry.find
  refine .ite hunregistered ?_
  split
  · split
    · exact .ok _
    · exact hunregistered
  · exact .error rfl
  · exact .error rfl
  · exact hunregistered

theorem worded_hydrated (intent : Intent) : Worded intent.hydrated :=
  (interpolateFields_hinges _ _).worded

theorem worded_ofDefinition (rules : Graph.Rules) (d : Definition) :
    Worded (Graph.ofDefinition rules d) := by
  unfold Graph.ofDefinition
  split
  · exact .ok _
  · exact .error rfl

theorem worded_ask {α : Type} (graph : Graph) (id : String) (answer : α) :
    Worded (graph.ask id answer) := by
  refine .map _ ?_
  unfold Graph.node
  split
  · exact .ok _
  · exact .error rfl

theorem worded_readRoutine (row : RoutineRow) : Worded row.read := by
  have hstatus : Worded (Fault.statusNamed row.status) := by
    unfold Fault.statusNamed
    split
    · exact .ok _
    · exact .error rfl
  exact .bind hstatus fun _ => .bind (worded_check _ _ _) fun _ => .ite (.error rfl) (.ok _)

end Leaves

section Builtin

variable (b : Builtin) (context : Context) (config : Fields)

theorem worded_needed (setting : String) : Worded (b.needed config setting) :=
  .bind (worded_wording _) fun _ => .ite (.error rfl) (.ite (.error rfl) (.ok _))

theorem worded_recipient : Worded (b.recipient context config) :=
  .ite (worded_needed b config _) (.ite (worded_wording _) (.error rfl))

theorem worded_welcomeBody (recipient : String) :
    Worded (Builtin.welcomeBody context config recipient) :=
  .ite (worded_wording _) (.bind (worded_wording _) fun _ => .ok _)

/-- The handlers that come with the library have words for what goes wrong. -/
theorem worded_plan : Worded (b.plan context config) := by
  have hneeded := worded_needed b config
  have hoptional (setting fallback : String) : Worded (Builtin.optional config setting fallback) :=
    worded_wording _
  have hrecipient := worded_recipient b context config
  cases b with
  | sendMessage =>
      exact .bind hrecipient fun _ => .bind (hneeded _) fun _ => .bind (hoptional _ _) fun _ => .ok _
  | sendEmail =>
      exact .bind hrecipient fun _ => .bind (hneeded _) fun _ => .bind (hoptional _ _) fun _ => .ok _
  | sendWelcome =>
      exact .bind hrecipient fun _ => .bind (hoptional _ _) fun _ =>
        .bind (worded_welcomeBody context config _) fun _ => .ok _
  | notifyChannel =>
      exact .bind (hneeded _) fun _ => .bind (hneeded _) fun _ => .bind (hoptional _ _) fun _ => .ok _
  | createFolder => exact .bind (hneeded _) fun _ => .bind (hoptional _ _) fun _ => .ok _
  | addTag => exact .bind (hneeded _) fun _ => .ok _
  | setStage => exact .bind (hneeded _) fun _ => .ok _

end Builtin

namespace Activity

variable {σ α β : Type}

/-- However the activity ends, if it is with a fault then this has words. -/
def Worded (p : Activity σ α) : Prop :=
  ∀ (rely : σ → σ → Prop) s outcome s', Ends rely p s outcome s' → Workflow.Worded outcome

namespace Worded

theorem ended {outcome : Except Fault α} (h : Workflow.Worded outcome) :
    Worded (.ended outcome : Activity σ α) := by
  intro rely s outcome' s' hends
  obtain ⟨rfl, -⟩ := ends_ended_iff.mp hends
  exact h

theorem ofOperation {operation : Operation σ α} (h : Operation.Avoids Fault.speechless operation) :
    Worded (.ofOperation operation) := by
  intro rely s outcome s' hends
  have hperform := h s
  rwa [ends_ofOperation_iff.mp hends] at hperform

theorem bind {p : Activity σ α} {f : α → Activity σ β} (first : Worded p)
    (rest : ∀ a, Worded (f a)) : Worded (p >>= f) := by
  intro rely s outcome s' hends
  rcases ends_bind_iff.mp hends with ⟨fault, rfl, hfault⟩ | ⟨a, between, -, hrest⟩
  · exact .error (first _ _ _ _ hfault fault rfl)
  · exact rest a _ _ _ _ hrest

end Worded

/-- What a handler comes to can be told. -/
inductive Tellable : Except Fault Returned → Prop
  | value (v : Value) : Tellable (.ok (.value v))
  | built (answer : Answer) : Tellable (.ok (.built (.ofAnswer answer)))
  | fault {fault : Fault} (worded : fault.speechless = false) : Tellable (.error fault)

/-- However the handler ends, what it comes to can be told. -/
def Speaks (p : Activity σ Returned) : Prop :=
  ∀ (rely : σ → σ → Prop) s outcome s', Ends rely p s outcome s' → Tellable outcome

/-- A handler that speaks has words for what goes wrong. -/
theorem Worded.of_speaks {p : Activity σ Returned} (h : Speaks p) : Worded p := by
  intro rely s outcome s' hends fault hfault
  cases h rely s outcome s' hends with
  | value | built => cases hfault
  | fault worded =>
      cases hfault
      exact worded

/-- A handler whose last part is to give back a value or a fault with words. -/
theorem speaks_andThen {p : Activity σ α} {next : Except Fault α → Activity σ Returned}
    (h : ∀ outcome, Speaks (next outcome)) : Speaks (p.andThen next) := by
  intro rely s outcome s' hends
  obtain ⟨between, _, -, hnext⟩ := ends_andThen_iff.mp hends
  exact h between _ _ _ _ hnext

theorem speaks_ended {outcome : Except Fault Returned} (h : Tellable outcome) :
    Speaks (.ended outcome : Activity σ Returned) := by
  intro rely s outcome' s' hends
  obtain ⟨rfl, -⟩ := ends_ended_iff.mp hends
  exact h

end Activity

namespace Engine

open Activity (Ends Speaks)

variable {X : Type} {perform : X → Context → Fields → Activity (Engine X) Returned}
variable {rely : Engine X → Engine X → Prop} {intent : Intent} {engine engine' : Engine X}

/-- Looking for what comes after a step goes wrong with words. -/
theorem worded_nextIntent (intent : Intent) (result : StepResult) :
    Operation.Avoids Fault.speechless (nextIntent intent result : Work X (Option Intent)) := by
  have hgraphOf (routine : Routine) :
      Operation.Avoids Fault.speechless (graphOf routine : Work X Graph) := by
    refine .bind (fun _ => .ok _) fun engine => ?_
    split
    · exact .bind (fun _ => .ok _) fun _ => .pure _
    · refine .bind (.bind (fun _ => .ok _) fun _ => .ofExcept (worded_ofDefinition _ _)) fun _ => ?_
      exact .bind (.modify _) fun _ => .pure _
  refine .ite (.pure _) (.bind (avoids_stored ?_) fun found => ?_)
  · exact Store.avoids_ask fun rows => Store.avoids_readFirst worded_readRoutine _ rows.routines
  · cases found with
    | none => exact .pure _
    | some routine =>
        exact .bind (hgraphOf routine) fun _ => .bind (.ofExcept (worded_ask _ _ _)) fun _ =>
          .pure _

section Worded

variable (hworded : ∀ x context config, Activity.Worded (perform x context config))

include hworded

/-- The cause for which a step could not be carried out has words. -/
theorem worded_of_fails {fault : Fault}
    (h : (surroundings perform).Fails rely intent engine fault engine') :
    fault.speechless = false := by
  cases h with
  | unregistered _ told => exact worded_find _ _ _ told
  | unfilled _ unfilled => exact worded_hydrated intent _ unfilled
  | unfit _ _ _ _ told => exact worded_ofValue _ _ told
  | @raised handler config _ _ _ _ raised =>
      cases handler with
      | custom x => exact hworded x intent.context config _ _ _ _ raised _ rfl
      | builtin b =>
          have hrun : Activity.Worded
              ((surroundings perform).call (.builtin b) intent.context config) := by
            refine .bind (.ofOperation (.bind (.ofExcept (worded_plan b _ _)) fun plan => ?_))
              fun _ => .ended (.ok _)
            cases plan.mail with
            | none => exact .pure _
            | some mail => exact .bind (fun _ => .ok _) fun _ => .pure _
          exact hrun _ _ _ _ raised _ rfl

/-- If a step is broken off, the fault has words. -/
theorem worded_execute (intent : Intent) :
    Activity.Worded ((surroundings perform).execute intent) := by
  intro rely s outcome s' hends
  rcases ends_execute_iff.mp hends with ⟨result, _, rfl, -⟩ | ⟨fault, rfl, hbreaks⟩
  · exact .ok result
  · cases hbreaks with
    | spoilt _ told => exact .error (worded_check _ _ _ _ told)
    | nameless => exact .error rfl
    | wordless fails _ => cases worded_of_fails hworded fails

theorem worded_runFirst (intent : Intent) : Activity.Worded (runFirst perform intent) :=
  .bind (worded_execute hworded intent) fun _ => .bind (.ofOperation fun _ => .ok _) fun _ =>
    .ended (.ok _)

theorem worded_runStep (intent : Intent) : Activity.Worded (runStep perform intent) := by
  unfold runStep
  split
  · exact .bind (.ofOperation fun _ => .ok _) fun _ => .ended (.ok _)
  · exact worded_runFirst hworded intent

/-- By induction on the number of steps. -/
theorem worded_runSteps (fuel : Nat) (intent : Intent) :
    Activity.Worded (runSteps perform fuel intent) := by
  induction fuel generalizing intent with
  | zero => exact .ended (.error rfl)
  | succ fuel ih =>
      refine .bind (worded_runStep hworded intent) fun result =>
        .bind (.ofOperation (worded_nextIntent intent result)) fun next => ?_
      cases next with
      | none => exact .ended (.ok _)
      | some next => exact .bind (ih next) fun _ => .ended (.ok _)

/-- A chain that is broken off is so by a fault that has words. -/
theorem worded_runChain (intent : Intent) : Activity.Worded (runChain perform intent) := by
  refine .bind (.ofOperation (.bind (fun _ => .ok _) fun found => ?_)) fun _ =>
    worded_runSteps hworded _ intent
  split <;> exact .pure _

end Worded

/-- A step whose key has words is carried out with a result. -/
theorem not_breaks (hspeaks : ∀ x context config, Speaks (perform x context config))
    (hkey : intent.step.handlerKey.writable = true) {fault : Fault} :
    ¬ (surroundings perform).Breaks rely intent engine fault engine' := by
  intro h
  cases h with
  | nameless _ mute => exact absurd (hkey.symm.trans mute) Bool.false_ne_true.symm
  | wordless fails _ =>
      cases worded_of_fails (fun x context config => .of_speaks (hspeaks x context config)) fails
  | spoilt spoils _ =>
      obtain @⟨handler, config, _, _, _, _, given, unfit⟩ := spoils
      cases handler with
      | custom x =>
          cases hspeaks x intent.context config _ _ _ _ given with
          | built answer => exact unfit answer rfl
      | builtin b =>
          rcases Activity.ends_bind_iff.mp given with ⟨_, hfault, -⟩ | ⟨answer, _, -, hlast⟩
          · cases hfault
          · obtain ⟨hgiven, -⟩ := Activity.ends_ended_iff.mp hlast
            exact unfit answer (Returned.built.inj (Except.ok.inj hgiven))

end Engine

end Workflow
