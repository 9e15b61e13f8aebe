import Workflow.Proofs.Dispatch.Errand
import Workflow.Proofs.Http.Scoped

/-!
# Calls and the graphs at hand

No call that a client may make finds out which graphs an engine has at hand. So a client gets the
same answers from an engine that builds each graph anew.
-/

namespace Workflow

namespace Engine.Rebuilt

variable {X : Type} {kind : StoreKind} {limit : Nat}

open Operation (Blind)

theorem blind_changeTable (f : ConversationTable → ConversationTable) :
    Blind (Rebuilt kind limit []) (changeTable f : Work X Unit) := by
  have haside : Aside (Tends kind) (changeTable f : Work X Unit) :=
    ⟨fun _ _ => rfl, fun engine => .of_same rfl rfl rfl (Nat.le_refl engine.made)⟩
  exact haside.blind []

theorem blind_audit (routine execution : String) (step : Step) (result : StepResult) :
    Blind (Rebuilt kind limit []) (audit routine execution step result : Work X Unit) :=
  (aside_audit routine execution step result).blind []

theorem blind_gate (id : String) : Blind (Rebuilt kind limit []) (gate id : Work X Unit) := by
  refine .reading (fun s t ⟨hsame, _⟩ => by rw [hsame]; rfl) fun engine =>
    .ite (fun _ => ?_) fun _ => .pure _
  refine .bind ((aside_routine? id).blind []) fun found => ?_
  cases found with
  | none => exact .fail _
  | some routine => exact .ite (fun _ => .fail _) fun _ => .pure _

theorem blind_carryOut (c : Conversation) (request : Request) :
    Blind (Rebuilt kind limit []) (carryOut c request : Work X Outcome) := by
  refine .reading (fun s t ⟨hsame, _⟩ => by rw [hsame]; rfl) fun engine =>
    .bind (.each _ fun effect _ => ?_) fun _ => .pure _
  cases effect with
  | said step message => exact (aside_notify _).blind []
  | moved state => exact .pure _
  | recorded step result => exact .bind (blind_audit _ _ _ _).attempt fun _ => .pure _

theorem blind_start (id : String) (bindings : Fields) :
    Blind (Rebuilt kind limit []) (start id bindings : Work X Conversation) := by
  refine .bind ((aside_routine id none).blind []) fun found => .ite (fun _ => .fail _) fun _ => ?_
  exact .bind ((aside_check _).blind []) fun graph => .bind (aside_fresh.blind []) fun name =>
    .bind (blind_carryOut _ _) fun outcome => .bind (.ofExcept _) fun _ =>
      .bind (blind_changeTable _) fun _ => .pure _

theorem blind_resume (id : String) (input : Value) :
    Blind (Rebuilt kind limit []) (resume id input : Work X Conversation) := by
  have hask : Blind (Rebuilt kind limit []) (conversation id : Work X Conversation) := by
    refine .reading (fun s t ⟨hsame, _⟩ => by rw [hsame]; rfl) fun engine => ?_
    cases engine.table.find? id with
    | none => exact .fail _
    | some c => exact .pure _
  refine .bind hask fun c => .bind (blind_gate c.routine) fun _ =>
    .bind (blind_carryOut c _) fun outcome => ?_
  cases outcome.response with
  | ok response => exact .bind (blind_changeTable _) fun _ => .pure _
  | error fault => exact .bind (blind_changeTable _) fun _ => .fail _

theorem blind_template (key : String) :
    Blind (Rebuilt kind limit []) (template key : Work X Template) := by
  refine .bind ((aside_stored (Store.perform_ask_snd _ _)).blind []) fun found => ?_
  cases found with
  | some template => exact .pure _
  | none =>
      refine .bind ((aside_stored (Store.perform_ask_snd _ _)).blind []) fun found => ?_
      cases found with
      | some template => exact .pure _
      | none => exact .fail _

end Engine.Rebuilt

namespace Http.Call

open Engine (Rebuilt)
open Operation (Blind)

variable {kind : StoreKind} {limit : Nat}

theorem blind_owned (id scope : String) {work : Work Value}
    (h : Blind (Rebuilt kind limit []) work) :
    Blind (Rebuilt kind limit []) (owned id scope work) :=
  leads_grant (Blind.bind ((Engine.aside_routine id (some scope)).blind []) fun _ => h)

theorem blind_tracked (id scope : String) {work : Conversation → Work Value}
    (h : ∀ c, Blind (Rebuilt kind limit []) (work c)) :
    Blind (Rebuilt kind limit []) (tracked id scope work) := by
  refine .reading (fun s t ⟨hsame, _⟩ => by rw [hsame]; rfl) fun engine => ?_
  cases engine.table.find? id with
  | none => exact .pure _
  | some c =>
      have hask : Blind (Rebuilt kind limit [])
          (Engine.routine c.routine (some scope) : Work Routine) :=
        (Engine.aside_routine c.routine (some scope)).blind []
      refine .bind hask.attempt fun outcome => ?_
      cases outcome with
      | error fault => exact .pure _
      | ok found => exact leads_grant (h c)

/-- A call does not find out which graphs are at hand. -/
theorem blind_run (scope : String) (call : Call) :
    Blind (Rebuilt kind limit []) (call.run scope) := by
  cases call with
  | templates =>
      exact .bind ((Engine.aside_stored (Store.perform_ask_snd _ _)).blind []) fun _ => .pure _
  | dispatch key payload follow =>
      have hdispatch : Blind (Rebuilt kind limit []) (Operation.ofFunction
          (Engine.dispatchCounted Engine.performNone key payload scope follow).run) :=
        fun s t hst => (Engine.blind_dispatchCounted nofun key payload scope follow).run hst
      exact .bind hdispatch fun _ => .pure _
  | instantiate key configuration name createdBy =>
      exact leads_grant (Blind.bind (Rebuilt.blind_template key) fun template =>
        .bind ((Engine.aside_instantiate template scope configuration _ createdBy).blind []) fun _ =>
          .pure _)
  | listRoutines status =>
      exact .bind ((Engine.aside_routines scope status).blind []) fun _ => .pure _
  | routine id =>
      exact leads_grant (Blind.bind ((Engine.aside_routine id (some scope)).blind []) fun _ => .pure _)
  | setStatus id status =>
      exact blind_owned id scope (.bind ((Engine.aside_setStatus id status).blind []) fun _ => .pure _)
  | setDefinition id definition createdBy =>
      exact blind_owned id scope
        (.bind ((Engine.aside_updateDefinition id definition createdBy).blind []) fun _ => .pure _)
  | rollback id version createdBy =>
      exact blind_owned id scope
        (.bind ((Engine.aside_rollback id version createdBy).blind []) fun _ => .pure _)
  | versions id =>
      exact blind_owned id scope (.bind ((Engine.aside_history id).blind []) fun _ => .pure _)
  | audit id page =>
      exact blind_owned id scope
        (.bind ((Engine.aside_stored (Store.perform_ask_snd _ _)).blind []) fun _ => .pure _)
  | start id bindings =>
      exact blind_owned id scope (.bind (Rebuilt.blind_start id bindings) fun _ => .ofExcept _)
  | conversation id => exact blind_tracked id scope fun _ => .ofExcept _
  | resume id reply =>
      exact blind_tracked id scope fun _ =>
        .bind (Rebuilt.blind_resume id reply.encode) fun _ => .ofExcept _

end Http.Call

end Workflow
