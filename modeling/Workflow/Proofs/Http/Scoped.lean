import Workflow.Http.Service
import Workflow.Proofs.Scope.Turnover

/-!
# What a call finds out

Every call that a client may make is made in a scope, and it finds out nothing about other scopes:
it ends alike on engines that look alike to the scope, and they look alike afterwards. What belongs
to another scope is answered like what does not exist, and nothing is done then.
-/

namespace Workflow

namespace Engine.Outlook

/-- The tables have the same conversations of the scope. -/
structure Matched {X : Type} (o : Outlook X) : Prop where
  same : (o.left.table.conversations.filter fun c => o.mine c.routine) =
    o.right.table.conversations.filter fun c => o.mine c.routine
  left : (o.left.table.conversations.map Conversation.id).Nodup
  right : (o.right.table.conversations.map Conversation.id).Nodup

end Engine.Outlook

namespace Http.Call

open Engine (Sees Settled Outlook)
open Operation (Blind Leads)

variable {o : Outlook Empty} {id : String} {engine : Engine Empty}

theorem leads_grant {R Q : Engine Empty → Engine Empty → Prop} {work : Work Value}
    (h : Leads R Q work) : Leads R Q (grant work) := by
  refine .bind h.attempt (fun _ _ hst => hst) fun outcome _ => ?_
  cases outcome with
  | ok v => exact Blind.pure _
  | error fault =>
      cases hanswer : Answer.ofFault? fault with
      | some answer =>
          simp only [hanswer]
          exact Blind.pure _
      | none =>
          simp only [hanswer]
          exact Blind.fail _

section Refused

/-- The answer to a call for a routine that is not there. -/
def noRoutine (id : String) : Answer := .sentence 404 (Fault.noRoutine id).message

/-- A routine that is not there for the scope is answered like one that does not exist. -/
theorem perform_routine_refused {scope : String} (h : (Engine.routine id (some scope)).perform engine =
      (.error (.noRoutine id), engine)) (next : Routine → Work Value) :
    (grant (Engine.routine id (some scope) >>= next)).perform engine =
      (.ok (.error (noRoutine id)), engine) := by
  have hwork : (Engine.routine id (some scope) >>= next).attempt.perform engine =
      (.ok (.error (.noRoutine id)), engine) := by
    rw [Operation.perform_attempt, Operation.perform_bind_error h]
  rw [grant, Operation.perform_bind_ok hwork]
  rfl

/-- A conversation of a routine that is not there for the scope is answered like one that does not
exist. -/
theorem perform_tracked_refused {scope : String} (h : ∀ c, engine.table.find? id = some c →
      (Engine.routine c.routine (some scope)).perform engine =
        (.error (.noRoutine c.routine), engine)) (work : Conversation → Work Value) :
    (tracked id scope work).perform engine = (.ok (.error (noConversation id)), engine) := by
  rw [tracked, Operation.perform_bind_ok (Operation.perform_get engine)]
  cases hfind : engine.table.find? id with
  | none => rfl
  | some c =>
      have hattempt : (Engine.routine c.routine (some scope)).attempt.perform engine =
          (.ok (.error (.noRoutine c.routine)), engine) := by
        rw [Operation.perform_attempt, h c hfind]
      exact Operation.perform_bind_ok hattempt

end Refused

theorem leads_owned {work : Work Value}
    (h : o.mine id = true → Leads (Sees o) (Settled o) work) :
    Leads (Sees o) (Settled o) (owned id o.scope work) :=
  leads_grant (.bind (Engine.blind_routine_within id) (fun _ _ hst => hst.settled)
    fun _ ⟨_, _, hst, hgiven⟩ => h (Engine.mine_of_routine hst hgiven))

/-- A conversation is looked up in both tables, and work on it is only done when both find it. -/
theorem leads_tracked (hmatched : o.Matched) {work : Conversation → Work Value}
    (h : ∀ c, o.left.table.find? id = some c → o.right.table.find? id = some c →
      o.mine c.routine = true → Leads (Sees o) (Settled o) (work c)) :
    Leads (Sees o) (Settled o) (tracked id o.scope work) := by
  have hsettled (s t : Engine Empty) (hst : Sees o s t) : Settled o s t := hst.settled
  by_cases hfound : ∃ c, o.left.table.find? id = some c ∧ o.mine c.routine = true
  · obtain ⟨c, hleft, hmine⟩ := hfound
    have hright := ConversationTable.find?_of_alike hmatched.same hmatched.right hleft hmine
    intro s t hst
    obtain ⟨share, records, records', hs, ht, hmade⟩ := hst
    rw [tracked, Operation.perform_bind_ok (Operation.perform_get s),
      Operation.perform_bind_ok (Operation.perform_get t), hs.table, ht.table, hleft, hright]
    refine Leads.bind (Engine.blind_routine_within c.routine).attempt hsettled
      (fun outcome _ => ?_) s t ⟨share, records, records', hs, ht, hmade⟩
    cases outcome with
    | error fault => exact .of_blind hsettled (.pure _)
    | ok found => exact leads_grant (h c hleft hright hmine)
  · have hleft : ∀ c, o.left.table.find? id = some c → o.mine c.routine = false :=
      fun c hc => Bool.eq_false_iff.mpr fun hmine => hfound ⟨c, hc, hmine⟩
    have hright : ∀ c, o.right.table.find? id = some c → o.mine c.routine = false := by
      refine fun c hc => Bool.eq_false_iff.mpr fun hmine => hfound ⟨c, ?_, hmine⟩
      exact ConversationTable.find?_of_alike hmatched.same.symm hmatched.left hc hmine
    intro s t hst
    obtain ⟨share, records, records', hs, ht, hmade⟩ := hst
    rw [perform_tracked_refused fun c hc => hs.routine_refused (hleft c (hs.table ▸ hc)),
      perform_tracked_refused fun c hc => ht.routine_refused (hright c (ht.table ▸ hc))]
    exact ⟨rfl, Sees.settled ⟨share, records, records', hs, ht, hmade⟩⟩

/-- A call ends alike on engines that look alike to its scope. -/
theorem leads_run (hmatched : o.Matched) (call : Call) :
    Leads (Sees o) (Settled o) (call.run o.scope) := by
  have hsettled (s t : Engine Empty) (hst : Sees o s t) : Settled o s t := hst.settled
  have hstays (s t : Engine Empty) (hst : Settled o s t) : Settled o s t := hst
  cases call with
  | templates => exact .of_blind hsettled (Engine.blind_listTemplates.bind fun _ => .pure _)
  | dispatch key payload follow =>
      have hdispatch : Blind (Sees o) (Operation.ofFunction
          (Engine.dispatchCounted Engine.performNone key payload o.scope follow).run) :=
        fun s t hst => (Engine.Sees.blind_dispatchCounted key payload nofun follow).run hst
      exact .of_blind hsettled (hdispatch.bind fun _ => .pure _)
  | instantiate key configuration name createdBy =>
      exact leads_grant (.bind (Engine.blind_template key) hsettled fun template _ =>
        .bind (Engine.leads_instantiate template configuration _ createdBy) hstays fun _ _ =>
          Blind.pure _)
  | listRoutines status =>
      exact .of_blind hsettled ((Engine.blind_listRoutines status).bind fun _ => .pure _)
  | routine id =>
      exact leads_grant (.of_blind hsettled ((Engine.blind_routine_within id).bind fun _ => .pure _))
  | setStatus id status =>
      exact leads_owned fun hmine =>
        .of_blind hsettled ((Engine.blind_setStatus hmine status).bind fun _ => .pure _)
  | setDefinition id definition createdBy =>
      exact leads_owned fun hmine => .of_blind hsettled
        ((Engine.blind_updateDefinition hmine definition createdBy).bind fun _ => .pure _)
  | rollback id version createdBy =>
      exact leads_owned fun hmine => .of_blind hsettled
        ((Engine.blind_rollback hmine version createdBy).bind fun _ => .pure _)
  | versions id =>
      exact leads_owned fun hmine =>
        .of_blind hsettled ((Engine.blind_history hmine).bind fun _ => .pure _)
  | audit id page =>
      exact leads_owned fun hmine =>
        .of_blind hsettled ((Engine.blind_entriesOf hmine page).bind fun _ => .pure _)
  | start id bindings =>
      exact leads_owned fun hmine =>
        .bind (Engine.leads_start hmine bindings) hstays fun _ _ => Blind.ofExcept _
  | conversation id =>
      exact leads_tracked hmatched fun c _ _ _ => .of_blind hsettled (.ofExcept _)
  | resume id reply =>
      exact leads_tracked hmatched fun c hleft hright hmine =>
        .bind (Engine.leads_resume hleft hright hmine reply.encode) hstays fun _ _ =>
          Blind.ofExcept _

end Http.Call

end Workflow
