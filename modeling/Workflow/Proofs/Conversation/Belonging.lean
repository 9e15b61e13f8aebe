import Workflow.Proofs.Conversation.Talk

/-!
# A conversation stays in its run

Whatever is asked of a conversation, it keeps the name of its run and the routine it belongs to, also
where a fault ends the turn halfway.
-/

namespace Workflow

namespace Turn

/-- The conversation stays in its run and with its routine. -/
def SameRun (t t' : Turn) : Prop :=
  t'.conversation.id = t.conversation.id ∧ t'.conversation.routine = t.conversation.routine

instance : IsPreorder Turn SameRun where
  refl _ := ⟨rfl, rfl⟩
  trans _ _ _ first rest := ⟨rest.1.trans first.1, rest.2.trans first.2⟩

open Operation (Respects)

variable {recorder : Recorder} {onward : Step → Operation Turn Unit}

theorem Talks.sameRun {t t' : Turn} (h : Talks t t') : SameRun t t' := by
  obtain ⟨_, _, _, _, hconversation⟩ := h
  rw [SameRun, hconversation]
  exact ⟨rfl, rfl⟩

theorem sameRun_of_talks {α : Type} {operation : Operation Turn α}
    (h : Respects Talks operation) : Respects SameRun operation := fun t => (h t).sameRun

theorem sameRun_moveTo (state : RunState) : Respects SameRun (moveTo state) :=
  respects_moveTo fun _ => ⟨rfl, rfl⟩

theorem sameRun_visit (recorder : Recorder) (step : Step) :
    Respects SameRun (visit recorder step) := fun t => (talks_visit recorder step t).sameRun

/-- The induction is on the fuel, that is on the steps still to be carried out. -/
theorem sameRun_walk (recorder : Recorder) (fuel : Nat) (step : Step) :
    Respects SameRun (walk recorder fuel step) := by
  induction fuel generalizing step with
  | zero => exact .fail _
  | succ fuel ih =>
      refine .bind (sameRun_visit recorder step) fun waits => .ite (fun _ => ?_) fun _ => ?_
      · exact sameRun_moveTo .suspended
      · refine .bind respects_current fun c => ?_
        cases c.graph.stepAfter? step.id with
        | none => exact sameRun_moveTo .completed
        | some next => exact ih next

theorem sameRun_start (honward : ∀ step, Respects SameRun (onward step)) :
    Respects SameRun (start onward) := by
  refine .bind respects_current fun c => .ite (fun _ => .fail _) fun _ => ?_
  exact .bind (sameRun_moveTo .running) fun _ => .bind (honward _) fun _ =>
    .bind respects_current fun _ => .pure _

theorem sameRun_follow (honward : ∀ step, Respects SameRun (onward step)) (step : Step)
    (choice : Value) : Respects SameRun (follow recorder onward step choice) := by
  refine .bind respects_current fun c => ?_
  cases c.graph.resumeEdge step choice with
  | ok edge =>
      exact .bind respects_current fun _ => .bind (.ofExcept _) fun target =>
        honward target
  | error fault =>
      cases fault with
      | noPath =>
          exact .bind (sameRun_of_talks (talks_announce _)) fun _ =>
            .bind (sameRun_of_talks (talks_record _ _ _ _)) fun _ => sameRun_moveTo .completed
      | _ => exact .fail _

theorem sameRun_acceptTyped (step : Step) (content : String) :
    Respects SameRun (acceptTyped step content) := by
  refine .bind (.ofExcept _) fun fits => .ite (fun _ => ?_) fun _ => ?_
  · exact .bind (sameRun_of_talks (talks_storeReply step content)) fun _ => .pure _
  · exact .bind (.ofExcept _) fun _ => .bind (sameRun_of_talks (talks_say _ _)) fun _ =>
      .bind (sameRun_moveTo .suspended) fun _ => .pure _

theorem sameRun_deliver (honward : ∀ step, Respects SameRun (onward step)) (step : Step)
    (reply : Reply) : Respects SameRun (deliver recorder onward step reply) := by
  refine .bind (sameRun_moveTo .running) fun _ =>
    .bind (sameRun_of_talks (talks_say .user _)) fun _ => .bind (.ofExcept _) fun choice => ?_
  refine .ite (fun _ => .bind (sameRun_acceptTyped step _) fun accepted => ?_) fun _ => ?_
  · exact .ite (fun _ => sameRun_follow honward step choice) fun _ => .pure _
  · exact sameRun_follow honward step choice

theorem sameRun_resume (honward : ∀ step, Respects SameRun (onward step)) (input : Value) :
    Respects SameRun (resume recorder onward input) := by
  refine .bind respects_current fun c => .ite (fun _ => .fail _) fun _ => ?_
  exact .bind (.ofExcept _) fun reply => .bind (.ofExcept _) fun step =>
    .bind (sameRun_deliver honward step reply) fun _ =>
      .bind respects_current fun _ => .pure _

end Turn

/-- A conversation stays in its run and with its routine. -/
theorem Conversation.belonging_handle (recorder : Recorder) (c : Conversation) (request : Request) :
    (c.handle recorder request).conversation.id = c.id ∧
      (c.handle recorder request).conversation.routine = c.routine := by
  have honward (step : Step) : Operation.Respects Turn.SameRun (Turn.walkFrom recorder step) :=
    .bind Turn.respects_current fun c => Turn.sameRun_walk recorder _ step
  have hturn : Operation.Respects Turn.SameRun
      (turn recorder (Turn.walkFrom recorder) request) := by
    cases request with
    | start => exact .map _ (Turn.sameRun_start honward)
    | resume input => exact .map _ (Turn.sameRun_resume honward input)
    | note content => exact .map _ (Turn.sameRun_of_talks (Turn.talks_sayWith _ _ _))
  exact hturn { conversation := c, observer := fun _ => .ok () }

end Workflow
