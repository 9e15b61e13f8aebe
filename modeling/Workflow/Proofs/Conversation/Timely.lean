import Workflow.Proofs.Conversation.Progress

/-!
# Refusals of a turn

A conversation starts once, and it takes a reply only while it waits. A request at another time is
out of turn and is refused before anything is done. No fault that ends a turn halfway is a refusal:
it comes from a configuration or from where results are kept, and the graph was checked before. A
refusal is therefore all that came of a request.
-/

namespace Workflow

/-- The request came out of turn. -/
def Fault.outOfTurn : Fault → Bool
  | .alreadyStarted _ _ | .notSuspended _ _ => true
  | _ => false

/-- Something is wrong with a graph. -/
def Fault.ofGraph : Fault → Bool
  | .invalidGraph _ | .unknownStep _ => true
  | _ => false

theorem Fault.isRefusal_of_outOfTurn {fault : Fault} (h : fault.outOfTurn = true) :
    fault.isRefusal = true := by
  cases fault <;> first | rfl | cases h

theorem Fault.isRefusal_of_ofGraph {fault : Fault} (h : fault.ofGraph = true) :
    fault.isRefusal = true := by
  cases fault <;> first | rfl | cases h

section Kinds

variable {σ α : Type}

theorem Avoids.outOfTurn {outcome : Except Fault α} (h : Avoids Fault.isRefusal outcome) :
    Avoids Fault.outOfTurn outcome := h.imp Fault.isRefusal_of_outOfTurn

theorem Avoids.ofGraph {outcome : Except Fault α} (h : Avoids Fault.isRefusal outcome) :
    Avoids Fault.ofGraph outcome := h.imp Fault.isRefusal_of_ofGraph

theorem Operation.Avoids.outOfTurn {operation : Operation σ α}
    (h : Operation.Avoids Fault.isRefusal operation) :
    Operation.Avoids Fault.outOfTurn operation := fun s => (h s).outOfTurn

end Kinds

/-- The outcome is no refusal. -/
abbrev Timely {α : Type} (outcome : Except Fault α) : Prop := Avoids Fault.isRefusal outcome

section Leaves

theorem timely_wording (v : Value) : Timely v.wording := .ite (.ok _) (.error rfl)

theorem timely_index (part : String) : Timely (Placeholder.index part) := by
  unfold Placeholder.index
  split
  · exact .error rfl
  · exact .ite (.error rfl) (.ok _)

theorem timely_stepInto (value : Value) (part : String) :
    Timely (Placeholder.stepInto value part) := by
  unfold Placeholder.stepInto
  split
  · exact .ok _
  · exact .ite (.map _ (timely_index part)) (.ok _)
  · exact .ok _

theorem timely_walk (value : Value) (parts : List String) :
    Timely (Placeholder.walk value parts) := by
  induction parts generalizing value with
  | nil => exact .ok _
  | cons part rest ih =>
      refine .ite (.ok _) ?_
      have hstep := timely_stepInto value part
      cases hinto : Placeholder.stepInto value part with
      | error fault => exact .error (hstep fault hinto)
      | ok found =>
          cases found with
          | none => exact .ok _
          | some next => exact ih next

theorem timely_fill (context : Value) (piece : Placeholder.Piece) :
    Timely (Placeholder.fill context piece) := by
  cases piece with
  | plain c => exact .ok _
  | hole inner =>
      refine .ite (.ok _) ?_
      have hwalk := timely_walk context (Placeholder.parts (String.ofList (Text.trimChars inner)))
      unfold Placeholder.resolve
      split
      · exact .error (hwalk _ ‹_›)
      · exact .ok _
      · exact .ok _
      · exact .map _ (timely_wording _)

theorem timely_fillAll (context : Value) (pieces : List Placeholder.Piece) :
    Timely (Placeholder.fillAll context pieces) := by
  induction pieces with
  | nil => exact .ok _
  | cons piece rest ih =>
      have hfill := timely_fill context piece
      unfold Placeholder.fillAll
      cases hfilled : Placeholder.fill context piece with
      | error fault => exact .error (hfill fault hfilled)
      | ok front => exact .map _ ih

theorem timely_interpolateText (context v : Value) : Timely (interpolateText context v) := by
  cases v with
  | text s => exact .map _ (.map _ (timely_fillAll context _))
  | _ => exact .ok _

theorem timely_iterate (v : Value) : Timely v.iterate := by
  cases v <;> first | exact .error rfl | exact .ok _

theorem timely_fieldsOf (v : Value) : Timely v.fieldsOf := by
  cases v <;> first | exact .error rfl | exact .ok _

theorem timely_set (bindings : Variables) (name value : Value) :
    Timely (bindings.set name value) := by
  cases name <;> first | exact .error rfl | exact .ok _

theorem avoids_node (graph : Graph) (id : String) :
    Avoids Fault.outOfTurn (graph.node id) := by
  unfold Graph.node
  split
  · exact .ok _
  · exact .error rfl

theorem timely_check {α : Type} (subject : String) (decode : Decoder α) (input : Value) :
    Timely (Fault.check subject decode input) := by
  unfold Fault.check
  split
  · exact .ok _
  · exact .error rfl

theorem timely_ofValue (input : Value) : Timely (Reply.ofValue input) := by
  unfold Reply.ofValue
  split
  · exact .ok _
  · exact .ok _
  · exact timely_check _ _ _

theorem timely_options (step : Step) : Timely step.options := by
  unfold Step.options
  cases step.kind with
  | buttons => exact .ite (timely_iterate _) (.ok _)
  | waitInput => exact .ite (timely_iterate _) (.ok _)
  | _ => exact .ok _

theorem timely_pick (wanted : String) (options : List Value) :
    Timely (Reply.pick wanted options) := by
  induction options with
  | nil => exact .ok _
  | cons option rest ih =>
      exact .bind (timely_fieldsOf option) fun fields => .bind (timely_wording _) fun title =>
        .ite (.ok _) ih

theorem timely_choiceAt (step : Step) (reply : Reply) : Timely (reply.choiceAt step) := by
  have htyped : Timely (Reply.choiceAt.typed step reply) := by
    unfold Reply.choiceAt.typed
    exact .ite (.ok _) (.bind (timely_options step) fun options => timely_pick _ options)
  unfold Reply.choiceAt
  split
  · exact .ite (.ok _) htyped
  · exact htyped

theorem timely_count (v : Value) : Timely v.count := by
  unfold Value.count
  split
  · exact .ok _
  · exact .ok _
  · split <;> first | exact .ok _ | exact .error rfl
  · split
    · exact .error rfl
    · exact .ite (.error rfl) (.ok _)
  · exact .error rfl

theorem timely_fitsLength (content : String) (least greatest : Value) :
    Timely (Reply.fitsLength content least greatest) := by
  have hbound (v : Value) : Timely (Reply.fitsLength.bound v) := .ite (timely_count v) (.ok _)
  exact .bind (hbound least) fun _ => .ite (.ok _) (.bind (hbound greatest) fun _ =>
    .ite (.ok _) (.ok _))

theorem timely_fits (content : String) (rule : Value) : Timely (Reply.fits content rule) := by
  refine .ite (.ok _) (.bind (timely_fieldsOf rule) fun fields => ?_)
  dsimp only
  split
  · refine .bind (timely_wording _) fun pattern => ?_
    split <;> first | exact .ok _ | exact .error rfl
  · exact .bind (timely_wording _) fun part => .ok _
  · exact timely_fitsLength _ _ _
  all_goals exact .ok _

theorem timely_refusal (step : Step) : Timely step.refusal := by
  unfold Step.refusal
  dsimp only
  split
  · exact .bind (timely_fieldsOf _) fun _ => .ok _
  · exact .ok _

end Leaves

namespace Operation

variable {σ α : Type}

/-- No fault the operation ends with is a refusal. -/
abbrev InTurn (operation : Operation σ α) : Prop := Avoids Fault.isRefusal operation

end Operation

/-- An edge that is followed after a reply is one of the graph's. -/
theorem Graph.mem_edges_of_resumeEdge {graph : Graph} {step : Step} {choice : Value} {edge : Edge}
    (h : graph.resumeEdge step choice = .ok edge) : edge ∈ graph.definition.edges := by
  unfold Graph.resumeEdge at h
  dsimp only at h
  split at h
  · rename_i hchosen
    cases h
    split at hchosen
    · obtain ⟨handle, -, hhandle⟩ := Option.bind_eq_some_iff.mp hchosen
      exact (List.mem_filter.mp (List.mem_of_find?_eq_some hhandle)).1
    · cases hchosen
  · split at h
    · cases h
      exact (Graph.mem_edges_of_defaultEdge? ‹_›).1
    · cases h

/-- Without an edge to follow, either there is no path or the choice has no text. -/
theorem Graph.fault_of_resumeEdge {graph : Graph} {step : Step} {choice : Value} {fault : Fault}
    (h : graph.resumeEdge step choice = .error fault) :
    fault = .noPath step.id choice ∨ fault = .oversizeNumber .written := by
  unfold Graph.resumeEdge at h
  dsimp only at h
  split at h
  · cases h
  · split at h
    · cases h
    · obtain rfl := Except.error.inj h
      unfold Fault.naming
      split
      · exact .inl rfl
      · exact .inr rfl

namespace Turn

open Operation (InTurn)

theorem inTurn_current : InTurn current := fun t => .ok t.conversation

theorem inTurn_tell (effect : Effect) : InTurn (tell effect) := fun _ => .ok _

theorem inTurn_moveTo (state : RunState) : InTurn (moveTo state) :=
  .bind inTurn_current fun _ => .ite (.bind (.modify _) fun _ => inTurn_tell _) (.pure _)

theorem inTurn_sayWith (role : Role) (content : Value) (metadata : Option Fields) :
    InTurn (sayWith role content metadata) := by
  cases content with
  | text content => exact fun _ => .ok _
  | _ => exact .fail rfl

theorem inTurn_say (role : Role) (content : Value) : InTurn (say role content) :=
  .bind (inTurn_sayWith role content none) fun _ => .pure _

theorem inTurn_announce (sentence : String) : InTurn (announce sentence) := inTurn_say .system _

theorem inTurn_announceWith (sentence : String → String) (named : Value) :
    InTurn (announceWith sentence named) :=
  .bind (.ofExcept (timely_wording named)) fun _ => inTurn_announce _

theorem inTurn_filled (v : Value) : InTurn (filled v) :=
  .bind inTurn_current fun c => .ofExcept (timely_interpolateText c.bindings.context v)

theorem inTurn_record (recorder : Recorder) (step : Step) (narrative : String) (suspended : Bool) :
    InTurn (record recorder step narrative suspended) := by
  refine .bind inTurn_current fun c => .ite (.pure _) ?_
  cases recorder with
  | absent => exact .pure _
  | keeping => exact .modify _
  | failing reason => exact .bind (.modify _) fun _ => .fail rfl

theorem inTurn_shownButton (button : Value) : InTurn (shownButton button) := by
  cases button with
  | object fields =>
      exact .bind (.ofExcept (timely_wording _)) fun _ => .bind (inTurn_filled _) fun _ => .pure _
  | _ => exact .fail rfl

theorem inTurn_offerButtons (step : Step) : InTurn (offerButtons step) := by
  have hoffer (body : Value) (buttons : List Value) : InTurn (do
      let shown ← Operation.each shownButton buttons
      let _ ← sayWith .assistant body
        (some [("type", .text "buttons"), ("buttons", .list shown)])) :=
    .bind (.each inTurn_shownButton buttons) fun _ => .bind (inTurn_sayWith _ _ _) fun _ => .pure _
  refine .bind (inTurn_filled _) fun body => .ite ?_ ?_
  · exact .bind (.ofExcept (timely_iterate _)) (hoffer body)
  · exact .bind (.pure _) (hoffer body)

theorem inTurn_setVariable (step : Step) : InTurn (setVariable step) := by
  refine .bind (inTurn_filled _) fun value => .bind inTurn_current fun c => ?_
  refine .bind (.ofExcept (timely_set _ _ _)) fun bindings => ?_
  exact .bind (.modify _) fun _ => inTurn_announceWith _ _

theorem inTurn_act (step : Step) : InTurn (act step) :=
  .ite (.bind (inTurn_filled _) fun message => inTurn_say .assistant message)
    (.ite (inTurn_setVariable step) (inTurn_announceWith _ _))

theorem inTurn_process (step : Step) : InTurn (process step) := by
  unfold process
  cases step.kind with
  | buttons => exact .bind (inTurn_offerButtons step) fun _ => .pure _
  | action => exact .bind (inTurn_act step) fun _ => .pure _
  | tag => exact .bind (inTurn_filled _) fun _ => .bind (inTurn_announceWith _ _) fun _ => .pure _
  | stage => exact .bind (inTurn_filled _) fun _ => .bind (inTurn_announceWith _ _) fun _ => .pure _
  | waitInput => exact .bind (inTurn_announceWith _ _) fun _ => .pure _
  | _ => exact .bind (inTurn_announce _) fun _ => .pure _

theorem inTurn_visit (recorder : Recorder) (step : Step) : InTurn (visit recorder step) :=
  .bind (.modify _) fun _ => .bind inTurn_current fun _ => .bind (inTurn_process step) fun _ =>
    .bind inTurn_current fun _ => .bind (inTurn_record _ _ _ _) fun _ => .pure _

theorem inTurn_walk (recorder : Recorder) (fuel : Nat) (step : Step) :
    InTurn (walk recorder fuel step) := by
  induction fuel generalizing step with
  | zero => exact .fail rfl
  | succ fuel ih =>
      refine .bind (inTurn_visit recorder step) fun waits => .ite (inTurn_moveTo _) ?_
      refine .bind inTurn_current fun c => ?_
      cases c.graph.stepAfter? step.id with
      | some next => exact ih next
      | none => exact inTurn_moveTo _

theorem inTurn_walkFrom (recorder : Recorder) (step : Step) : InTurn (walkFrom recorder step) :=
  .bind inTurn_current fun c => inTurn_walk recorder c.graph.size step

section Deliver

variable {onward : Step → Operation Turn Unit} (h : ∀ step, InTurn (onward step))

include h

theorem inTurn_follow (recorder : Recorder) (step : Step) (choice : Value) :
    InTurn (follow recorder onward step choice) := by
  intro t
  rw [follow, Operation.perform_bind_ok (perform_current t)]
  cases hedge : t.conversation.graph.resumeEdge step choice with
  | ok edge =>
      obtain ⟨target, htarget⟩ := Graph.exists_node_target (Graph.mem_edges_of_resumeEdge hedge)
      rw [Operation.perform_bind_ok (perform_current t), htarget]
      exact h target t
  | error fault =>
      obtain rfl | rfl := Graph.fault_of_resumeEdge hedge
      · exact Operation.Avoids.bind (inTurn_announce _) (fun _ =>
          .bind (inTurn_record _ _ _ _) fun _ => inTurn_moveTo _) t
      · exact Avoids.error rfl

theorem inTurn_deliver (recorder : Recorder) (step : Step) (reply : Reply) :
    InTurn (deliver recorder onward step reply) := by
  have hstore (content : String) : InTurn (storeReply step content) :=
    .ite (.bind inTurn_current fun _ => .bind (.ofExcept (timely_set _ _ _)) fun _ => .modify _)
      (.pure _)
  have haccept (content : String) : InTurn (acceptTyped step content) :=
    .bind (.ofExcept (timely_fits _ _)) fun _ => .ite (.bind (hstore content) fun _ => .pure _)
      (.bind (.ofExcept (timely_refusal step)) fun _ => .bind (inTurn_say _ _) fun _ =>
        .bind (inTurn_moveTo _) fun _ => .pure _)
  refine .bind (inTurn_moveTo _) fun _ => .bind (inTurn_say _ _) fun _ => ?_
  refine .bind (.ofExcept (timely_choiceAt step reply)) fun choice => ?_
  split
  · exact .bind (haccept _) fun _ => .ite (inTurn_follow h recorder step choice) (.pure _)
  · exact .bind (.pure _) fun _ => .ite (inTurn_follow h recorder step choice) (.pure _)

/-- A conversation that may start does not end with a refusal. -/
theorem timely_start {t : Turn} (hidle : t.conversation.state = .idle) :
    Timely ((start onward).perform t).1 := by
  have hinTurn : InTurn (do moveTo .running; onward t.conversation.graph.trigger
                            return (← current).state) :=
    .bind (inTurn_moveTo _) fun _ => .bind (h _) fun _ => .bind inTurn_current fun _ => .pure _
  rw [start, Operation.perform_bind_ok (perform_current t), if_neg (not_not.mpr hidle)]
  exact hinTurn t

theorem outOfTurn_start {t t' : Turn} {fault : Fault}
    (hstart : (start onward).perform t = (.error fault, t')) (hfault : fault.outOfTurn = true) :
    t.conversation.state ≠ .idle := by
  intro hidle
  have htimely := (timely_start h hidle).outOfTurn fault (congrArg Prod.fst hstart)
  exact Bool.false_ne_true (htimely.symm.trans hfault)

/-- A reply is refused before the turn does anything. -/
theorem traceless_resume (recorder : Recorder) (input : Value) (t : Turn) :
    Operation.Traceless Fault.isRefusal (resume recorder onward input) t := by
  refine .bind rfl fun c hc => ?_
  obtain rfl : t.conversation = c := Except.ok.inj (congrArg Prod.fst hc)
  refine .ite (fun _ => .of_same rfl) fun _ => .bind rfl fun reply _ => .bind rfl fun step _ => ?_
  exact .of_avoids ((Operation.Avoids.bind (inTurn_deliver h recorder step reply) fun _ =>
    .bind inTurn_current fun _ => .pure _) t)

theorem outOfTurn_resume {recorder : Recorder} {input : Value} {t t' : Turn} {fault : Fault}
    (hresume : (resume recorder onward input).perform t = (.error fault, t'))
    (hfault : fault.outOfTurn = true) : t.conversation.state ≠ .suspended := by
  intro hsuspended
  have havoids : Operation.Avoids Fault.outOfTurn (do
      let reply ← Operation.ofExcept (Reply.ofValue input)
      let step ← Operation.ofExcept (t.conversation.graph.node (t.conversation.node.getD ""))
      deliver recorder onward step reply
      return (← current).state) :=
    .bind (.ofExcept (timely_ofValue input).outOfTurn) fun _ =>
      .bind (.ofExcept (avoids_node _ _)) fun _ => .bind (inTurn_deliver h _ _ _).outOfTurn fun _ =>
        .bind inTurn_current.outOfTurn fun _ => .pure _
  rw [resume, Operation.perform_bind_ok (perform_current t),
    if_neg (not_not.mpr hsuspended)] at hresume
  exact Bool.false_ne_true
    ((havoids t fault (congrArg Prod.fst hresume)).symm.trans hfault)

end Deliver

end Turn

end Workflow
