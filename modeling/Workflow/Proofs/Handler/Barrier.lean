import Workflow.Engine.Basic
import Workflow.Proofs.Activity

/-!
# Where faults end

Carrying out a step goes through four stages: the handler is looked up, the configuration is filled,
the handler is called, and what it gives back is read. `Surroundings.Fails` says how each of them may
go wrong, and `Surroundings.Succeeds` how all of them go well, for any handlers and whatever others
do while a handler gives way. A step ends with a result that says which of the two came about, and
observers are told of this result once.

The result is made after all that, where no fault is caught any more. `Surroundings.Breaks` says what
may still go wrong there: a cause or a key without words, and an output that the handler has built
itself with parts that are none of an answer. Then the step ends with a fault and nobody is told.
-/

namespace Workflow

variable {σ X : Type}

namespace Registry

variable {registry : Registry X} {key : Value} {handler : Handler X}

/-- A handler is registered under the key, which has to be a text with at least one character. -/
def Offers (registry : Registry X) (key : Value) (handler : Handler X) : Prop :=
  ∃ name entry, name ≠ "" ∧ key = .text name ∧ Dict.get? registry name = some entry ∧
    entry.handler = handler

theorem find_eq_ok_iff : registry.find key = .ok handler ↔ registry.Offers key handler := by
  constructor
  · intro h
    unfold find at h
    split at h
    · cases h
    · rename_i htruthy
      split at h
      · rename_i name
        split at h
        · cases h
          exact ⟨name, _, by simpa using htruthy, rfl, ‹_›, rfl⟩
        · cases h
      · cases h
      · cases h
      · cases h
  · rintro ⟨name, entry, hname, rfl, hget, rfl⟩
    simp [find, hname, hget]

theorem not_offers_of_find_eq_error {fault : Fault} (h : registry.find key = .error fault)
    (handler : Handler X) : ¬ registry.Offers key handler := by
  rw [← find_eq_ok_iff, h]
  nofun

end Registry

/-- A fault with words has no other in the place of its words. -/
theorem Fault.wording_eq_error_iff {fault other : Fault} :
    fault.wording = .error other ↔
      ∃ raised, fault = .handler (.speechless raised) ∧ other = .handler raised := by
  constructor
  · intro h
    unfold wording at h
    split at h
    · exact ⟨_, rfl, (Except.error.inj h).symm⟩
    · cases h
  · rintro ⟨raised, rfl, rfl⟩
    rfl

/-- What a handler gives back stands for an answer: a text, which is the narrative, an object with a
narrative, and with an object if there is any output, or an output built with the parts of the
answer. -/
inductive Returned.Means : Returned → Answer → Prop
  | narrative (narrative : String) : Means (.value (.text narrative)) { narrative }
  | record {fields : Fields} {answer : Answer}
      (narrative : Dict.get? fields "narrative_log" = some (.text answer.narrative))
      (output : Fields.read fields "output_data" = Answer.encodeFields? answer.output) :
      Means (.value (.object fields)) answer
  | built (answer : Answer) : Means (.built (.ofAnswer answer)) answer

namespace Shape

theorem required_text_eq_good_iff {name s : String} {fields : Fields} :
    required name text fields = .good s ↔ Dict.get? fields name = some (.text s) := by
  unfold required
  cases Dict.get? fields name with
  | none => simp
  | some v => cases v <;> simp [text, Checked.wrong, Checked.within]

/-- A part that may be missing or nothing is an object if it is anything else. -/
theorem withDefault_object_eq_good_iff {name : String} {fields : Fields} {output : Option Fields} :
    withDefault name (optional object) none fields = .good output ↔
      Fields.read fields name = Answer.encodeFields? output := by
  unfold withDefault Fields.read
  cases Dict.get? fields name with
  | none => cases output <;> simp [Value.ofOption, Answer.encodeFields?]
  | some v =>
      cases v <;> cases output <;>
        simp [optional, object, Value.ofOption, Answer.encodeFields?, Checked.wrong, Checked.map,
          Checked.within]

end Shape

theorem Answer.decode_object_eq_good_iff {fields : Fields} {answer : Answer} :
    decode (.object fields) = .good answer ↔
      Dict.get? fields "narrative_log" = some (.text answer.narrative) ∧
        Fields.read fields "output_data" = encodeFields? answer.output := by
  rw [← Shape.required_text_eq_good_iff, ← Shape.withDefault_object_eq_good_iff]
  have hdecode : decode (.object fields) = Checked.apply
      (Checked.map Answer.mk (Shape.required "narrative_log" Shape.text fields))
      (Shape.withDefault "output_data" (Shape.optional Shape.object) none fields) := rfl
  rw [hdecode]
  obtain ⟨narrative, output⟩ := answer
  cases Shape.required "narrative_log" Shape.text fields <;>
    cases Shape.withDefault "output_data" (Shape.optional Shape.object) none fields <;>
    simp [Checked.map, Checked.apply]

theorem Answer.ofValue_eq_ok_iff {v : Value} {answer : Answer} :
    ofValue v = .ok answer ↔ Returned.Means (.value v) answer := by
  constructor
  · intro h
    cases v with
    | text narrative =>
        cases h
        exact .narrative narrative
    | object fields =>
        change Fault.check "HandlerOutput" decode (.object fields) = .ok answer at h
        unfold Fault.check at h
        split at h
        · rename_i hgood
          cases h
          obtain ⟨hnarrative, houtput⟩ := decode_object_eq_good_iff.mp hgood
          exact .record hnarrative houtput
        · cases h
    | _ => cases h
  · intro h
    cases h with
    | narrative => rfl
    | record narrative output =>
        rw [ofValue, Fault.check, decode_object_eq_good_iff.mpr ⟨narrative, output⟩]

/-- A result is made from an output just if the output has the parts of an answer. -/
theorem StepResult.ofOutput_eq_ok_iff {output : Output} {result : StepResult} :
    ofOutput output = .ok result ↔
      ∃ answer, output = .ofAnswer answer ∧ result = .completed answer := by
  obtain ⟨narrative, data⟩ := output
  let fields : Fields := [("success", .bool true), ("status", .text "completed"),
    ("narrative_log", narrative), ("output_data", data), ("should_create_next_intent", .bool true)]
  let made : Checked (String → Option Fields → StepResult) := .good fun narrative output =>
    { success := true, status := .completed, narrative, output, continues := true }
  have hnarrative {s : String} :
      Shape.required "narrative_log" Shape.text fields = .good s ↔ narrative = .text s := by
    rw [Shape.required_text_eq_good_iff]
    exact Option.some_inj
  have houtput {output : Option Fields} :
      Shape.withDefault "output_data" (Shape.optional Shape.object) none fields = .good output ↔
        data = Answer.encodeFields? output := by
    rw [Shape.withDefault_object_eq_good_iff]
    rfl
  have hdecode : decode (.object fields) = (made.apply
      (Shape.required "narrative_log" Shape.text fields)).apply
      (Shape.withDefault "output_data" (Shape.optional Shape.object) none fields) := by
    change Checked.apply (Checked.apply (Checked.apply (Checked.apply _ _) _) _) _ = _
    cases Shape.required "narrative_log" Shape.text fields <;>
      cases Shape.withDefault "output_data" (Shape.optional Shape.object) none fields <;> rfl
  have hmade : ofOutput ⟨narrative, data⟩ = Fault.check "ExecutionResult" decode (.object fields) := rfl
  rw [hmade, Fault.check, hdecode]
  constructor
  · intro h
    cases hn : Shape.required "narrative_log" Shape.text fields with
    | bad issues =>
        rw [hn] at h
        cases ho : Shape.withDefault "output_data" (Shape.optional Shape.object) none fields <;>
          rw [ho] at h <;> cases h
    | good s =>
        cases ho : Shape.withDefault "output_data" (Shape.optional Shape.object) none fields with
        | bad issues => rw [hn, ho] at h; cases h
        | good output =>
            rw [hn, ho] at h
            refine ⟨⟨s, output⟩, ?_, (Except.ok.inj h).symm⟩
            rw [hnarrative.mp hn, houtput.mp ho]
            rfl
  · rintro ⟨⟨s, output⟩, hparts, rfl⟩
    obtain ⟨rfl, rfl⟩ := Output.mk.inj hparts
    rw [hnarrative.mpr rfl, houtput.mpr rfl]
    rfl

/-- The failure of a step is told in words, where there are any. -/
theorem Step.resultOfFault_eq_ok_iff {step : Step} {fault : Fault} {result : StepResult} :
    step.resultOfFault fault = .ok result ↔ step.handlerKey.writable = true ∧
      ∃ words, fault.wording = .ok words ∧ result = .failed step words := by
  unfold resultOfFault
  constructor
  · intro h
    obtain ⟨key, hkey, h⟩ := exists_of_bind_eq_ok h
    obtain ⟨words, hwords, h⟩ := exists_of_bind_eq_ok h
    exact ⟨(Value.wording_eq_ok_iff.mp hkey).1, words, hwords, (Except.ok.inj h).symm⟩
  · rintro ⟨hkey, words, hwords, rfl⟩
    rw [Value.wording_of_writable hkey, hwords]
    rfl

/-- A result that could be made is a success, after which the routine goes on, or a failure. -/
theorem Step.status_of_resultOf {step : Step} {outcome : Except Fault Output} {result : StepResult}
    (h : step.resultOf outcome = .ok result) : result.continues = result.success ∧
      result.status = if result.success then .completed else .failed := by
  cases outcome with
  | ok output =>
      obtain ⟨_, -, rfl⟩ := StepResult.ofOutput_eq_ok_iff.mp h
      exact ⟨rfl, rfl⟩
  | error fault =>
      obtain ⟨-, _, -, rfl⟩ := Step.resultOfFault_eq_ok_iff.mp h
      exact ⟨rfl, rfl⟩

theorem Step.resultOfFault_eq_error_iff {step : Step} {fault other : Fault} :
    step.resultOfFault fault = .error other ↔
      (step.handlerKey.writable = false ∧ other = .oversizeNumber .written) ∨
        (step.handlerKey.writable = true ∧ fault.wording = .error other) := by
  unfold resultOfFault
  cases hkey : step.handlerKey.writable with
  | false =>
      rw [Value.wording_of_not_writable hkey]
      simp [bind, Except.bind, eq_comm]
  | true =>
      rw [Value.wording_of_writable hkey]
      cases fault.wording <;> simp [bind, Except.bind]

namespace Intent

/-- The configuration of the step with all placeholders filled. -/
def hydrated (intent : Intent) : Except Fault Fields :=
  interpolateFields (.object intent.context.bindings) intent.step.config

/-- The handler of a registry for the step and the configuration it gets. -/
def prepared (intent : Intent) (registry : Registry X) : Except Fault (Handler X × Fields) := do
  let handler ← registry.find intent.step.handlerKey
  let config ← intent.hydrated
  pure (handler, config)

theorem prepared_eq_ok_iff {intent : Intent} {registry : Registry X} {handler : Handler X}
    {config : Fields} :
    intent.prepared registry = .ok (handler, config) ↔
      registry.Offers intent.step.handlerKey handler ∧ intent.hydrated = .ok config := by
  rw [← Registry.find_eq_ok_iff, prepared]
  cases registry.find intent.step.handlerKey <;> cases intent.hydrated <;>
    simp [bind, Except.bind, pure, Except.pure]

theorem prepared_eq_error_iff {intent : Intent} {registry : Registry X} {fault : Fault} :
    intent.prepared registry = .error fault ↔
      registry.find intent.step.handlerKey = .error fault ∨
        ∃ handler, registry.Offers intent.step.handlerKey handler ∧
          intent.hydrated = .error fault := by
  simp only [← Registry.find_eq_ok_iff, prepared]
  cases registry.find intent.step.handlerKey <;> cases intent.hydrated <;>
    simp [bind, Except.bind, pure, Except.pure]

/-- What observers are told of the step. -/
def notice (intent : Intent) (result : StepResult) : Notice :=
  .stepExecuted intent.routine intent.execution intent.step.id
    (intent.step.handlerKey.orElse (.text "")) result

end Intent

namespace Surroundings

open Activity (Ends)

variable {world : Surroundings σ X} {rely : σ → σ → Prop} {intent : Intent} {s s' : σ}

/-- Call a handler and leave what it gives back as it is. -/
def call (world : Surroundings σ X) (handler : Handler X) (context : Context) (config : Fields) :
    Activity σ Returned :=
  match handler with
  | .builtin b => do
    return .built (.ofAnswer (← Activity.ofOperation (b.run world.send context config)))
  | .custom x => world.perform x context config

/-- How a step may go wrong, with which fault, and what state this leaves. -/
inductive Fails (world : Surroundings σ X) (rely : σ → σ → Prop) (intent : Intent) (s : σ) :
    Fault → σ → Prop
  /-- No handler is registered under the key of the step. -/
  | unregistered {fault : Fault}
      (unknown : ∀ handler, ¬ (world.registry s).Offers intent.step.handlerKey handler)
      (told : (world.registry s).find intent.step.handlerKey = .error fault) :
      Fails world rely intent s fault s
  /-- The configuration cannot be filled. -/
  | unfilled {handler : Handler X} {fault : Fault}
      (offered : (world.registry s).Offers intent.step.handlerKey handler)
      (unfilled : intent.hydrated = .error fault) : Fails world rely intent s fault s
  /-- The handler gives up. -/
  | raised {handler : Handler X} {config : Fields} {fault : Fault} {left : σ}
      (offered : (world.registry s).Offers intent.step.handlerKey handler)
      (filled : intent.hydrated = .ok config)
      (raised : Ends rely (world.call handler intent.context config) s (.error fault) left) :
      Fails world rely intent s fault left
  /-- The value the handler gives back stands for no answer. -/
  | unfit {handler : Handler X} {config : Fields} {v : Value} {fault : Fault} {left : σ}
      (offered : (world.registry s).Offers intent.step.handlerKey handler)
      (filled : intent.hydrated = .ok config)
      (given : Ends rely (world.call handler intent.context config) s (.ok (.value v)) left)
      (unfit : ∀ answer, ¬ (Returned.value v).Means answer)
      (told : Answer.ofValue v = .error fault) : Fails world rely intent s fault left

/-- How a step may be carried out, with which answer, and what state this leaves. -/
inductive Succeeds (world : Surroundings σ X) (rely : σ → σ → Prop) (intent : Intent) (s : σ) :
    Answer → σ → Prop
  | answered {handler : Handler X} {config : Fields} {returned : Returned} {answer : Answer}
      {left : σ} (offered : (world.registry s).Offers intent.step.handlerKey handler)
      (filled : intent.hydrated = .ok config)
      (given : Ends rely (world.call handler intent.context config) s (.ok returned) left)
      (fit : returned.Means answer) : Succeeds world rely intent s answer left

/-- How a handler may build an output that has not the parts of an answer. -/
inductive Spoils (world : Surroundings σ X) (rely : σ → σ → Prop) (intent : Intent) (s : σ) :
    Output → σ → Prop
  | built {handler : Handler X} {config : Fields} {output : Output} {left : σ}
      (offered : (world.registry s).Offers intent.step.handlerKey handler)
      (filled : intent.hydrated = .ok config)
      (given : Ends rely (world.call handler intent.context config) s (.ok (.built output)) left)
      (unfit : ∀ answer, output ≠ .ofAnswer answer) : Spoils world rely intent s output left

/-- How a step may break off without a result, with which fault, and what state this leaves. -/
inductive Breaks (world : Surroundings σ X) (rely : σ → σ → Prop) (intent : Intent) (s : σ) :
    Fault → σ → Prop
  /-- No result can be made from the output the handler has built. -/
  | spoilt {output : Output} {fault : Fault} {left : σ}
      (spoils : Spoils world rely intent s output left)
      (told : StepResult.ofOutput output = .error fault) : Breaks world rely intent s fault left
  /-- The step went wrong, and its key cannot be named. -/
  | nameless {cause : Fault} {left : σ} (fails : Fails world rely intent s cause left)
      (mute : intent.step.handlerKey.writable = false) :
      Breaks world rely intent s (.oversizeNumber .written) left
  /-- The step went wrong for a cause without words. -/
  | wordless {raised : HandlerFault} {left : σ}
      (fails : Fails world rely intent s (.handler (.speechless raised)) left)
      (named : intent.step.handlerKey.writable = true) :
      Breaks world rely intent s (.handler raised) left

/-- Looking up a handler and filling in its configuration changes nothing. -/
theorem perform_prepare (world : Surroundings σ X) (intent : Intent) (s : σ) :
    (world.prepare intent).perform s = (intent.prepared (world.registry s), s) := by
  have hread : (world.prepare intent).perform s = _ :=
    Operation.perform_bind_ok (Operation.perform_get s)
  refine hread.trans ?_
  unfold Intent.prepared
  cases (world.registry s).find intent.step.handlerKey with
  | error fault => rfl
  | ok handler =>
      rw [Operation.perform_bind_ok (Operation.perform_ofExcept _ _)]
      cases h : intent.hydrated <;> rw [Intent.hydrated] at h <;> rw [h] <;> rfl

/-- A handler is carried out as it is called, and what it gives back is read. -/
theorem ends_run_iff {handler : Handler X} {context : Context} {config : Fields}
    {outcome : Except Fault Output} :
    Ends rely (world.run handler context config) s outcome s' ↔
      ∃ called, Ends rely (world.call handler context config) s called s' ∧
        outcome = called >>= Returned.output := by
  cases handler with
  | builtin b =>
      constructor
      · intro h
        obtain ⟨answered, between, hrun, hlast⟩ := Activity.ends_andThen_iff.mp h
        refine ⟨answered.map fun answer => .built (.ofAnswer answer),
          Activity.ends_andThen_iff.mpr ⟨answered, between, hrun, ?_⟩, ?_⟩
        · cases answered <;> obtain ⟨-, rfl⟩ := Activity.ends_ended_iff.mp hlast <;> exact .ended _ _
        · cases answered <;> obtain ⟨rfl, -⟩ := Activity.ends_ended_iff.mp hlast <;> rfl
      · rintro ⟨called, h, rfl⟩
        obtain ⟨answered, between, hrun, hlast⟩ := Activity.ends_andThen_iff.mp h
        refine Activity.ends_andThen_iff.mpr ⟨answered, between, hrun, ?_⟩
        cases answered <;> obtain ⟨rfl, rfl⟩ := Activity.ends_ended_iff.mp hlast <;> exact .ended _ _
  | custom x =>
      constructor
      · intro h
        obtain ⟨called, between, hperform, hlast⟩ := Activity.ends_andThen_iff.mp h
        cases called <;> obtain ⟨rfl, rfl⟩ := Activity.ends_ended_iff.mp hlast <;>
          exact ⟨_, hperform, rfl⟩
      · rintro ⟨called, h, rfl⟩
        refine Activity.ends_andThen_iff.mpr ⟨called, s', h, ?_⟩
        cases called <;> exact .ended _ _

theorem ends_answer_of_error {fault : Fault} {outcome : Except Fault Output}
    (h : intent.prepared (world.registry s) = .error fault) :
    Ends rely (world.answer intent) s outcome s' ↔ outcome = .error fault ∧ s' = s := by
  have hprepare := perform_prepare world intent s
  rw [h] at hprepare
  constructor
  · intro hends
    obtain ⟨_, _, hfirst, hlast⟩ := Activity.ends_andThen_iff.mp hends
    cases hprepare.symm.trans (Activity.ends_ofOperation_iff.mp hfirst)
    exact Activity.ends_ended_iff.mp hlast
  · rintro ⟨rfl, rfl⟩
    exact Activity.ends_bind_iff.mpr
      (.inl ⟨fault, rfl, Activity.ends_ofOperation_iff.mpr hprepare⟩)

/-- A step whose handler and configuration are at hand comes down to its handler. -/
theorem ends_answer_of_ok {handler : Handler X} {config : Fields} {outcome : Except Fault Output}
    (h : intent.prepared (world.registry s) = .ok (handler, config)) :
    Ends rely (world.answer intent) s outcome s' ↔
      Ends rely (world.run handler intent.context config) s outcome s' := by
  have hprepare := perform_prepare world intent s
  rw [h] at hprepare
  exact Activity.ends_ofOperation_bind_iff hprepare

/-- A step ends with what is read of what its handler gives back. -/
theorem ends_answer_of_call {handler : Handler X} {config : Fields}
    {called : Except Fault Returned}
    (hoffered : (world.registry s).Offers intent.step.handlerKey handler)
    (hfilled : intent.hydrated = .ok config)
    (hcall : Ends rely (world.call handler intent.context config) s called s') :
    Ends rely (world.answer intent) s (called >>= Returned.output) s' :=
  (ends_answer_of_ok (Intent.prepared_eq_ok_iff.mpr ⟨hoffered, hfilled⟩)).mpr
    (ends_run_iff.mpr ⟨called, hcall, rfl⟩)

/-- The handler of a step answers, or it builds an output that is no answer, or there is a fault. -/
theorem ends_answer_iff {outcome : Except Fault Output} :
    Ends rely (world.answer intent) s outcome s' ↔
      (∃ answer, outcome = .ok (.ofAnswer answer) ∧ world.Succeeds rely intent s answer s') ∨
        (∃ output, outcome = .ok output ∧ world.Spoils rely intent s output s') ∨
        ∃ fault, outcome = .error fault ∧ world.Fails rely intent s fault s' := by
  constructor
  · intro h
    rcases hprepared : intent.prepared (world.registry s) with fault | ⟨handler, config⟩
    · obtain ⟨rfl, rfl⟩ := (ends_answer_of_error hprepared).mp h
      rcases Intent.prepared_eq_error_iff.mp hprepared with htold | ⟨handler, hoffered, hunfilled⟩
      · have hunknown := Registry.not_offers_of_find_eq_error htold
        exact .inr (.inr ⟨fault, rfl, .unregistered hunknown htold⟩)
      · exact .inr (.inr ⟨fault, rfl, .unfilled hoffered hunfilled⟩)
    · obtain ⟨hoffered, hfilled⟩ := Intent.prepared_eq_ok_iff.mp hprepared
      obtain ⟨fault | ⟨v | output⟩, hcall, rfl⟩ :=
        ends_run_iff.mp ((ends_answer_of_ok hprepared).mp h)
      · exact .inr (.inr ⟨fault, rfl, .raised hoffered hfilled hcall⟩)
      · cases hread : Answer.ofValue v with
        | ok answer =>
            have hmeans := Answer.ofValue_eq_ok_iff.mp hread
            exact .inl ⟨answer, congrArg (Except.map Output.ofAnswer) hread, hoffered, hfilled, hcall,
              hmeans⟩
        | error fault =>
            have hunfit (answer : Answer) : ¬ (Returned.value v).Means answer := by
              rw [← Answer.ofValue_eq_ok_iff, hread]
              nofun
            exact .inr (.inr ⟨fault, congrArg (Except.map Output.ofAnswer) hread,
              .unfit hoffered hfilled hcall hunfit hread⟩)
      · by_cases hfit : ∃ answer, output = .ofAnswer answer
        · obtain ⟨answer, rfl⟩ := hfit
          exact .inl ⟨answer, rfl, hoffered, hfilled, hcall, .built answer⟩
        · have hunfit (answer : Answer) (heq : output = .ofAnswer answer) : False :=
            hfit ⟨answer, heq⟩
          exact .inr (.inl ⟨output, rfl, hoffered, hfilled, hcall, hunfit⟩)
  · have hread {v : Value} {outcome : Except Fault Answer} (h : Answer.ofValue v = outcome) :
        (Except.ok (Returned.value v) >>= Returned.output) = outcome.map Output.ofAnswer :=
      congrArg (Except.map Output.ofAnswer) h
    rintro (⟨answer, rfl, ⟨hoffered, hfilled, hcall, hfit⟩⟩ |
      ⟨output, rfl, ⟨hoffered, hfilled, hcall, -⟩⟩ | ⟨fault, rfl, h⟩)
    · have hanswer := ends_answer_of_call hoffered hfilled hcall
      cases hfit with
      | built => exact hanswer
      | narrative => rwa [hread (Answer.ofValue_eq_ok_iff.mpr (.narrative _))] at hanswer
      | record narrative output =>
          rwa [hread (Answer.ofValue_eq_ok_iff.mpr (.record narrative output))] at hanswer
    · exact ends_answer_of_call hoffered hfilled hcall
    · cases h with
      | unregistered _ htold =>
          have hprepared := Intent.prepared_eq_error_iff.mpr (.inl htold)
          exact (ends_answer_of_error hprepared).mpr ⟨rfl, rfl⟩
      | unfilled hoffered hunfilled =>
          have hprepared := Intent.prepared_eq_error_iff.mpr (.inr ⟨_, hoffered, hunfilled⟩)
          exact (ends_answer_of_error hprepared).mpr ⟨rfl, rfl⟩
      | raised hoffered hfilled hcall => exact ends_answer_of_call hoffered hfilled hcall
      | unfit hoffered hfilled hcall _ htold =>
          have hanswer := ends_answer_of_call hoffered hfilled hcall
          rwa [hread htold] at hanswer

/-- What is left when the observers have been told of a result. Where there is none, nobody is. -/
def told (world : Surroundings σ X) (intent : Intent) (outcome : Except Fault StepResult)
    (left : σ) : σ :=
  match outcome with
  | .ok result => ((world.notify (intent.notice result)).perform left).2
  | .error _ => left

/-- A step ends with the result of what its handler comes to, of which observers are told. -/
theorem ends_execute_iff {outcome : Except Fault StepResult}
    (hnotify : ∀ notice s, ((world.notify notice).perform s).1 = .ok ()) :
    Ends rely (world.execute intent) s outcome s' ↔
      ∃ answered left, Ends rely (world.answer intent) s answered left ∧
        outcome = intent.step.resultOf answered ∧ s' = world.told intent outcome left := by
  have htell {result : StepResult} {left : σ} :
      (world.notify (intent.notice result)).perform left =
        (.ok (), ((world.notify (intent.notice result)).perform left).2) :=
    Prod.ext (hnotify _ _) rfl
  constructor
  · intro h
    obtain ⟨_, left, hattempt, h⟩ := Activity.ends_andThen_iff.mp h
    obtain ⟨answered, _, hanswer, hkept⟩ := Activity.ends_andThen_iff.mp hattempt
    obtain ⟨rfl, rfl⟩ := Activity.ends_ended_iff.mp hkept
    obtain ⟨_, between, hmade, hlast⟩ := Activity.ends_andThen_iff.mp h
    obtain ⟨rfl, rfl⟩ := Activity.ends_ended_iff.mp hmade
    refine ⟨answered, between, hanswer, ?_⟩
    cases hresult : intent.step.resultOf answered with
    | error fault =>
        rw [hresult] at hlast
        obtain ⟨rfl, rfl⟩ := Activity.ends_ended_iff.mp hlast
        exact ⟨rfl, rfl⟩
    | ok result =>
        rw [hresult] at hlast
        obtain ⟨rfl, rfl⟩ :=
          Activity.ends_ended_iff.mp ((Activity.ends_ofOperation_bind_iff htell).mp hlast)
        exact ⟨rfl, rfl⟩
  · rintro ⟨answered, left, hanswer, rfl, rfl⟩
    refine Activity.ends_andThen_iff.mpr ⟨_, left, Activity.ends_andThen_iff.mpr
      ⟨answered, left, hanswer, .ended _ _⟩, ?_⟩
    refine Activity.ends_andThen_iff.mpr ⟨_, left, .ended _ _, ?_⟩
    cases intent.step.resultOf answered with
    | error fault => exact .ended _ _
    | ok result => exact (Activity.ends_ofOperation_bind_iff htell).mpr (.ended _ _)

/-- A step is told to have succeeded or to have failed, or it breaks off. -/
theorem ends_execute_cases {outcome : Except Fault StepResult}
    (hnotify : ∀ notice s, ((world.notify notice).perform s).1 = .ok ()) :
    Ends rely (world.execute intent) s outcome s' ↔
      (∃ result left, outcome = .ok result ∧
        ((∃ answer, world.Succeeds rely intent s answer left ∧ result = .completed answer) ∨
          ∃ fault words, world.Fails rely intent s fault left ∧
            intent.step.handlerKey.writable = true ∧ fault.wording = .ok words ∧
            result = .failed intent.step words) ∧
        s' = ((world.notify (intent.notice result)).perform left).2) ∨
      ∃ fault, outcome = .error fault ∧ world.Breaks rely intent s fault s' := by
  rw [ends_execute_iff hnotify]
  constructor
  · rintro ⟨answered, left, hanswer, rfl, rfl⟩
    rcases ends_answer_iff.mp hanswer with
      ⟨answer, rfl, h⟩ | ⟨output, rfl, h⟩ | ⟨fault, rfl, h⟩
    · have hmade : intent.step.resultOf (.ok (.ofAnswer answer)) = .ok (.completed answer) :=
        StepResult.ofOutput_eq_ok_iff.mpr ⟨answer, rfl, rfl⟩
      rw [hmade]
      exact .inl ⟨_, left, rfl, .inl ⟨answer, h, rfl⟩, rfl⟩
    · obtain ⟨fault, hfault⟩ : ∃ fault, StepResult.ofOutput output = .error fault := by
        cases hmade : StepResult.ofOutput output with
        | error fault => exact ⟨fault, rfl⟩
        | ok result =>
            obtain ⟨answer, hfit, -⟩ := StepResult.ofOutput_eq_ok_iff.mp hmade
            obtain ⟨-, -, -, hunfit⟩ := h
            exact absurd hfit (hunfit answer)
      rw [show intent.step.resultOf (.ok output) = .error fault from hfault]
      exact .inr ⟨fault, rfl, .spoilt h hfault⟩
    · cases hmade : intent.step.resultOfFault fault with
      | ok result =>
          obtain ⟨hkey, words, hwords, rfl⟩ := Step.resultOfFault_eq_ok_iff.mp hmade
          rw [show intent.step.resultOf (.error fault) = .ok (.failed intent.step words) from hmade]
          exact .inl ⟨_, left, rfl, .inr ⟨fault, words, h, hkey, hwords, rfl⟩, rfl⟩
      | error other =>
          rw [show intent.step.resultOf (.error fault) = .error other from hmade]
          refine .inr ⟨other, rfl, ?_⟩
          rcases Step.resultOfFault_eq_error_iff.mp hmade with ⟨hkey, rfl⟩ | ⟨hkey, hother⟩
          · exact .nameless h hkey
          · obtain ⟨raised, rfl, rfl⟩ := Fault.wording_eq_error_iff.mp hother
            exact .wordless h hkey
  · rintro (⟨_, left, rfl, ⟨answer, h, rfl⟩ | ⟨fault, words, h, hkey, hwords, rfl⟩, rfl⟩ |
      ⟨fault, rfl, h⟩)
    · refine ⟨.ok (.ofAnswer answer), left, ends_answer_iff.mpr (.inl ⟨answer, rfl, h⟩), ?_, rfl⟩
      exact (StepResult.ofOutput_eq_ok_iff.mpr ⟨answer, rfl, rfl⟩).symm
    · refine ⟨.error fault, left, ends_answer_iff.mpr (.inr (.inr ⟨fault, rfl, h⟩)), ?_, rfl⟩
      exact (Step.resultOfFault_eq_ok_iff.mpr ⟨hkey, words, hwords, rfl⟩).symm
    · cases h with
      | @spoilt output _ _ h hfault =>
          exact ⟨.ok output, s', ends_answer_iff.mpr (.inr (.inl ⟨output, rfl, h⟩)), hfault.symm, rfl⟩
      | @nameless cause _ h hkey =>
          refine ⟨.error cause, s', ends_answer_iff.mpr (.inr (.inr ⟨cause, rfl, h⟩)), ?_, rfl⟩
          exact (Step.resultOfFault_eq_error_iff.mpr (.inl ⟨hkey, rfl⟩)).symm
      | @wordless raised _ h hkey =>
          refine ⟨_, s', ends_answer_iff.mpr (.inr (.inr ⟨_, rfl, h⟩)), ?_, rfl⟩
          exact (Step.resultOfFault_eq_error_iff.mpr (.inr ⟨hkey, rfl⟩)).symm

end Surroundings

namespace Engine

open Activity (Ends)

variable {perform : X → Context → Fields → Activity (Engine X) Returned}
variable {rely : Engine X → Engine X → Prop} {intent : Intent} {engine engine' : Engine X}

/-- Observers are handed exactly the notice that is kept as the last one. What they make of it is
dropped. -/
theorem perform_notify (notice : Notice) (engine : Engine X) :
    let kept := { engine with notices := engine.notices ++ [notice] }
    (notify notice).perform engine =
      (do let _ ← (Operation.ofExcept (engine.observer notice)).attempt).perform kept := rfl

theorem ends_execute_iff {outcome : Except Fault StepResult} :
    Ends rely ((surroundings perform).execute intent) engine outcome engine' ↔
      (∃ result left, outcome = .ok result ∧
        ((∃ answer, (surroundings perform).Succeeds rely intent engine answer left ∧
            result = .completed answer) ∨
          ∃ fault words, (surroundings perform).Fails rely intent engine fault left ∧
            intent.step.handlerKey.writable = true ∧ fault.wording = .ok words ∧
            result = .failed intent.step words) ∧
        engine' = { left with notices := left.notices ++ [intent.notice result] }) ∨
      ∃ fault, outcome = .error fault ∧
        (surroundings perform).Breaks rely intent engine fault engine' :=
  Surroundings.ends_execute_cases fun notice s => congrArg Prod.fst (perform_notify notice s)

end Engine

end Workflow
