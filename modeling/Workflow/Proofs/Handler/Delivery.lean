import Workflow.Proofs.Dispatch.AtHand
import Workflow.Proofs.Dispatch.Chain
import Workflow.Proofs.Dispatch.Discreet
import Workflow.Proofs.Handler.Barrier

/-!
# Messages and the steps that send them

A handler of the library first makes a plan, in which all that can go wrong goes wrong, and then
hands over the message of the plan, if there is one. So a step has a message sent only if it is
completed, and a step that delivers is completed only with its message sent. `Builtin.Reaches` says
whom the message goes to, `Intent.Sends` what is sent for one step, and `Engine.Carries` what is
sent and told for the steps of a chain.
-/

namespace Workflow

theorem Text.exists_of_contains {text needle : String}
    (h : ∃ before after, text = before ++ needle ++ after) : contains text needle = true := by
  obtain ⟨before, after, rfl⟩ := h
  exact (occursIn_iff _ _).mpr ⟨before.toList, after.toList, by simp⟩

theorem integerText_ne_empty (n : Int) : integerText n ≠ "" := by
  have hdigits : String.ofList (Nat.toDigits 10 n.natAbs) ≠ "" := by
    simp [Nat.toDigits_ne_nil]
  unfold integerText
  split <;> simp [hdigits]

namespace Binary64

theorem Decimal.text_ne_empty (d : Decimal) : d.text ≠ "" := by
  unfold text
  extract_lets
  split
  · split
    · simp
    · split <;> simp
  · simp

theorem display_ne_empty (x : Binary64) : x.display ≠ "" := by
  cases x with
  | finite negative m e =>
      have hnumber : (if m = 0 then "0.0" else (shortest m e).text) ≠ "" := by
        split
        · decide
        · exact (shortest m e).text_ne_empty
      exact fun h => hnumber (String.append_eq_empty_iff.mp h).2
  | infinity negative => cases negative <;> decide
  | nan => decide

end Binary64

/-- A value that counts as present is shown as some text. -/
theorem Value.display_ne_empty {v : Value} (h : v.truthy = true) : v.display ≠ "" := by
  cases v with
  | null => cases h
  | bool b => cases b <;> decide
  | int n => exact integerText_ne_empty n
  | float x => exact x.display_ne_empty
  | text s => simpa using h
  | list items => simp [display, literal]
  | object fields => simp [display, literal]

namespace Builtin

variable {b : Builtin} {context : Context} {config : Fields} {plan : Plan}

theorem isOpen_append (before path after : String) :
    isOpen (before ++ "\x7b\x7b" ++ path ++ "\x7d\x7d" ++ after) = true := by
  rw [isOpen, Bool.and_eq_true]
  constructor
  · exact Text.exists_of_contains
      ⟨before, path ++ "\x7d\x7d" ++ after, by simp only [String.append_assoc]⟩
  · exact Text.exists_of_contains ⟨before ++ "\x7b\x7b" ++ path, after, rfl⟩

/-- A part of the configuration that is needed and found is there, as some text without an open
placeholder. -/
theorem of_needed {setting text : String} (h : b.needed config setting = .ok text) :
    (Fields.read config setting).truthy = true ∧
      text = Text.trim (Fields.read config setting).display ∧ text ≠ "" ∧
      isOpen text = false := by
  unfold needed at h
  cases htruthy : (Fields.read config setting).truthy with
  | false =>
      rw [Value.orElse, htruthy] at h
      cases h
  | true =>
      rw [Value.orElse, htruthy] at h
      simp only [if_true] at h
      obtain ⟨words, hwords, h⟩ := exists_of_bind_eq_ok h
      obtain ⟨-, rfl⟩ := Value.wording_eq_ok_iff.mp hwords
      split at h
      · cases h
      split at h
      · cases h
      · cases h
        rename_i hsome hclosed
        exact ⟨rfl, rfl, hsome, Bool.eq_false_iff.mpr hclosed⟩

/-- The part of the configuration that says whom to send to. -/
def addressField (b : Builtin) : String := if b = .notifyChannel then "channel" else "to"

/-- Whom a handler sends to: the address that the configuration has, or else, unless it is a
channel, the sender that the payload has. -/
structure Reaches (b : Builtin) (context : Context) (config : Fields) (address : String) :
    Prop where
  some : address ≠ ""
  given : (Fields.read config b.addressField).truthy = true →
    address = Text.trim (Fields.read config b.addressField).display ∧
      ∀ before path after, address ≠ before ++ "\x7b\x7b" ++ path ++ "\x7d\x7d" ++ after
  sender : (Fields.read config b.addressField).truthy = false → b ≠ .notifyChannel ∧
    address =
      ((Fields.read context.payload "from").orElse (Fields.read context.payload "email")).display

/-- The parts of a receipt do not hide the address. -/
theorem get?_receipt (receipt : Receipt) (b : Builtin) :
    Dict.get? receipt.fields b.addressField = none := by
  cases b <;> rfl

theorem reaches_of_needed {address : String} (h : b.needed config b.addressField = .ok address) :
    b.Reaches context config address := by
  obtain ⟨htruthy, htext, hsome, hclosed⟩ := of_needed h
  refine ⟨hsome, fun _ => ⟨htext, ?_⟩, fun hnone => ?_⟩
  · rintro before path after rfl
    cases (isOpen_append before path after).symm.trans hclosed
  · cases htruthy.symm.trans hnone

theorem reaches_of_recipient (hb : b ≠ .notifyChannel) {address : String}
    (h : b.recipient context config = .ok address) : b.Reaches context config address := by
  have hfield : b.addressField = "to" := if_neg hb
  unfold recipient at h
  split at h
  · exact reaches_of_needed (hfield ▸ h)
  · rename_i hnone
    extract_lets sender at h
    split at h
    · rename_i hsender
      obtain ⟨-, rfl⟩ := Value.wording_eq_ok_iff.mp h
      refine ⟨Value.display_ne_empty hsender, fun htruthy => ?_, fun _ => ⟨hb, rfl⟩⟩
      exact absurd (hfield ▸ htruthy) hnone
    · cases h

/-- A handler that delivers plans one message, to where it should go, and gives out the address. The
others plan none. -/
theorem mail_of_plan (h : b.plan context config = .ok plan) :
    (b.delivers = false ∧ plan.mail = none) ∨
      b.delivers = true ∧ ∃ mail, plan.mail = some mail ∧ b.Reaches context config mail.recipient ∧
        Dict.get? plan.output b.addressField = some (.text mail.recipient) := by
  cases b with
  | sendMessage =>
      obtain ⟨address, haddress, h⟩ := exists_of_bind_eq_ok h
      obtain ⟨body, -, h⟩ := exists_of_bind_eq_ok h
      obtain ⟨subject, -, h⟩ := exists_of_bind_eq_ok h
      cases h
      exact .inr ⟨rfl, _, rfl, reaches_of_recipient (by decide) haddress, rfl⟩
  | sendEmail =>
      obtain ⟨address, haddress, h⟩ := exists_of_bind_eq_ok h
      obtain ⟨subject, -, h⟩ := exists_of_bind_eq_ok h
      obtain ⟨body, -, h⟩ := exists_of_bind_eq_ok h
      cases h
      exact .inr ⟨rfl, _, rfl, reaches_of_recipient (by decide) haddress, rfl⟩
  | sendWelcome =>
      obtain ⟨address, haddress, h⟩ := exists_of_bind_eq_ok h
      obtain ⟨subject, -, h⟩ := exists_of_bind_eq_ok h
      obtain ⟨body, -, h⟩ := exists_of_bind_eq_ok h
      cases h
      exact .inr ⟨rfl, _, rfl, reaches_of_recipient (by decide) haddress, rfl⟩
  | notifyChannel =>
      obtain ⟨channel, hchannel, h⟩ := exists_of_bind_eq_ok h
      obtain ⟨message, -, h⟩ := exists_of_bind_eq_ok h
      obtain ⟨subject, -, h⟩ := exists_of_bind_eq_ok h
      cases h
      exact .inr ⟨rfl, _, rfl, reaches_of_needed hchannel, rfl⟩
  | createFolder =>
      obtain ⟨name, -, h⟩ := exists_of_bind_eq_ok h
      obtain ⟨parent, -, h⟩ := exists_of_bind_eq_ok h
      cases h
      exact .inl ⟨rfl, rfl⟩
  | addTag | setStage =>
      obtain ⟨_, -, h⟩ := exists_of_bind_eq_ok h
      cases h
      exact .inl ⟨rfl, rfl⟩

/-- The handlers of the library by key. -/
def keyed : Dict Builtin := all.map fun b => (b.key, b)

theorem get?_keyed_iff {name : String} : Dict.get? keyed name = some b ↔ name = b.key := by
  constructor
  · intro h
    obtain ⟨other, -, heq⟩ := List.mem_map.mp (Dict.mem_of_get? h)
    cases heq
    rfl
  · rintro rfl
    cases b <;> rfl

/-- The handler of the library under a key. -/
def find (key : Value) : Except Fault Builtin := do
  let .builtin b ← (Registry.standard : Registry Empty).find key
  return b

end Builtin

namespace Registry

variable {X : Type}

theorem get?_standard (name : String) :
    Dict.get? (standard : Registry X) name = (Dict.get? Builtin.keyed name).map fun b =>
      { description := b.description, handler := .builtin b } := by
  rw [← Dict.get?_map, Builtin.keyed, List.map_map]
  rfl

theorem find_standard (key : Value) :
    (standard : Registry X).find key = (Builtin.find key).map .builtin := by
  unfold Builtin.find find
  split
  · rfl
  · cases key with
    | text name =>
        simp only [get?_standard]
        cases Dict.get? Builtin.keyed name <;> rfl
    | _ => rfl

end Registry

theorem Builtin.find_eq_ok_iff {key : Value} {b : Builtin} :
    find key = .ok b ↔ key = .text b.key := by
  have hfind : find key = .ok b ↔
      (Registry.standard : Registry Empty).find key = .ok (.builtin b) := by
    rw [Registry.find_standard]
    cases find key <;> simp [Except.map]
  rw [hfind, Registry.find_eq_ok_iff, Registry.Offers]
  constructor
  · rintro ⟨name, entry, -, rfl, hget, hentry⟩
    rw [Registry.get?_standard, Option.map_eq_some_iff] at hget
    obtain ⟨other, hother, rfl⟩ := hget
    cases hentry
    rw [Builtin.get?_keyed_iff.mp hother]
  · rintro rfl
    refine ⟨b.key, { description := b.description, handler := .builtin b }, ?_, rfl, ?_, rfl⟩
    · cases b <;> decide
    · rw [Registry.get?_standard, Builtin.get?_keyed_iff.mpr rfl]
      rfl

namespace Builtin.Plan

variable {σ : Type}

/-- The answer of a handler of the library, given the receipt of its message if it sent one. -/
def answer (plan : Plan) (receipt : Option Receipt) : Answer where
  narrative := plan.narrative
  output := some ((receipt.elim [] Receipt.fields) ++ plan.output)

/-- Do what is planned. -/
def carryOut (send : Mail → Operation σ Receipt) (plan : Plan) : Operation σ Answer :=
  match plan.mail with
  | some mail => do return plan.answer (some (← send mail))
  | none => pure (plan.answer none)

theorem perform_carryOut_of_none {plan : Plan} (h : plan.mail = none)
    (send : Mail → Operation σ Receipt) (s : σ) :
    (plan.carryOut send).perform s = (.ok (plan.answer none), s) := by
  rw [carryOut, h]
  rfl

theorem perform_carryOut_of_some {plan : Plan} {mail : Mail} (h : plan.mail = some mail)
    {send : Mail → Operation σ Receipt} {s s' : σ} {receipt : Receipt}
    (hsend : (send mail).perform s = (.ok receipt, s')) :
    (plan.carryOut send).perform s = (.ok (plan.answer (some receipt)), s') := by
  rw [carryOut, h]
  exact Operation.perform_bind_ok hsend

/-- A handler of the library does what it plans, if it has a plan. -/
theorem perform_run (send : Mail → Operation σ Receipt) (b : Builtin) (context : Context)
    (config : Fields) (s : σ) :
    (b.run send context config).perform s =
      match b.plan context config with
      | .ok plan => (plan.carryOut send).perform s
      | .error fault => (.error fault, s) := by
  refine (Operation.perform_bind _ _ _).trans ?_
  rw [Operation.perform_ofExcept]
  rcases b.plan context config with _ | ⟨_ | mail, _, _⟩ <;> rfl

end Builtin.Plan

namespace Intent

variable {X : Type}

/-- The handler of the library for the step and the configuration it gets. -/
def chosen (intent : Intent) : Except Fault (Builtin × Fields) := do
  let b ← Builtin.find intent.step.handlerKey
  let config ← intent.hydrated
  return (b, config)

/-- The handler of the library for the step and what it plans to do. -/
def planned (intent : Intent) : Except Fault (Builtin × Builtin.Plan) := do
  let (b, config) ← intent.chosen
  let plan ← b.plan intent.context config
  return (b, plan)

theorem prepared_standard (intent : Intent) :
    intent.prepared (Registry.standard : Registry X) =
      intent.chosen.map fun (b, config) => (.builtin b, config) := by
  rw [prepared, Registry.find_standard, chosen]
  cases Builtin.find intent.step.handlerKey with
  | error fault => rfl
  | ok b => cases intent.hydrated <;> rfl

theorem of_planned {intent : Intent} {b : Builtin} {plan : Builtin.Plan}
    (h : intent.planned = .ok (b, plan)) :
    intent.step.handlerKey = .text b.key ∧
      ∃ config, intent.hydrated = .ok config ∧ b.plan intent.context config = .ok plan := by
  obtain ⟨⟨_, config⟩, hchosen, h⟩ := exists_of_bind_eq_ok h
  obtain ⟨_, hplan, h⟩ := exists_of_bind_eq_ok h
  cases h
  obtain ⟨_, hfind, hchosen⟩ := exists_of_bind_eq_ok hchosen
  obtain ⟨_, hconfig, hchosen⟩ := exists_of_bind_eq_ok hchosen
  cases hchosen
  exact ⟨Builtin.find_eq_ok_iff.mp hfind, config, hconfig, hplan⟩

variable {σ : Type} {intent : Intent}

/-- The result of the step, given the answer of the handler of the library or a fault. -/
def resultOf (intent : Intent) (answered : Except Fault Answer) : Except Fault StepResult :=
  intent.step.resultOf (answered.map .ofAnswer)

theorem resultOf_ok (intent : Intent) (answer : Answer) :
    intent.resultOf (.ok answer) = .ok (.completed answer) :=
  StepResult.ofOutput_eq_ok_iff.mpr ⟨answer, rfl, rfl⟩

/-- A step that goes wrong is not completed. -/
theorem status_of_resultOf_error {intent : Intent} {fault : Fault} {result : StepResult}
    (h : intent.resultOf (.error fault) = .ok result) : result.status = .failed := by
  obtain ⟨-, words, -, rfl⟩ := Step.resultOfFault_eq_ok_iff.mp h
  rfl

/-- Do what the handler of the library for the step plans. -/
def answerBy (intent : Intent) (send : Mail → Operation σ Receipt) : Operation σ Answer := do
  let (_, plan) ← Operation.ofExcept intent.planned
  plan.carryOut send

theorem perform_answerBy_of_ok {b : Builtin} {plan : Builtin.Plan}
    (h : intent.planned = .ok (b, plan)) (send : Mail → Operation σ Receipt) (s : σ) :
    (intent.answerBy send).perform s = (plan.carryOut send).perform s := by
  rw [answerBy, h]
  rfl

theorem perform_answerBy_of_error {fault : Fault} (h : intent.planned = .error fault)
    (send : Mail → Operation σ Receipt) (s : σ) :
    (intent.answerBy send).perform s = (.error fault, s) := by
  rw [answerBy, h]
  rfl

end Intent

namespace Surroundings

variable {σ X : Type} {world : Surroundings σ X} {rely : σ → σ → Prop} {intent : Intent} {s s' : σ}

open Activity (Ends)

/-- With the handlers of the library all that can go wrong goes wrong before a message is sent, and
nothing gives way to others. -/
theorem ends_answer_of_standard (h : world.registry s = Registry.standard)
    {outcome : Except Fault Output} :
    Ends rely (world.answer intent) s outcome s' ↔
      ∃ answered, (intent.answerBy world.send).perform s = (answered, s') ∧
        outcome = answered.map .ofAnswer := by
  have hprepared : intent.prepared (world.registry s) = _ :=
    (congrArg intent.prepared h).trans intent.prepared_standard
  cases hchosen : intent.chosen with
  | error fault =>
      rw [hchosen] at hprepared
      have hplanned : intent.planned = .error fault := by
        rw [Intent.planned, hchosen]
        rfl
      rw [ends_answer_of_error hprepared, Intent.perform_answerBy_of_error hplanned]
      constructor
      · rintro ⟨rfl, rfl⟩
        exact ⟨_, rfl, rfl⟩
      · rintro ⟨_, ⟨⟩, rfl⟩
        exact ⟨rfl, rfl⟩
  | ok chosen =>
      obtain ⟨b, config⟩ := chosen
      rw [hchosen] at hprepared
      have hplanned : intent.planned =
          (b.plan intent.context config).map fun plan => (b, plan) := by
        rw [Intent.planned, hchosen]
        cases h : b.plan intent.context config <;> simp [bind, Except.bind, h] <;> rfl
      have hrun : (intent.answerBy world.send).perform s =
          (b.run world.send intent.context config).perform s := by
        rw [Builtin.Plan.perform_run]
        cases h : b.plan intent.context config with
        | error fault =>
            rw [h] at hplanned
            rw [Intent.perform_answerBy_of_error hplanned]
        | ok plan =>
            rw [h] at hplanned
            rw [Intent.perform_answerBy_of_ok hplanned]
      rw [ends_answer_of_ok hprepared, hrun]
      constructor
      · intro hends
        obtain ⟨answered, left, hbuiltin, hlast⟩ := Activity.ends_andThen_iff.mp hends
        cases answered <;> obtain ⟨rfl, rfl⟩ := Activity.ends_ended_iff.mp hlast <;>
          exact ⟨_, Activity.ends_ofOperation_iff.mp hbuiltin, rfl⟩
      · rintro ⟨answered, hbuiltin, rfl⟩
        refine Activity.ends_andThen_iff.mpr
          ⟨answered, s', Activity.ends_ofOperation_iff.mpr hbuiltin, ?_⟩
        cases answered <;> exact .ended _ _

/-- With the handlers of the library a step is carried out in one way. -/
theorem ends_execute_of_standard (world : Surroundings σ X)
    (h : world.registry s = Registry.standard)
    (hnotify : ∀ notice s, ((world.notify notice).perform s).1 = .ok ())
    {answered : Except Fault Answer} {left : σ}
    (hanswer : (intent.answerBy world.send).perform s = (answered, left))
    {outcome : Except Fault StepResult} :
    Ends rely (world.execute intent) s outcome s' ↔
      outcome = intent.resultOf answered ∧
        s' = world.told intent (intent.resultOf answered) left := by
  rw [ends_execute_iff hnotify]
  constructor
  · rintro ⟨_, _, hends, rfl, rfl⟩
    obtain ⟨_, hsame, rfl⟩ := (ends_answer_of_standard h).mp hends
    cases hanswer.symm.trans hsame
    exact ⟨rfl, rfl⟩
  · rintro ⟨rfl, rfl⟩
    exact ⟨_, left, (ends_answer_of_standard h).mpr ⟨answered, hanswer, rfl⟩, rfl, rfl⟩

end Surroundings

/-- Carrying the step out has a message sent: the handler under its key is one of four. -/
def Step.delivers (step : Step) : Prop :=
  step.handlerKey ∈
    [.text "send_message", .text "send_email", .text "send_welcome", .text "notify_channel"]

instance (step : Step) : Decidable step.delivers := inferInstanceAs (Decidable (_ ∈ _))

theorem Step.delivers_iff {step : Step} {b : Builtin} (h : step.handlerKey = .text b.key) :
    step.delivers ↔ b.delivers = true := by
  rw [Step.delivers, h]
  cases b <;> decide

/-- A step with its result that had a message sent. -/
def delivered (carried : Step × StepResult) : Bool :=
  carried.2.status = .completed && carried.1.delivers

/-- What is sent for a step with its result: one message if the step delivers and is completed, and
none otherwise. The message goes where the handler should send it, and the output says so. -/
structure Intent.Sends (intent : Intent) (result : StepResult) (mails : List Mail) : Prop where
  number : mails.length = if result.status = .completed ∧ intent.step.delivers then 1 else 0
  addressed : ∀ mail ∈ mails, ∃ (b : Builtin) (config output : Fields),
    intent.step.handlerKey = .text b.key ∧ intent.hydrated = .ok config ∧
    b.Reaches intent.context config mail.recipient ∧ result.output = some output ∧
    Dict.get? output b.addressField = some (.text mail.recipient)

theorem Intent.Sends.nothing {intent : Intent} {result : StepResult}
    (h : ¬ (result.status = .completed ∧ intent.step.delivers)) : intent.Sends result [] where
  number := (if_neg h).symm
  addressed := nofun

theorem Intent.Sends.length_eq {intent : Intent} {result : StepResult} {mails : List Mail}
    (h : intent.Sends result mails) : mails.length = [(intent.step, result)].countP delivered := by
  rw [h.number, List.countP_singleton, delivered]
  simp

namespace Engine

open Activity (Ends)
open Operation (Respects)

variable {X : Type} {perform : X → Context → Fields → Activity (Engine X) Returned}
variable {rely : Engine X → Engine X → Prop} {intent : Intent} {engine engine' : Engine X}

theorem perform_send (mail : Mail) (engine : Engine X) :
    (send mail).perform engine =
      (.ok { message := Identifier.ofKept engine.made, provider := ChannelKind.simulated.name },
        { engine with sent := engine.sent ++ [mail], made := engine.made + 1 }) :=
  rfl

/-- With the handlers of the library a step is carried out in one way, and no message is sent unless
the step is completed. -/
theorem ends_execute_of_standard (perform : X → Context → Fields → Activity (Engine X) Returned)
    (rely : Engine X → Engine X → Prop) (intent : Intent)
    (h : engine.registry = Registry.standard) :
    ∃ ended mails engine', (∀ outcome stop,
        Ends rely ((surroundings perform).execute intent) engine outcome stop ↔
          outcome = ended ∧ stop = engine') ∧
      (∀ result, ended = .ok result → intent.Sends result mails) ∧
      (∀ fault, ended = .error fault → mails = []) ∧ engine'.sent = engine.sent ++ mails ∧
      engine'.registry = engine.registry ∧
      engine'.notices = engine.notices ++ ended.toOption.toList.map intent.notice := by
  have hends {answered : Except Fault Answer} {left : Engine X}
      (hanswer : (intent.answerBy send).perform engine = (answered, left)) :
      ∀ outcome stop, Ends rely ((surroundings perform).execute intent) engine outcome stop ↔
        outcome = intent.resultOf answered ∧
          stop = (surroundings perform).told intent (intent.resultOf answered) left := fun _ _ =>
    Surroundings.ends_execute_of_standard (surroundings perform) h (fun _ _ => rfl) hanswer
  cases hplanned : intent.planned with
  | error fault =>
      have hanswer := Intent.perform_answerBy_of_error hplanned (send (X := X)) engine
      refine ⟨_, [], _, hends hanswer, fun result hresult => .nothing ?_, fun _ _ => rfl, ?_⟩
      · rintro ⟨hcompleted, -⟩
        cases hcompleted.symm.trans (Intent.status_of_resultOf_error hresult)
      · cases intent.resultOf (.error fault) with
        | error other =>
            exact ⟨(List.append_nil _).symm, rfl, (List.append_nil _).symm⟩
        | ok result => exact ⟨(List.append_nil _).symm, rfl, rfl⟩
  | ok planned =>
      obtain ⟨b, plan⟩ := planned
      obtain ⟨hkey, config, hconfig, hplan⟩ := Intent.of_planned hplanned
      have hanswer := Intent.perform_answerBy_of_ok hplanned (send (X := X)) engine
      rcases Builtin.mail_of_plan hplan with
        ⟨hsilent, hmail⟩ | ⟨hdelivers, mail, hmail, hreaches, hfield⟩
      · rw [Builtin.Plan.perform_carryOut_of_none hmail] at hanswer
        replace hends := hends hanswer
        rw [Intent.resultOf_ok] at hends
        refine ⟨_, [], _, hends, fun result hresult => .nothing ?_, nofun,
          (List.append_nil _).symm, rfl, rfl⟩
        rintro ⟨-, hdelivers⟩
        cases hsilent.symm.trans ((Step.delivers_iff hkey).mp hdelivers)
      · rw [Builtin.Plan.perform_carryOut_of_some hmail (perform_send mail engine)] at hanswer
        replace hends := hends hanswer
        rw [Intent.resultOf_ok] at hends
        refine ⟨_, [mail], _, hends, ?_, nofun, rfl, rfl, rfl⟩
        rintro _ ⟨⟩
        refine ⟨(if_pos ⟨rfl, (Step.delivers_iff hkey).mpr hdelivers⟩).symm, ?_⟩
        intro other hother
        obtain rfl := List.mem_singleton.mp hother
        refine ⟨b, config, _, hkey, hconfig, hreaches, rfl, ?_⟩
        rw [Option.elim_some, Dict.get?_append, Builtin.get?_receipt, Option.none_or]
        exact hfield

/-- Steps of the run of an intent were carried out, each with its result: as many messages were sent
as there are steps among them that had one sent, and observers were told of those that did not
wait. -/
structure Carries (intent : Intent) (carried : List (Step × StepResult))
    (engine engine' : Engine X) : Prop where
  registry : engine'.registry = engine.registry
  sent : ∃ mails, engine'.sent = engine.sent ++ mails ∧ mails.length = carried.countP delivered
  notices : engine'.notices = engine.notices ++
    (carried.filter fun c => !c.1.interactive).map fun c => ({ intent with step := c.1 }).notice c.2
  waiting : ∀ c ∈ carried, c.1.interactive = true → c.2 = .waiting c.1

theorem Carries.of_same (hregistry : engine'.registry = engine.registry)
    (hsent : engine'.sent = engine.sent) (hnotices : engine'.notices = engine.notices) :
    Carries intent [] engine engine' where
  registry := hregistry
  sent := ⟨[], hsent.trans (List.append_nil _).symm, rfl⟩
  notices := hnotices.trans (List.append_nil _).symm
  waiting := nofun

theorem Carries.append {carried more : List (Step × StepResult)} {between : Engine X}
    (first : Carries intent carried engine between) (rest : Carries intent more between engine') :
    Carries intent (carried ++ more) engine engine' := by
  obtain ⟨mails, hmails, hnumber⟩ := first.sent
  obtain ⟨later, hlater, hnumber'⟩ := rest.sent
  refine ⟨rest.registry.trans first.registry, ⟨mails ++ later, ?_, ?_⟩, ?_, ?_⟩
  · rw [hlater, hmails, List.append_assoc]
  · rw [List.length_append, hnumber, hnumber', List.countP_append]
  · rw [rest.notices, first.notices, List.append_assoc, List.filter_append, List.map_append]
  · intro c hc
    rcases List.mem_append.mp hc with hc | hc
    · exact first.waiting c hc
    · exact rest.waiting c hc

instance (intent : Intent) : IsPreorder (Engine X) (Carries intent []) where
  refl _ := .of_same rfl rfl rfl
  trans _ _ _ first rest := first.append rest

section Idle

theorem carries_graphOf (routine : Routine) :
    Respects (Carries intent []) (graphOf routine : Work X Graph) := by
  intro engine
  cases hfind : engine.graphs.find? routine.id routine.version with
  | some entry =>
      rw [graphOf, Operation.perform_bind_ok (Operation.perform_get engine), hfind]
      exact .of_same rfl rfl rfl
  | none =>
      obtain ⟨graphs, hperform, -⟩ := perform_graphOf_of_missing hfind
      rw [hperform]
      exact .of_same rfl rfl rfl

theorem carries_nextIntent (current : Intent) (result : StepResult) :
    Respects (Carries intent []) (nextIntent current result : Work X (Option Intent)) := by
  refine .ite (fun _ => .pure _) fun _ => .bind (fun _ => .of_same rfl rfl rfl) fun found => ?_
  cases found with
  | none => exact .pure _
  | some routine =>
      exact .bind (carries_graphOf routine) fun _ => .bind (.ofExcept _) fun _ => .pure _

theorem carries_auditResult (current : Intent) (result : StepResult) :
    Respects (Carries intent []) (auditResult current result : Work X Unit) := by
  refine .bind (.attempt ?_) fun _ => .pure _
  refine .bind (.map _ fun _ => .of_same rfl rfl rfl) fun id =>
    .bind (fun _ => .of_same rfl rfl rfl) fun _ => .bind .get fun engine => ?_
  split
  · exact .fail _
  · exact fun _ => .of_same rfl rfl rfl

end Idle

/-- A step of a chain is carried out with a result, or waits. Without a result nothing is sent and
told of it. -/
theorem ends_runStep_of_standard (h : engine.registry = Registry.standard)
    {outcome : Except Fault StepResult}
    (hends : Ends rely (runStep perform intent) engine outcome engine') :
    Carries intent (outcome.toOption.toList.map fun result => (intent.step, result)) engine
      engine' := by
  have haudited {between : Engine X} {result : StepResult} {outcome : Except Fault StepResult}
      (hstep : Carries intent [(intent.step, result)] engine between)
      (hends : Ends rely (do
        Activity.ofOperation (auditResult intent result)
        pure result) between outcome engine') :
      Carries intent (outcome.toOption.toList.map fun result => (intent.step, result)) engine
        engine' := by
    have haudit : (auditResult intent result).perform between = (.ok (), _) := Prod.ext rfl rfl
    obtain ⟨rfl, rfl⟩ :=
      Activity.ends_ended_iff.mp ((Activity.ends_ofOperation_bind_iff haudit).mp hends)
    exact hstep.append (carries_auditResult intent result between)
  unfold runStep at hends
  split at hends
  · rename_i hwaits
    refine haudited ⟨rfl, ⟨[], (List.append_nil _).symm, rfl⟩, ?_, ?_⟩ hends
    · simp [hwaits]
    · intro c hc _
      rw [List.mem_singleton.mp hc]
  · rename_i hflows
    obtain ⟨ended, mails, between, hexecute, hsends, hnone, hsent, hregistry, hnotices⟩ :=
      ends_execute_of_standard perform rely intent h
    rcases Activity.ends_bind_iff.mp hends with ⟨fault, rfl, hfault⟩ | ⟨result, _, hresult, hrest⟩
    · obtain ⟨rfl, rfl⟩ := (hexecute _ _).mp hfault
      obtain rfl := hnone fault rfl
      exact .of_same hregistry (hsent.trans (List.append_nil _))
        (hnotices.trans (List.append_nil _))
    · obtain ⟨rfl, rfl⟩ := (hexecute _ _).mp hresult
      refine haudited ⟨hregistry, ⟨mails, hsent, (hsends result rfl).length_eq⟩, ?_, ?_⟩ hrest
      · rw [hnotices, List.filter_cons_of_pos (by simpa using hflows)]
        rfl
      · intro c hc hwaits
        rw [List.mem_singleton.mp hc] at hwaits
        exact absurd hwaits hflows

/-- By induction on how many steps the chain may take. -/
theorem ends_runSteps_of_standard {fuel : Nat} (h : engine.registry = Registry.standard)
    {outcome : Except Fault (List StepResult)}
    (hends : Ends rely (runSteps perform fuel intent) engine outcome engine') :
    ∃ carried, Carries intent carried engine engine' ∧
      ∀ results, outcome = .ok results → results = carried.map Prod.snd := by
  induction fuel generalizing intent engine outcome with
  | zero =>
      obtain ⟨rfl, rfl⟩ := Activity.ends_ended_iff.mp hends
      exact ⟨[], .of_same rfl rfl rfl, nofun⟩
  | succ fuel ih =>
      rcases ends_runSteps_cases hends with ⟨fault, rfl, hstep⟩ | ⟨result, between, hstep, hafter⟩
      · exact ⟨[], ends_runStep_of_standard h hstep, nofun⟩
      have hcarries : Carries intent [(intent.step, result)] engine between :=
        ends_runStep_of_standard h hstep
      have hnext {found : Except Fault (Option Intent)} {later : Engine X}
          (hnext : (nextIntent intent result).perform between = (found, later)) :
          Carries intent [(intent.step, result)] engine later := by
        have hidle : Carries intent [] between _ := carries_nextIntent intent result between
        rw [hnext] at hidle
        exact hcarries.append hidle
      rcases hafter with
        ⟨fault, rfl, hlost⟩ | ⟨rfl, hlast⟩ | ⟨following, later, rest, hmore, hrest, rfl⟩
      · exact ⟨_, hnext hlost, nofun⟩
      · refine ⟨_, hnext hlast, fun results hresults => ?_⟩
        cases hresults
        rfl
      · have hfirst := hnext hmore
        obtain ⟨carried, hcarried, hresults⟩ := ih (hfirst.registry.trans h) hrest
        have hfollowing := eq_of_nextIntent hmore
        refine ⟨_ :: carried, hfirst.append ?_, fun results heq => ?_⟩
        · rw [hfollowing] at hcarried
          exact ⟨hcarried.registry, hcarried.sent, hcarried.notices, hcarried.waiting⟩
        · cases rest with
          | error fault => cases heq
          | ok more =>
              cases heq
              rw [hresults more rfl]
              rfl

/-- Each completed step that delivers has exactly one message sent, and no other step has any. This
holds of every step with any configuration, payload and memory when the handlers are those of the
library: carrying it out ends in one way, whatever others do, and a message is sent only when
nothing can fail any more. A step without a result, because it went wrong and its key has no words,
has sent nothing. The message goes to somebody, whom the output names, and an address from the
configuration has no open placeholder. So a chain sends as many messages as it has results of
steps that deliver and are completed. -/
theorem one_message_each (perform : X → Context → Fields → Activity (Engine X) Returned)
    (rely : Engine X → Engine X → Prop) (engine : Engine X)
    (h : engine.registry = Registry.standard) :
    (∀ intent, ∃ ended mails engine', (∀ outcome stop,
        Ends rely ((surroundings perform).execute intent) engine outcome stop ↔
          outcome = ended ∧ stop = engine') ∧
      engine'.sent = engine.sent ++ mails ∧
      (∀ result, ended = .ok result → intent.Sends result mails) ∧
      (∀ fault, ended = .error fault → mails = [])) ∧
    ∀ first outcome engine', Ends rely (runChain perform first) engine outcome engine' →
      ∃ carried, Carries first carried engine engine' ∧
        ∀ results, outcome = .ok results → results = carried.map Prod.snd := by
  constructor
  · intro intent
    obtain ⟨ended, mails, engine', hends, hsends, hnone, hsent, -, -⟩ :=
      ends_execute_of_standard perform rely intent h
    exact ⟨ended, mails, engine', hends, hsent, hsends, hnone⟩
  · intro first outcome engine' hends
    obtain ⟨n, hcount, -⟩ := perform_stepCount engine first.routine
    exact ends_runSteps_of_standard h ((Activity.ends_ofOperation_bind_iff hcount).mp hends)

/-- A routine that greets somebody and then writes to nobody. -/
def greeting : Routine where
  id := "r"
  template := "tpl"
  scope := "s"
  name := "Greeting"
  definition :=
    { steps := [{ id := "t", type := "trigger", key := some "go" },
        { id := "a", type := "action", key := some "send_message"
          config := [("to", .text "\x7b\x7bwho\x7d\x7d"),
            ("message", .text "Hi \x7b\x7bpayload.who\x7d\x7d!")] },
        { id := "b", type := "action", key := some "send_email"
          config := [("subject", .text "Hi")] }]
      edges := [{ source := "t", target := "a" }, { source := "a", target := "b" }] }
  created := ⟨0, none⟩

/-- The first message goes out. There is nobody the second one could go to, so it does not. -/
theorem one_message_each_in_greeting :
    let engine : Engine Empty := .ofSettings {} (.memory { routines := [greeting] })
    let first : Intent :=
      { routine := "r", execution := "x", step := greeting.definition.steps[1]
        context := { routine := "r", scope := "s", payload := [("who", .text "Ann")] } }
    let after := ((runChain performNone first).run engine).2
    engine.registry = Registry.standard ∧ after.sent = [⟨"Ann", "", "Hi Ann!"⟩] ∧
      ∃ carried, Carries first carried engine after ∧
        carried.map (fun c => c.2.status) = [.completed, .failed] ∧
        carried.countP delivered = 1 := by
  intro engine first after
  have hsent : after.sent = [⟨"Ann", "", "Hi Ann!"⟩] := by decide +kernel
  have hstatus : ((runChain performNone first).run engine).1.map (List.map StepResult.status) =
      .ok [.completed, .failed] := by
    decide +kernel
  obtain ⟨carried, hcarries, hresults⟩ :=
    (one_message_each performNone Eq engine rfl).2 first _ after (Activity.ends_run _ _)
  refine ⟨rfl, hsent, carried, hcarries, ?_, ?_⟩
  · cases hchain : ((runChain performNone first).run engine).1 with
    | error fault =>
        rw [hchain] at hstatus
        cases hstatus
    | ok results =>
        rw [hchain] at hstatus
        have hmap := Except.ok.inj hstatus
        rwa [hresults results hchain, List.map_map] at hmap
  · obtain ⟨mails, hmails, hnumber⟩ := hcarries.sent
    have hall : mails = [⟨"Ann", "", "Hi Ann!"⟩] := hmails.symm.trans hsent
    rw [← hnumber, hall]
    rfl

end Engine

end Workflow
