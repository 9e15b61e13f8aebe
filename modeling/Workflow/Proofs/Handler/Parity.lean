import Workflow.Proofs.Handler.Delivery

/-!
# Steps behave alike on every channel

A channel has a part in what a step does only through the receipt it gives for a message. The plan
of a handler is made without it, so it decides neither whether a step is completed, nor what is said
of it, nor which messages are sent; only the two parts of the receipt in the output are the
channel's own. `Surroundings.overheard` is a world in which the messages that are handed to the
channel are written down, so that the calls of two runs can be compared as lists.
-/

namespace Workflow

/-- The output without the values that are taken from a receipt. Their names stay. -/
def Fields.withoutReceipt (fields : Fields) : Fields :=
  fields.map fun (name, v) =>
    (name, if name ∈ ["message_id", "provider_name"] then .null else v)

theorem Fields.keys_withoutReceipt (fields : Fields) :
    Dict.keys fields.withoutReceipt = Dict.keys fields := by
  simp [Dict.keys, withoutReceipt]

/-- The result without the values that are taken from a receipt. -/
def StepResult.withoutReceipt (result : StepResult) : StepResult :=
  { result with output := result.output.map Fields.withoutReceipt }

/-- The names in the output of a result. -/
def StepResult.outputKeys (result : StepResult) : Option (List String) :=
  result.output.map Dict.keys

theorem StepResult.outputKeys_of_withoutReceipt_eq {ended other : Except Fault StepResult}
    (h : ended.map withoutReceipt = other.map withoutReceipt) :
    ended.map outputKeys = other.map outputKeys := by
  have hkeys (ended : Except Fault StepResult) :
      (ended.map withoutReceipt).map outputKeys = ended.map outputKeys := by
    cases ended with
    | error fault => rfl
    | ok result =>
        refine congrArg Except.ok ?_
        rw [outputKeys, withoutReceipt, Option.map_map]
        exact congrArg (fun f => result.output.map f) (funext Fields.keys_withoutReceipt)
  rw [← hkeys ended, h, hkeys]

namespace Intent

variable {intent : Intent}

/-- The messages that the handler of the library for the step plans to send. -/
def mails (intent : Intent) : List Mail :=
  match intent.planned with
  | .ok (_, plan) => plan.mail.toList
  | .error _ => []

/-- The answer of the handler of the library for the step if its message gets a receipt. -/
def answerWith (intent : Intent) (receipt : Receipt) : Except Fault Answer :=
  intent.planned.map fun (_, plan) => plan.answer (plan.mail.map fun _ => receipt)

/-- A receipt has no part in the result but for its own values. -/
theorem withoutReceipt_resultOf_answerWith (intent : Intent) (receipt other : Receipt) :
    (intent.resultOf (intent.answerWith receipt)).map StepResult.withoutReceipt =
      (intent.resultOf (intent.answerWith other)).map StepResult.withoutReceipt := by
  unfold answerWith
  rcases intent.planned with fault | ⟨b, ⟨mail, narrative, output⟩⟩
  · rfl
  · cases mail with
    | none => rfl
    | some mail =>
        simp [Except.map, resultOf_ok, StepResult.completed, StepResult.withoutReceipt,
          Builtin.Plan.answer, Receipt.fields, Fields.withoutReceipt]

end Intent

namespace Surroundings

variable {σ X : Type} {world : Surroundings σ Empty} {intent : Intent} {s : σ} {calls : List Mail}

/-- The channel gives a receipt for every message, and telling observers ends nothing. -/
structure Accepting (world : Surroundings σ X) : Prop where
  sends : ∀ mail s, ∃ receipt s', (world.send mail).perform s = (.ok receipt, s')
  tells : ∀ notice s, ((world.notify notice).perform s).1 = .ok ()

/-- The same world for somebody who writes down each message that is handed to the channel. -/
def overheard (world : Surroundings σ Empty) : Surroundings (σ × List Mail) Empty where
  registry s := world.registry s.1
  send mail := do
    modify fun (s, calls) => (s, calls ++ [mail])
    Operation.within Prod.fst (fun s t => (s, t.2)) (world.send mail)
  perform := nofun
  notify notice := Operation.within Prod.fst (fun s t => (s, t.2)) (world.notify notice)

theorem perform_send_overheard (mail : Mail) :
    (world.overheard.send mail).perform (s, calls) =
      (((world.send mail).perform s).1, (((world.send mail).perform s).2, calls ++ [mail])) :=
  rfl

/-- With a channel that takes every message the handler of the library for a step does what it
plans, and somebody who listens hears just that. -/
theorem exists_perform_answerBy (haccepting : world.Accepting) (intent : Intent) (s : σ) :
    ∃ receipt left,
      (intent.answerBy world.send).perform s = (intent.answerWith receipt, left) ∧
      (intent.answerBy world.overheard.send).perform (s, []) =
        (intent.answerWith receipt, (left, intent.mails)) := by
  unfold Intent.answerWith Intent.mails
  cases hplanned : intent.planned with
  | error fault =>
      exact ⟨⟨"", ""⟩, s, Intent.perform_answerBy_of_error hplanned _ _,
        Intent.perform_answerBy_of_error hplanned _ _⟩
  | ok planned =>
      obtain ⟨b, plan⟩ := planned
      simp only [Intent.perform_answerBy_of_ok hplanned, Except.map]
      cases hmail : plan.mail with
      | none =>
          exact ⟨⟨"", ""⟩, s, Builtin.Plan.perform_carryOut_of_none hmail _ _,
            Builtin.Plan.perform_carryOut_of_none hmail _ _⟩
      | some mail =>
          obtain ⟨receipt, left, hsend⟩ := haccepting.sends mail s
          refine ⟨receipt, left, Builtin.Plan.perform_carryOut_of_some hmail hsend,
            Builtin.Plan.perform_carryOut_of_some hmail ?_⟩
          rw [perform_send_overheard, hsend]
          rfl

/-- A step that is carried out while somebody listens ends as it does otherwise. -/
theorem exists_run_overheard (h : world.registry s = Registry.standard)
    (haccepting : world.Accepting) (intent : Intent) :
    ∃ receipt s',
      (world.execute intent).run s =
        (intent.resultOf (intent.answerWith receipt), s') ∧
      (world.overheard.execute intent).run (s, []) =
        (intent.resultOf (intent.answerWith receipt), (s', intent.mails)) := by
  obtain ⟨receipt, left, hanswer, hoverheard⟩ := exists_perform_answerBy haccepting intent s
  let ended := intent.resultOf (intent.answerWith receipt)
  have htold (calls : List Mail) : world.overheard.told intent ended (left, calls) =
      (world.told intent ended left, calls) := by
    cases ended <;> rfl
  refine ⟨receipt, world.told intent ended left,
    Activity.ends_eq_iff.mp ?_, Activity.ends_eq_iff.mp ?_⟩
  · exact (ends_execute_of_standard world h haccepting.tells hanswer).mpr ⟨rfl, rfl⟩
  · have hregistry : world.overheard.registry (s, []) = Registry.standard := h
    have htells (notice : Notice) (t : σ × List Mail) := haccepting.tells notice t.1
    exact (ends_execute_of_standard world.overheard hregistry htells hoverheard).mpr
      ⟨rfl, (htold _).symm⟩

end Surroundings

namespace Webhook

variable {σ : Type}

/-- Send a message over a webhook, with a way to post and a way to make names. -/
def send (webhook : Webhook) (post : Posting → Operation σ PostReply) (fresh : Operation σ String)
    (mail : Mail) : Operation σ Receipt := do
  let posting ← Operation.ofExcept (webhook.posting mail)
  let reply ← post posting
  Operation.ofExcept (receipt (← fresh) mail posting reply)

/-- The address is one that can be posted to, the key can be sent along, and every post is answered
with success and with a body in which an id can be looked for. -/
structure Answered (webhook : Webhook) (post : Posting → Operation σ PostReply) : Prop where
  address : ∃ address, Http.Address.ofText? webhook.url = some address ∧
    (Http.Address.on {} address).isWhole = true
  key : ∀ c ∈ webhook.apiKey.toList, c.toNat < 0x80
  success : ∀ posting s, ∃ status body id s',
    (post posting).perform s = (.ok (.answered status body), s') ∧ 200 ≤ status ∧ status < 300 ∧
      messageId body = .ok id

/-- A webhook that is answered with success gives a receipt for every message. -/
theorem exists_receipt {webhook : Webhook} {post : Posting → Operation σ PostReply}
    (h : webhook.Answered post) {fresh : Operation σ String}
    (hfresh : ∀ s, ∃ name s', fresh.perform s = (.ok name, s')) (mail : Mail) (s : σ) :
    ∃ receipt s', (webhook.send post fresh mail).perform s = (.ok receipt, s') := by
  obtain ⟨address, haddress, hwhole⟩ := h.address
  have hkey : webhook.apiKey.toList.any (0x80 ≤ ·.toNat) = false := by
    rw [List.any_eq_false]
    intro c hc
    simpa using h.key c hc
  obtain ⟨posting, hposting, hplace⟩ : ∃ posting, webhook.posting mail = .ok posting ∧
      posting.address = Http.Address.on {} address := by
    rw [Webhook.posting, haddress]
    simp [hkey]
  obtain ⟨status, body, id, between, hpost, hlow, hhigh, hid⟩ := h.success posting s
  obtain ⟨name, s', hname⟩ := hfresh between
  let given : Receipt :=
    { message := if id = "" then name else id, provider := ChannelKind.webhook.name }
  have hreceipt : receipt name mail posting (.answered status body) = .ok given := by
    rw [receipt, hplace, hwhole, if_neg (by decide), if_pos ⟨hlow, hhigh⟩, hid]
    rfl
  refine ⟨given, s', ?_⟩
  rw [send, hposting, Operation.perform_bind_ok (Operation.perform_ofExcept _ _),
    Operation.perform_bind_ok hpost, Operation.perform_bind_ok hname, hreceipt]
  rfl

end Webhook

/-- A step with a handler of the library does the same on any two channels that give a receipt for
every message, in whatever worlds. The two results are the same, with the same names in the output,
but for the values of the output that are taken from a receipt; or there is no result on either, for
the same fault. Somebody who listens to the channels
hears the same messages, and listening changes nothing. The simulated channel is such a channel, and
so is a webhook that is answered with success. -/
theorem execute_alike_on_channels (intent : Intent) :
    (∀ (σ τ : Type) (one : Surroundings σ Empty) (other : Surroundings τ Empty) (s : σ) (t : τ),
      one.Accepting → other.Accepting →
      one.registry s = Registry.standard → other.registry t = Registry.standard →
      ∃ ended ended' s' t' calls,
        (one.execute intent).run s = (ended, s') ∧
        (other.execute intent).run t = (ended', t') ∧
        ended.map StepResult.withoutReceipt = ended'.map StepResult.withoutReceipt ∧
        ended.map StepResult.outputKeys = ended'.map StepResult.outputKeys ∧
        (one.overheard.execute intent).run (s, []) = (ended, (s', calls)) ∧
        (other.overheard.execute intent).run (t, []) = (ended', (t', calls))) ∧
    (Engine.surroundings Engine.performNone).Accepting ∧
    ∀ (σ : Type) (webhook : Webhook) (post : Posting → Operation σ PostReply)
      (fresh : Operation σ String), webhook.Answered post →
      (∀ s, ∃ name s', fresh.perform s = (.ok name, s')) →
      ∀ mail s, ∃ receipt s', (webhook.send post fresh mail).perform s = (.ok receipt, s') := by
  refine ⟨?_, ⟨fun _ _ => ⟨_, _, rfl⟩, fun _ _ => rfl⟩, ?_⟩
  · intro σ τ one other s t hone hother hs ht
    obtain ⟨receipt, s', hrun, hheard⟩ := Surroundings.exists_run_overheard hs hone intent
    obtain ⟨receipt', t', hrun', hheard'⟩ := Surroundings.exists_run_overheard ht hother intent
    have hsame := intent.withoutReceipt_resultOf_answerWith receipt receipt'
    exact ⟨_, _, s', t', intent.mails, hrun, hrun', hsame,
      StepResult.outputKeys_of_withoutReceipt_eq hsame, hheard, hheard'⟩
  · intro σ webhook post fresh hanswered hfresh mail s
    exact Webhook.exists_receipt hanswered hfresh mail s

/-- A world whose messages go over a webhook that takes each of them under one name. -/
def hooked : Surroundings Unit Empty where
  registry _ := Registry.standard
  send := Webhook.send { url := "https://hooks.example.com/send", apiKey := "k" }
    (fun _ => pure (.answered 200 "\x7b\"id\": \"wh-1\"\x7d")) (pure "")
  perform := nofun
  notify _ := pure ()

theorem accepting_hooked : hooked.Accepting where
  sends mail s := by
    have hfresh (s : Unit) : ∃ name s', (pure "" : Operation Unit String).perform s =
        (.ok name, s') := ⟨"", s, rfl⟩
    refine Webhook.exists_receipt ⟨?_, by simp, fun posting s => ?_⟩ hfresh mail s
    · have haddress : (Http.Address.ofText? "https://hooks.example.com/send").map
          (fun address => (Http.Address.on {} address).isWhole) = some true := by
        decide +kernel
      exact Option.map_eq_some_iff.mp haddress
    · exact ⟨200, _, "wh-1", s, rfl, by decide, by decide, by decide +kernel⟩
  tells _ _ := rfl

/-- A welcome is sent on the simulated channel and over the webhook. -/
theorem execute_alike_on_simulated_and_webhook :
    let welcome : Step :=
      { id := "w", type := "action", key := some "send_welcome"
        config := [("to", .text "\x7b\x7bclientEmail\x7d\x7d")] }
    let intent : Intent :=
      { routine := "r-1", execution := "x", step := welcome
        context := { routine := "r-1", scope := "s"
                     payload := [("clientEmail", .text "a@b.com")] } }
    let simulated := Engine.surroundings Engine.performNone
    let engine : Engine Empty := .ofSettings {} .inMemory
    simulated.Accepting ∧ hooked.Accepting ∧ simulated.registry engine = Registry.standard ∧
      ∃ result result' s' t' calls,
        (simulated.overheard.execute intent).run (engine, []) = (.ok result, (s', calls)) ∧
        (hooked.overheard.execute intent).run ((), []) = (.ok result', (t', calls)) ∧
        result.withoutReceipt = result'.withoutReceipt ∧
        result.output.map (Fields.read · "provider_name") = some (.text "simulated") ∧
        result'.output.map (Fields.read · "provider_name") = some (.text "webhook") ∧
        calls.map Mail.recipient = ["a@b.com"] := by
  intro welcome intent simulated engine
  obtain ⟨halike, hsimulated, -⟩ := execute_alike_on_channels intent
  obtain ⟨ended, ended', s', t', calls, hrun, hrun', hsame, -, hheard, hheard'⟩ :=
    halike _ _ simulated hooked engine () hsimulated accepting_hooked rfl rfl
  have hprovider : ended.map (fun result => result.output.map (Fields.read · "provider_name")) =
      .ok (some (.text "simulated")) := by
    have hdecided : ((simulated.execute intent).run engine).1.map
        (fun result => result.output.map (Fields.read · "provider_name")) =
          .ok (some (.text "simulated")) := by
      decide +kernel
    rwa [hrun] at hdecided
  have hprovider' : ended'.map (fun result => result.output.map (Fields.read · "provider_name")) =
      .ok (some (.text "webhook")) := by
    have hdecided : ((hooked.execute intent).run ()).1.map
        (fun result => result.output.map (Fields.read · "provider_name")) =
          .ok (some (.text "webhook")) := by
      decide +kernel
    rwa [hrun'] at hdecided
  obtain _ | result := ended
  · cases hprovider
  obtain _ | result' := ended'
  · cases hprovider'
  refine ⟨hsimulated, accepting_hooked, rfl, result, result', s', t', calls, hheard, hheard',
    Except.ok.inj hsame, Except.ok.inj hprovider, Except.ok.inj hprovider', ?_⟩
  · have hcalls : ((hooked.overheard.execute intent).run ((), [])).2.2.map Mail.recipient =
        ["a@b.com"] := by
      decide +kernel
    rwa [hheard'] at hcalls

end Workflow
