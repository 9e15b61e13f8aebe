import Mathlib.Data.List.Chain
import Workflow.Proofs.Conversation.Walk

/-!
# Accounts of steps

What a conversation tells can be read as accounts of its steps, each with the result that was kept
and the messages that were said while the step was carried out. `accountsOf` reads them off. A walk
through a graph is told as the accounts of the steps of its route, one after the other, and each of
them is fair: it says whether the conversation waits, in the words that were said.
-/

namespace Workflow

/-- The texts of the messages with a space between them, or a sentence where there is no text. -/
def Step.narrative (step : Step) (said : List Message) : String :=
  if Turn.narrativeOf said ≠ "" then Turn.narrativeOf said
  else "Processed " ++ step.displayName ++ "."

/-- What is known of a step that was carried out. -/
structure Account where
  step : Step
  result : StepResult
  /-- What was said while the step was carried out. -/
  said : List Message
  deriving DecidableEq, Repr

namespace Account

/-- The account of a reply that led nowhere from the step. -/
def Pathless (account : Account) : Prop :=
  account.step.interactive = true ∧ account.said = [Turn.pathless]

instance (account : Account) : Decidable account.Pathless := inferInstanceAs (Decidable (_ ∧ _))

/-- The conversation waits at the step. -/
def Awaits (account : Account) : Prop := account.step.interactive = true ∧ ¬ account.Pathless

/-- The result says in the words of the conversation whether it waits at the step. -/
structure Fair (account : Account) : Prop where
  success : account.result.success = true
  suspended : account.Awaits → account.result.status = .suspended
  completed : ¬ account.Awaits → account.result.status = .completed
  narrative : account.result.narrative = account.step.narrative account.said

/-- The account of a step that was reached and carried out. -/
structure Reached (account : Account) : Prop where
  fair : account.Fair
  voice : ∀ message ∈ account.said, Turn.Voice account.step message

/-- What is told of the step. -/
def effects (account : Account) : List Effect :=
  account.said.map (.said account.step.id) ++ [.recorded account.step account.result]

end Account

/-- The accounts that effects tell when some messages were said before. What a person says and a
change of the state come between steps. -/
def accountsFrom (said : List Message) : List Effect → List Account
  | [] => []
  | .said _ message :: rest =>
    accountsFrom (if message.role = .user then [] else said ++ [message]) rest
  | .moved _ :: rest => accountsFrom [] rest
  | .recorded step result :: rest => ⟨step, result, said⟩ :: accountsFrom [] rest

/-- The accounts of the steps that were carried out while the effects were told. -/
def accountsOf (effects : List Effect) : List Account := accountsFrom [] effects

/-- The accounts are those of the results that were handed over to be kept, in their order. -/
theorem resultsOf_eq_accountsOf (effects : List Effect) :
    resultsOf effects = (accountsOf effects).map fun account => (account.step, account.result) := by
  have hall (said : List Message) : resultsOf effects =
      (accountsFrom said effects).map fun account => (account.step, account.result) := by
    induction effects generalizing said with
    | nil => rfl
    | cons effect rest ih =>
        cases effect with
        | said node message => exact ih _
        | moved state => exact ih []
        | recorded step result => exact congrArg ((step, result) :: ·) (ih [])
  exact hall []

/-- While the effects are told the accounts are read off, and some messages are left that belong to
no account yet. -/
def Reads (said : List Message) (effects : List Effect) (accounts : List Account)
    (left : List Message) : Prop :=
  ∀ rest, accountsFrom said (effects ++ rest) = accounts ++ accountsFrom left rest

namespace Reads

variable {said said' said'' : List Message} {effects effects' : List Effect}
  {accounts accounts' : List Account}

theorem nil (said : List Message) : Reads said [] [] said := fun _ => rfl

theorem append (first : Reads said effects accounts said')
    (rest : Reads said' effects' accounts' said'') :
    Reads said (effects ++ effects') (accounts ++ accounts') said'' := by
  intro more
  rw [List.append_assoc, first, rest, List.append_assoc]

theorem moved (said : List Message) (state : RunState) : Reads said [.moved state] [] [] :=
  fun _ => rfl

theorem userSaid (said : List Message) (node : String) {message : Message}
    (h : message.role = .user) : Reads said [.said node message] [] [] := by
  intro rest
  rw [List.singleton_append, accountsFrom, if_pos h, List.nil_append]

theorem ownSaid (node : String) {more : List Message}
    (h : ∀ message ∈ more, message.role ≠ .user) :
    Reads said (more.map (.said node)) [] (said ++ more) := by
  induction more generalizing said with
  | nil => simpa using nil said
  | cons message more ih =>
      intro rest
      obtain ⟨hfirst, hmore⟩ := List.forall_mem_cons.mp h
      rw [List.map_cons, List.cons_append, accountsFrom, if_neg hfirst, ih hmore,
        List.append_assoc, List.singleton_append]

theorem account {account : Account} (h : ∀ message ∈ account.said, message.role ≠ .user) :
    Reads [] account.effects [account] [] :=
  (ownSaid account.step.id h).append fun _ => rfl

theorem accountsOf_eq (h : Reads [] effects accounts said') : accountsOf effects = accounts := by
  have hall := h []
  rwa [List.append_nil, accountsFrom, List.append_nil] at hall

end Reads

namespace Account.Reached

variable {account : Account}

theorem not_pathless (h : account.Reached) : ¬ account.Pathless := by
  rintro ⟨waits, hsaid⟩
  have hmem : Turn.pathless ∈ account.said := by simp [hsaid]
  exact (h.voice _ hmem).2 waits rfl

theorem awaits_iff (h : account.Reached) : account.Awaits ↔ account.step.interactive = true :=
  ⟨And.left, fun waits => ⟨waits, h.not_pathless⟩⟩

end Account.Reached

namespace Turn

/-- From one moment of a turn to another the accounts are told. -/
def Tells (said : List Message) (accounts : List Account) (left : List Message) (t t' : Turn) :
    Prop :=
  ∃ more, t'.effects = t.effects ++ more ∧ Reads said more accounts left

namespace Tells

variable {said said' said'' : List Message} {accounts accounts' : List Account} {t t' t'' : Turn}

theorem trans (first : Tells said accounts said' t t')
    (rest : Tells said' accounts' said'' t' t'') :
    Tells said (accounts ++ accounts') said'' t t'' := by
  obtain ⟨more, heffects, hreads⟩ := first
  obtain ⟨more', heffects', hreads'⟩ := rest
  refine ⟨more ++ more', ?_, hreads.append hreads'⟩
  rw [heffects', heffects, List.append_assoc]

theorem moved (said : List Message) (t : Turn) (state : RunState) :
    Tells said [] [] t (t.moved state) :=
  ⟨_, rfl, .moved said state⟩

theorem recorded (said : List Message) (t : Turn) (step : Step) (result : StepResult) :
    Tells said [⟨step, result, said⟩] [] t (t.recorded step result) :=
  ⟨_, rfl, fun _ => rfl⟩

theorem userTold (said : List Message) (t : Turn) {message : Message}
    (h : message.role = .user) : Tells said [] [] t (t.told message) :=
  ⟨_, rfl, .userSaid said _ h⟩

theorem ownTold (said : List Message) (t : Turn) {message : Message}
    (h : message.role ≠ .user) : Tells said [] (said ++ [message]) t (t.told message) :=
  ⟨_, rfl, .ownSaid _ (List.forall_mem_singleton.mpr h)⟩

theorem of_eq (said : List Message) (h : t'.effects = t.effects) : Tells said [] said t t' :=
  ⟨[], by rw [h, List.append_nil], .nil said⟩

end Tells

open Operation (exists_of_perform_bind)

variable {step : Step} {t t' : Turn} {b : Bool}

theorem perform_record_keeping (hroutine : t.conversation.routine ≠ "") (narrative : String)
    (suspended : Bool) :
    (record .keeping step narrative suspended).perform t =
      (.ok (), t.recorded step
        { success := true, status := if suspended then .suspended else .completed
          narrative :=
            if narrative ≠ "" then narrative else "Processed " ++ step.displayName ++ "." }) := by
  rw [record, Operation.perform_bind_ok (perform_current t), if_neg hroutine]
  rfl

/-- What a visit to a step tells. -/
theorem visit_keeping (hroutine : t.conversation.routine ≠ "")
    (h : (visit .keeping step).perform t = (.ok b, t')) :
    ∃ account : Account, account.step = step ∧ account.Reached ∧
      t'.effects = t.effects ++ account.effects ∧
      ∃ messages bindings, t'.conversation =
        { t.conversation with node := some step.id, messages, bindings } := by
  obtain ⟨_, t₁, hchange, h⟩ := exists_of_perform_bind h
  cases hchange
  obtain ⟨_, _, hcurrent, h⟩ := exists_of_perform_bind h
  cases hcurrent
  obtain ⟨suspend, t₂, hprocess, h⟩ := exists_of_perform_bind h
  obtain ⟨_, _, hcurrent, h⟩ := exists_of_perform_bind h
  cases hcurrent
  obtain ⟨said, bindings, hvoice, heffects, hconversation⟩ := speaks_process step
    { t with conversation := { t.conversation with node := some step.id } }
  rw [hprocess] at heffects hconversation
  obtain rfl := answer_process hprocess
  have hdrop : t₂.conversation.messages.drop t.conversation.messages.length = said := by
    rw [hconversation]
    exact List.drop_left
  have hroutine' : t₂.conversation.routine ≠ "" := by
    rw [hconversation]
    exact hroutine
  rw [hdrop, Operation.perform_bind_ok (perform_record_keeping hroutine' _ _)] at h
  cases h
  let result : StepResult :=
    { success := true, status := if step.interactive then .suspended else .completed
      narrative := step.narrative said }
  refine ⟨⟨step, result, said⟩, rfl, ⟨⟨rfl, ?_, ?_, rfl⟩, hvoice⟩, ?_, _, bindings, hconversation⟩
  · exact fun awaits => if_pos awaits.1
  · intro passes
    refine if_neg fun waits => passes ⟨waits, ?_⟩
    rintro ⟨-, rfl⟩
    exact (hvoice pathless (List.mem_singleton_self _)).2 waits rfl
  · rw [Account.effects, ← List.append_assoc]
    exact congrArg (· ++ _) heffects

end Turn

end Workflow
