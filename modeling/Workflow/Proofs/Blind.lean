import Workflow.Proofs.Activity

/-!
# Work that is blind to a difference

Two states may differ in something that a piece of work never finds out. `Operation.Blind` says so
of an operation and a relation between states: from related states it ends alike, and in related
states. `Activity.Blind` says so of an activity, which takes the same course from related states.
Work that is put together from blind parts is blind, also when it goes side by side.
`Operation.Leads` is the same with one relation before and another one after.
-/

namespace Workflow

variable {σ α β : Type} {R : σ → σ → Prop}

namespace Operation

/-- From states related in one way the operation ends alike, and in states related in another. -/
def Leads (R Q : σ → σ → Prop) (operation : Operation σ α) : Prop :=
  ∀ s t, R s t → (operation.perform s).1 = (operation.perform t).1 ∧
    Q (operation.perform s).2 (operation.perform t).2

/-- From related states the operation ends alike, and in related states. -/
def Blind (R : σ → σ → Prop) (operation : Operation σ α) : Prop := Leads R R operation

namespace Leads

variable {Q between : σ → σ → Prop}

theorem of_blind {operation : Operation σ α} (himp : ∀ s t, R s t → Q s t)
    (h : Blind R operation) : Leads R Q operation :=
  fun s t hst => ⟨(h s t hst).1, himp _ _ (h s t hst).2⟩

theorem modify {f : σ → σ} (h : ∀ s t, R s t → Q (f s) (f t)) :
    Leads R Q (modify f : Operation σ PUnit) := fun s t hst => ⟨rfl, h s t hst⟩

/-- Going on with a result, which has to be looked at only where a related state gives it out. -/
theorem bind {operation : Operation σ α} {f : α → Operation σ β}
    (first : Leads R between operation) (stops : ∀ s t, between s t → Q s t)
    (rest : ∀ a, (∃ s t, R s t ∧ (operation.perform s).1 = .ok a) → Leads between Q (f a)) :
    Leads R Q (operation >>= f) := by
  intro s t h
  obtain ⟨hsame, hafter⟩ := first s t h
  rw [perform_bind, perform_bind]
  rcases hs : operation.perform s with ⟨outcome, s'⟩
  rcases ht : operation.perform t with ⟨outcome', t'⟩
  rw [hs, ht] at hsame hafter
  obtain rfl : outcome = outcome' := hsame
  cases outcome with
  | error fault => exact ⟨rfl, stops _ _ hafter⟩
  | ok a => exact rest a ⟨s, t, h, by rw [hs]⟩ s' t' hafter

theorem attempt {operation : Operation σ α} (h : Leads R Q operation) :
    Leads R Q operation.attempt :=
  fun s t hst => ⟨congrArg Except.ok (h s t hst).1, (h s t hst).2⟩

end Leads

namespace Blind

theorem pure (a : α) : Blind R (pure a : Operation σ α) := fun _ _ h => ⟨rfl, h⟩

theorem fail (fault : Fault) : Blind R (fail fault : Operation σ α) := fun _ _ h => ⟨rfl, h⟩

theorem ofExcept (outcome : Except Fault α) : Blind R (ofExcept outcome) :=
  fun _ _ h => ⟨rfl, h⟩

theorem modify {f : σ → σ} (h : ∀ s t, R s t → R (f s) (f t)) :
    Blind R (modify f : Operation σ PUnit) := fun s t hst => ⟨rfl, h s t hst⟩

/-- Looking at the state, and going on alike from related states. -/
theorem reading {f : σ → Operation σ α} (hsame : ∀ s t, R s t → f s = f t)
    (hf : ∀ s, Blind R (f s)) : Blind R (get >>= f) := by
  intro s t h
  rw [perform_bind_ok (perform_get s), perform_bind_ok (perform_get t), hsame s t h]
  exact hf t s t h

theorem bind_given {operation : Operation σ α} {f : α → Operation σ β}
    (first : Blind R operation)
    (rest : ∀ a, (∃ s t, R s t ∧ (operation.perform s).1 = .ok a) → Blind R (f a)) :
    Blind R (operation >>= f) := Leads.bind first (fun _ _ h => h) rest

theorem bind {operation : Operation σ α} {f : α → Operation σ β} (first : Blind R operation)
    (rest : ∀ a, Blind R (f a)) : Blind R (operation >>= f) := first.bind_given fun a _ => rest a

theorem map {operation : Operation σ α} (f : α → β) (h : Blind R operation) :
    Blind R (f <$> operation) := by
  intro s t hst
  obtain ⟨hsame, hafter⟩ := h s t hst
  rw [perform_map, perform_map]
  exact ⟨congrArg (Except.map f) hsame, hafter⟩

theorem attempt {operation : Operation σ α} (h : Blind R operation) :
    Blind R operation.attempt := Leads.attempt h

theorem ite {c : Prop} [Decidable c] {yes no : Operation σ α} (hyes : c → Blind R yes)
    (hno : ¬ c → Blind R no) : Blind R (if c then yes else no) := by
  split
  · exact hyes ‹_›
  · exact hno ‹_›

theorem each {f : β → Operation σ α} (bs : List β) (h : ∀ b ∈ bs, Blind R (f b)) :
    Blind R (each f bs) := by
  induction bs with
  | nil => exact pure []
  | cons b rest ih =>
      obtain ⟨hfirst, hrest⟩ := List.forall_mem_cons.mp h
      exact bind hfirst fun _ => bind (ih hrest) fun _ => pure _

theorem foldlM {f : α → β → Operation σ α} (bs : List β) (h : ∀ b ∈ bs, ∀ a, Blind R (f a b))
    (a : α) : Blind R (bs.foldlM f a) := by
  induction bs generalizing a with
  | nil => exact pure a
  | cons b rest ih =>
      obtain ⟨hfirst, hrest⟩ := List.forall_mem_cons.mp h
      rw [List.foldlM_cons]
      exact bind (hfirst a) fun a => ih hrest a

end Blind

end Operation

namespace Activity

/-- From related states the activity takes the same course. -/
inductive Blind (R : σ → σ → Prop) : Activity σ α → Prop
  | ended (outcome : Except Fault α) : Blind R (.ended outcome)
  | act {change : σ → σ} {rest : σ → Activity σ α}
      (same : ∀ s t, R s t → R (change s) (change t) ∧ rest s = rest t)
      (later : ∀ s t, R s t → Blind R (rest s)) : Blind R (.act change rest)
  | pause {rest : Activity σ α} (later : Blind R rest) : Blind R (.pause rest)

namespace Blind

theorem ofOperation {operation : Operation σ α} (h : Operation.Blind R operation) :
    Blind R (.ofOperation operation) := by
  refine .act (fun s t hst => ?_) fun _ _ _ => .ended _
  obtain ⟨hsame, hafter⟩ := h s t hst
  exact ⟨hafter, congrArg _ hsame⟩

theorem andThen {p : Activity σ α} {next : Except Fault α → Activity σ β} (first : Blind R p)
    (hnext : ∀ outcome, Blind R (next outcome)) : Blind R (p.andThen next) := by
  induction first with
  | ended outcome => exact hnext outcome
  | act same _ ih =>
      refine .act (fun s t hst => ?_) ih
      obtain ⟨hafter, hrest⟩ := same s t hst
      exact ⟨hafter, congrArg _ hrest⟩
  | pause _ ih => exact .pause ih

theorem bind {p : Activity σ α} {f : α → Activity σ β} (first : Blind R p)
    (rest : ∀ a, Blind R (f a)) : Blind R (p >>= f) := by
  refine first.andThen fun outcome => ?_
  cases outcome with
  | ok a => exact rest a
  | error fault => exact .ended _

/-- Going on after an operation, which has to be looked at only for what related states give out. -/
theorem ofOperation_bind {operation : Operation σ α} {f : α → Activity σ β}
    (h : Operation.Blind R operation)
    (rest : ∀ a, (∃ s t, R s t ∧ (operation.perform s).1 = .ok a) → Blind R (f a)) :
    Blind R (Activity.ofOperation operation >>= f) := by
  refine .act (fun s t hst => ?_) fun s t hst => ?_
  · obtain ⟨hsame, hafter⟩ := h s t hst
    exact ⟨hafter, congrArg (fun outcome => (Activity.ended outcome).andThen _) hsame⟩
  · change Blind R ((Activity.ended (operation.perform s).1).andThen _)
    cases houtcome : (operation.perform s).1 with
    | error fault => exact .ended _
    | ok a => exact rest a ⟨s, t, hst, houtcome⟩

theorem attempt {p : Activity σ α} (h : Blind R p) : Blind R p.attempt :=
  h.andThen fun _ => .ended _

theorem giveWay : Blind R (giveWay : Activity σ Unit) := .pause (.ended _)

theorem turn {atEnd : Except Fault α → Activity σ β} {atPause : Activity σ α → Activity σ β}
    {p : Activity σ α} (h : Blind R p) (hend : ∀ outcome, Blind R (atEnd outcome))
    (hpause : ∀ q, Blind R q → Blind R (atPause q)) : Blind R (turn atEnd atPause p) := by
  induction h with
  | ended outcome => exact hend outcome
  | act same _ ih =>
      refine .act (fun s t hst => ?_) ih
      obtain ⟨hafter, hrest⟩ := same s t hst
      exact ⟨hafter, congrArg _ hrest⟩
  | pause later _ => exact hpause _ later

theorem beside {p : Activity σ α} {q : Activity σ β} (first : Blind R p) (second : Blind R q) :
    Blind R (beside p q) := by
  induction first generalizing q with
  | ended outcome => exact second.andThen fun _ => .ended _
  | act same _ ih =>
      refine .act (fun s t hst => ?_) fun s t hst => ih s t hst second
      obtain ⟨hafter, hrest⟩ := same s t hst
      exact ⟨hafter, congrArg (Activity.beside · q) hrest⟩
  | pause later ih =>
      refine second.turn (fun _ => .pause (later.andThen fun _ => .ended _)) fun q hq => ?_
      exact .pause (ih hq)

theorem together {ps : List (Activity σ α)} (h : ∀ p ∈ ps, Blind R p) : Blind R (together ps) := by
  induction ps with
  | nil => exact .ended _
  | cons p rest ih =>
      obtain ⟨hfirst, hrest⟩ := List.forall_mem_cons.mp h
      exact .bind (.beside hfirst (ih hrest)) fun _ => .ended _

/-- On its own an activity ends alike from related states. -/
theorem run {p : Activity σ α} (h : Blind R p) {s t : σ} (hst : R s t) :
    (p.run s).1 = (p.run t).1 ∧ R (p.run s).2 (p.run t).2 := by
  induction h generalizing s t with
  | ended outcome => exact ⟨rfl, hst⟩
  | @act change rest same _ ih =>
      obtain ⟨hafter, hrest⟩ := same s t hst
      have hends := ih s t hst hafter
      simp only [Activity.run]
      rwa [← hrest]
  | pause _ ih => exact ih hst

end Blind

end Activity

end Workflow
