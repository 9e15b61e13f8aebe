import Mathlib.Data.List.Forall2
import Workflow.Activity
import Workflow.Proofs.Operation

/-!
# Activities among others

When an activity gives way, others may change the state. `Activity.Ends` says how an activity may
end when all that others do at a pause is in a given relation. An activity on its own is the case in
which they do nothing. `Activity.Keeps` says that a property of the state survives an activity in
this setting; it is shown part by part. `Activity.Yields` goes further: whatever others do as long as
they keep the property, the activity keeps it too and ends with one outcome. Activities that yield
something yield it side by side as well, so nothing that goes beside them has a part in it.
-/

namespace Workflow.Activity

variable {σ α β : Type} {rely : σ → σ → Prop} {s s' s'' : σ}

/-- How an activity may end while others change the state at its pauses. -/
inductive Ends (rely : σ → σ → Prop) : Activity σ α → σ → Except Fault α → σ → Prop
  | ended (outcome : Except Fault α) (s : σ) : Ends rely (.ended outcome) s outcome s
  | act {change : σ → σ} {rest : σ → Activity σ α} {s s' : σ} {outcome : Except Fault α}
      (h : Ends rely (rest s) (change s) outcome s') : Ends rely (.act change rest) s outcome s'
  | pause {rest : Activity σ α} {s t s' : σ} {outcome : Except Fault α} (others : rely s t)
      (h : Ends rely rest t outcome s') : Ends rely (.pause rest) s outcome s'

theorem ends_ended_iff {outcome outcome' : Except Fault α} :
    Ends rely (.ended outcome) s outcome' s' ↔ outcome' = outcome ∧ s' = s := by
  constructor
  · rintro ⟨⟩
    exact ⟨rfl, rfl⟩
  · rintro ⟨rfl, rfl⟩
    exact .ended outcome' s'

theorem ends_ofOperation_iff {operation : Operation σ α} {outcome : Except Fault α} :
    Ends rely (ofOperation operation) s outcome s' ↔ operation.perform s = (outcome, s') := by
  constructor
  · rintro (_ | ⟨h⟩ | _)
    obtain ⟨rfl, rfl⟩ := ends_ended_iff.mp h
    rfl
  · intro h
    refine .act ?_
    rw [h]
    exact .ended outcome s'

theorem ends_andThen_iff {p : Activity σ α} {next : Except Fault α → Activity σ β}
    {outcome : Except Fault β} :
    Ends rely (p.andThen next) s outcome s'' ↔
      ∃ between s', Ends rely p s between s' ∧ Ends rely (next between) s' outcome s'' := by
  induction p generalizing s with
  | ended first =>
      constructor
      · exact fun h => ⟨first, s, .ended first s, h⟩
      · rintro ⟨_, _, h, hnext⟩
        obtain ⟨rfl, rfl⟩ := ends_ended_iff.mp h
        exact hnext
  | act change rest ih =>
      constructor
      · rintro (_ | ⟨h⟩ | _)
        obtain ⟨between, s', hfirst, hnext⟩ := (ih s).mp h
        exact ⟨between, s', .act hfirst, hnext⟩
      · rintro ⟨between, s', _ | ⟨hfirst⟩ | _, hnext⟩
        exact .act ((ih s).mpr ⟨between, s', hfirst, hnext⟩)
  | pause rest ih =>
      constructor
      · rintro (_ | _ | ⟨others, h⟩)
        obtain ⟨between, s', hfirst, hnext⟩ := ih.mp h
        exact ⟨between, s', .pause others hfirst, hnext⟩
      · rintro ⟨between, s', _ | _ | ⟨others, hfirst⟩, hnext⟩
        exact .pause others (ih.mpr ⟨between, s', hfirst, hnext⟩)

/-- An activity in two parts ends with a fault of the first or as the second does. -/
theorem ends_bind_iff {p : Activity σ α} {f : α → Activity σ β} {outcome : Except Fault β} :
    Ends rely (p >>= f) s outcome s'' ↔
      (∃ fault, outcome = .error fault ∧ Ends rely p s (.error fault) s'') ∨
        ∃ a s', Ends rely p s (.ok a) s' ∧ Ends rely (f a) s' outcome s'' := by
  refine ends_andThen_iff.trans ⟨?_, ?_⟩
  · rintro ⟨fault | a, s', hfirst, hnext⟩
    · obtain ⟨rfl, rfl⟩ := ends_ended_iff.mp hnext
      exact .inl ⟨fault, rfl, hfirst⟩
    · exact .inr ⟨a, s', hfirst, hnext⟩
  · rintro (⟨fault, rfl, hfirst⟩ | ⟨a, s', hfirst, hnext⟩)
    · exact ⟨.error fault, s'', hfirst, .ended _ _⟩
    · exact ⟨.ok a, s', hfirst, hnext⟩

/-- After an operation that succeeds an activity ends as what follows does. -/
theorem ends_ofOperation_bind_iff {operation : Operation σ α} {f : α → Activity σ β}
    {outcome : Except Fault β} {a : α} (h : operation.perform s = (.ok a, s')) :
    Ends rely (ofOperation operation >>= f) s outcome s'' ↔ Ends rely (f a) s' outcome s'' := by
  constructor
  · intro hends
    rcases ends_bind_iff.mp hends with ⟨fault, rfl, hfault⟩ | ⟨b, between, hb, hrest⟩
    · cases h.symm.trans (ends_ofOperation_iff.mp hfault)
    · cases h.symm.trans (ends_ofOperation_iff.mp hb)
      exact hrest
  · exact fun hrest => ends_bind_iff.mpr (.inr ⟨a, s', ends_ofOperation_iff.mpr h, hrest⟩)

theorem ends_attempt_iff {p : Activity σ α} {outcome : Except Fault (Except Fault α)} :
    Ends rely p.attempt s outcome s' ↔ ∃ first, outcome = .ok first ∧ Ends rely p s first s' := by
  refine ends_andThen_iff.trans ⟨?_, ?_⟩
  · rintro ⟨first, _, hfirst, hlast⟩
    obtain ⟨rfl, rfl⟩ := ends_ended_iff.mp hlast
    exact ⟨first, rfl, hfirst⟩
  · rintro ⟨first, rfl, hfirst⟩
    exact ⟨first, s', hfirst, .ended _ _⟩

/-- On its own an activity ends in one way. -/
theorem ends_eq_iff {p : Activity σ α} {outcome : Except Fault α} :
    Ends Eq p s outcome s' ↔ p.run s = (outcome, s') := by
  induction p generalizing s with
  | ended first =>
      rw [ends_ended_iff, run_ended, Prod.mk.injEq, eq_comm, eq_comm (a := s')]
  | act change rest ih =>
      refine Iff.trans ⟨?_, .act⟩ (ih s)
      rintro (_ | ⟨h⟩ | _)
      exact h
  | pause rest ih =>
      refine Iff.trans ⟨?_, .pause rfl⟩ ih
      rintro (_ | _ | ⟨rfl, h⟩)
      exact h

theorem ends_run (p : Activity σ α) (s : σ) : Ends Eq p s (p.run s).1 (p.run s).2 :=
  ends_eq_iff.mpr rfl

theorem exists_of_run_bind {p : Activity σ α} {f : α → Activity σ β} {b : β}
    (h : (p >>= f).run s = (.ok b, s'')) :
    ∃ a s', p.run s = (.ok a, s') ∧ (f a).run s' = (.ok b, s'') := by
  rw [run_bind] at h
  rcases hp : p.run s with ⟨fault | a, s'⟩
  · simp [hp] at h
  · exact ⟨a, s', rfl, by simpa [hp] using h⟩

/-- A property of the state survives the activity. -/
def Keeps (rely : σ → σ → Prop) (P : σ → Prop) (p : Activity σ α) : Prop :=
  ∀ s outcome s', P s → Ends rely p s outcome s' → P s'

namespace Keeps

variable {P : σ → Prop}

theorem ended (outcome : Except Fault α) : Keeps rely P (.ended outcome) := by
  intro s outcome' s' hs h
  obtain ⟨-, rfl⟩ := ends_ended_iff.mp h
  exact hs

theorem ofOperation {operation : Operation σ α}
    (h : Operation.Respects (Operation.Retains P) operation) :
    Keeps rely P (.ofOperation operation) := by
  intro s outcome s' hs hends
  have hs' := h s hs
  rwa [ends_ofOperation_iff.mp hends] at hs'

theorem andThen {p : Activity σ α} {next : Except Fault α → Activity σ β} (first : Keeps rely P p)
    (rest : ∀ between, Keeps rely P (next between)) : Keeps rely P (p.andThen next) := by
  intro s outcome s'' hs h
  obtain ⟨between, s', hfirst, hnext⟩ := ends_andThen_iff.mp h
  exact rest between s' outcome s'' (first s between s' hs hfirst) hnext

theorem bind {p : Activity σ α} {f : α → Activity σ β} (first : Keeps rely P p)
    (rest : ∀ a, Keeps rely P (f a)) : Keeps rely P (p >>= f) := by
  refine first.andThen fun between => ?_
  cases between with
  | error fault => exact ended _
  | ok a => exact rest a

end Keeps

/-- The activity ends with the outcome and keeps a property of the state with each of its changes,
whatever others do at its pauses as long as they keep the property too. -/
inductive Yields (P : σ → Prop) (outcome : Except Fault α) : Activity σ α → Prop
  | ended : Yields P outcome (.ended outcome)
  | act {change : σ → σ} {rest : σ → Activity σ α} (keeps : ∀ s, P s → P (change s))
      (later : ∀ s, P s → Yields P outcome (rest s)) : Yields P outcome (.act change rest)
  | pause {rest : Activity σ α} (later : Yields P outcome rest) : Yields P outcome (.pause rest)

namespace Yields

variable {γ : Type} {P : σ → Prop}

/-- On its own. -/
theorem run {outcome : Except Fault α} {p : Activity σ α} (h : Yields P outcome p) (hs : P s) :
    ∃ s', p.run s = (outcome, s') ∧ P s' := by
  induction h generalizing s with
  | ended => exact ⟨s, rfl, hs⟩
  | act keeps _ ih => exact ih s hs (keeps s hs)
  | pause _ ih => exact ih hs

theorem ofOperation {outcome : Except Fault α} {operation : Operation σ α}
    (h : ∀ s, P s → ∃ s', operation.perform s = (outcome, s') ∧ P s') :
    Yields P outcome (.ofOperation operation) := by
  refine .act (fun s hs => ?_) fun s hs => ?_
  · obtain ⟨s', hperform, hs'⟩ := h s hs
    rwa [hperform]
  · obtain ⟨s', hperform, -⟩ := h s hs
    rw [hperform]
    exact .ended

theorem andThen {first : Except Fault α} {outcome : Except Fault β} {p : Activity σ α}
    {next : Except Fault α → Activity σ β} (h : Yields P first p)
    (hnext : Yields P outcome (next first)) : Yields P outcome (p.andThen next) := by
  induction h with
  | ended => exact hnext
  | act keeps _ ih => exact .act keeps ih
  | pause _ ih => exact .pause ih

theorem bind {a : α} {outcome : Except Fault β} {p : Activity σ α} {f : α → Activity σ β}
    (h : Yields P (.ok a) p) (hf : Yields P outcome (f a)) : Yields P outcome (p >>= f) :=
  h.andThen hf

theorem bind_error {fault : Fault} {p : Activity σ α} {f : α → Activity σ β}
    (h : Yields P (.error fault) p) : Yields P (.error fault) (p >>= f) :=
  h.andThen .ended

theorem attempt {outcome : Except Fault α} {p : Activity σ α} (h : Yields P outcome p) :
    Yields P (.ok outcome) p.attempt :=
  h.andThen .ended

theorem turn {first : Except Fault α} {outcome : Except Fault β}
    {atEnd : Except Fault α → Activity σ β} {atPause : Activity σ α → Activity σ β}
    {p : Activity σ α} (h : Yields P first p) (hend : Yields P outcome (atEnd first))
    (hpause : ∀ q, Yields P first q → Yields P outcome (atPause q)) :
    Yields P outcome (turn atEnd atPause p) := by
  induction h with
  | ended => exact hend
  | act keeps _ ih => exact .act keeps ih
  | pause later _ => exact hpause _ later

/-- The induction is on the activity that has the first turn in each round. -/
theorem beside {first : Except Fault α} {second : Except Fault β} {p : Activity σ α}
    {q : Activity σ β} (hp : Yields P first p) (hq : Yields P second q) :
    Yields P (both first second) (beside p q) := by
  induction hp generalizing q with
  | ended => exact hq.andThen .ended
  | act keeps _ ih => exact .act keeps fun s hs => ih s hs hq
  | pause later ih =>
      exact hq.turn (.pause (later.andThen .ended)) fun q hq => .pause (ih hq)

theorem together {ps : List (Activity σ α)} {as : List α}
    (h : List.Forall₂ (fun p a => Yields P (.ok a) p) ps as) : Yields P (.ok as) (together ps) := by
  induction h with
  | nil => exact .ended
  | cons hfirst _ ih => exact .bind (hfirst.beside ih) .ended

end Yields

end Workflow.Activity
