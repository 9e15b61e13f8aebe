import Mathlib.Order.Defs.Unbundled
import Workflow.Operation

/-!
# Reasoning about operations

An operation is followed through its parts. `perform_bind_ok` and `perform_bind_error` go forward
from an outcome that is known, and `exists_of_perform_bind` goes back from an outcome to those of
the parts.

`Respects` says how the state before an operation and the state after it are related, whether the
operation ends with a result or with a fault. A relation that is a preorder is respected by every
operation that is put together from respecting parts, so it has to be looked at only where the state
is written.

`Avoids` says that an operation ends with no fault of a kind, and `Traceless` that a fault of a kind
leaves the state as it was. An operation that looks first and writes afterwards has no trace of such
faults if what it does from the first write on avoids them.
-/

namespace Workflow

/-- A chain of outcomes that ends well goes well in each part. -/
theorem exists_of_bind_eq_ok {α β : Type} {outcome : Except Fault α} {f : α → Except Fault β} {b : β}
    (h : outcome >>= f = .ok b) : ∃ a, outcome = .ok a ∧ f a = .ok b := by
  cases outcome with
  | error fault => cases h
  | ok a => exact ⟨a, rfl, h⟩

/-- The outcome is no fault of a kind. -/
def Avoids {α : Type} (kind : Fault → Bool) (outcome : Except Fault α) : Prop :=
  ∀ fault, outcome = .error fault → kind fault = false

namespace Avoids

variable {α β : Type} {kind : Fault → Bool}

theorem ok (a : α) : Avoids kind (.ok a : Except Fault α) := nofun

theorem error {fault : Fault} (h : kind fault = false) :
    Avoids kind (.error fault : Except Fault α) := by
  rintro _ ⟨⟩
  exact h

theorem map {outcome : Except Fault α} (f : α → β) (h : Avoids kind outcome) :
    Avoids kind (outcome.map f) := by
  cases outcome with
  | ok a => exact .ok (f a)
  | error fault => exact .error (h fault rfl)

theorem bind {outcome : Except Fault α} {f : α → Except Fault β} (h : Avoids kind outcome)
    (hf : ∀ a, Avoids kind (f a)) : Avoids kind (outcome >>= f) := by
  cases outcome with
  | ok a => exact hf a
  | error fault => exact .error (h fault rfl)

theorem ite {c : Prop} [Decidable c] {yes no : Except Fault α} (hyes : Avoids kind yes)
    (hno : Avoids kind no) : Avoids kind (if c then yes else no) := by
  split
  · exact hyes
  · exact hno

/-- What avoids a kind of fault avoids every narrower kind. -/
theorem imp {narrow : Fault → Bool} {outcome : Except Fault α} (h : Avoids kind outcome)
    (himp : ∀ {fault}, narrow fault = true → kind fault = true) : Avoids narrow outcome :=
  fun fault heq => Bool.eq_false_iff.mpr fun hnarrow =>
    Bool.false_ne_true ((h fault heq).symm.trans (himp hnarrow))

end Avoids

namespace Operation

variable {σ τ α β : Type}

@[simp] theorem perform_get (s : σ) : (get : Operation σ σ).perform s = (.ok s, s) := rfl

@[simp] theorem perform_set (s s' : σ) :
    (set s' : Operation σ PUnit).perform s = (.ok ⟨⟩, s') := rfl

@[simp] theorem perform_modify (f : σ → σ) (s : σ) :
    (modify f : Operation σ PUnit).perform s = (.ok ⟨⟩, f s) := rfl

@[simp] theorem perform_map (f : α → β) (operation : Operation σ α) (s : σ) :
    (f <$> operation).perform s = ((operation.perform s).1.map f, (operation.perform s).2) := by
  have h : (f <$> operation : Operation σ β) = operation >>= fun a => pure (f a) := by
    rw [bind_pure_comp]
  rw [h, perform_bind]
  rcases operation.perform s with ⟨_ | a, s'⟩ <;> rfl

@[simp] theorem perform_within (getPart : τ → σ) (put : σ → τ → τ) (operation : Operation σ α)
    (t : τ) :
    (within getPart put operation).perform t =
      ((operation.perform (getPart t)).1, put (operation.perform (getPart t)).2 t) := rfl

theorem perform_bind_ok {operation : Operation σ α} {f : α → Operation σ β} {s s' : σ} {a : α}
    (h : operation.perform s = (.ok a, s')) :
    (operation >>= f).perform s = (f a).perform s' := by
  rw [perform_bind, h]

theorem perform_bind_error {operation : Operation σ α} {f : α → Operation σ β} {s s' : σ}
    {fault : Fault} (h : operation.perform s = (.error fault, s')) :
    (operation >>= f).perform s = (.error fault, s') := by
  rw [perform_bind, h]

/-- What only looks at the state afterwards leaves it as it is. -/
theorem perform_bind_snd {operation : Operation σ α} {f : α → Operation σ β}
    (h : ∀ a s', ((f a).perform s').2 = s') (s : σ) :
    ((operation >>= f).perform s).2 = (operation.perform s).2 := by
  rw [perform_bind]
  rcases operation.perform s with ⟨fault | a, s'⟩
  · rfl
  · exact h a s'

/-- Operations that go on alike after the same beginning are alike. -/
theorem perform_bind_congr {operation : Operation σ α} {f g : α → Operation σ β} {s : σ}
    (h : ∀ a s', operation.perform s = (.ok a, s') → (f a).perform s' = (g a).perform s') :
    (operation >>= f).perform s = (operation >>= g).perform s := by
  rw [perform_bind, perform_bind]
  rcases hp : operation.perform s with ⟨fault | a, s'⟩
  · rfl
  · exact h a s' hp

theorem exists_of_perform_bind {operation : Operation σ α} {f : α → Operation σ β} {s s'' : σ}
    {b : β} (h : (operation >>= f).perform s = (.ok b, s'')) :
    ∃ a s', operation.perform s = (.ok a, s') ∧ (f a).perform s' = (.ok b, s'') := by
  rw [perform_bind] at h
  rcases hp : operation.perform s with ⟨fault | a, s'⟩
  · simp [hp] at h
  · exact ⟨a, s', rfl, by simpa [hp] using h⟩

theorem eq_of_perform_bind_pure {operation : Operation σ α} {b b' : β} {s s' : σ}
    (h : (operation >>= fun _ => pure b).perform s = (.ok b', s')) : b' = b := by
  obtain ⟨_, _, _, hpure⟩ := exists_of_perform_bind h
  cases hpure
  rfl

theorem eq_of_perform_ofExcept {outcome : Except Fault α} {a : α} {s s' : σ}
    (h : (ofExcept outcome : Operation σ α).perform s = (.ok a, s')) :
    outcome = .ok a ∧ s = s' :=
  ⟨congrArg Prod.fst h, congrArg Prod.snd h⟩

/-- The states before and after the operation are related, however it ends. -/
def Respects (R : σ → σ → Prop) (operation : Operation σ α) : Prop :=
  ∀ s, R s (operation.perform s).2

namespace Respects

variable {R : σ → σ → Prop}

theorem imp {R' : σ → σ → Prop} {operation : Operation σ α}
    (himp : ∀ {s s'}, R s s' → R' s s') (h : Respects R operation) : Respects R' operation :=
  fun s => himp (h s)

theorem map {operation : Operation σ α} (f : α → β) (h : Respects R operation) :
    Respects R (f <$> operation) := by
  intro s
  rw [perform_map]
  exact h s

theorem ite {c : Prop} [Decidable c] {yes no : Operation σ α} (hyes : c → Respects R yes)
    (hno : ¬ c → Respects R no) : Respects R (if c then yes else no) := by
  split
  · exact hyes ‹_›
  · exact hno ‹_›

theorem attempt {operation : Operation σ α} (h : Respects R operation) :
    Respects R operation.attempt := h

variable [IsPreorder σ R]

theorem pure (a : α) : Respects R (pure a : Operation σ α) := fun s => refl_of R s

theorem fail (fault : Fault) : Respects R (fail fault : Operation σ α) := fun s => refl_of R s

theorem ofExcept (outcome : Except Fault α) : Respects R (ofExcept outcome) :=
  fun s => refl_of R s

theorem get : Respects R (MonadState.get : Operation σ σ) := fun s => refl_of R s

theorem bind {operation : Operation σ α} {f : α → Operation σ β} (first : Respects R operation)
    (rest : ∀ a, Respects R (f a)) : Respects R (operation >>= f) := by
  intro s
  rw [perform_bind]
  have h := first s
  rcases hp : operation.perform s with ⟨fault | a, s'⟩
  · simpa only [hp] using h
  · rw [hp] at h
    exact trans_of R h (rest a s')

theorem each {f : β → Operation σ α} (h : ∀ b, Respects R (f b)) (bs : List β) :
    Respects R (each f bs) := by
  induction bs with
  | nil => exact pure []
  | cons b rest ih => exact bind (h b) fun _ => bind ih fun _ => pure _

end Respects

/-- A property that holds before holds afterwards. -/
def Retains (P : σ → Prop) (s s' : σ) : Prop := P s → P s'

instance (P : σ → Prop) : IsPreorder σ (Retains P) where
  refl _ h := h
  trans _ _ _ first rest h := rest (first h)

/-- The operation ends with no fault of a kind. -/
def Avoids (kind : Fault → Bool) (operation : Operation σ α) : Prop :=
  ∀ s, Workflow.Avoids kind (operation.perform s).1

namespace Avoids

variable {kind : Fault → Bool}

theorem pure (a : α) : Avoids kind (pure a : Operation σ α) := fun _ => .ok a

theorem ofExcept {outcome : Except Fault α} (h : Workflow.Avoids kind outcome) :
    Avoids kind (ofExcept outcome : Operation σ α) := fun _ => h

theorem fail {fault : Fault} (h : kind fault = false) :
    Avoids kind (fail fault : Operation σ α) := fun _ => .error h

theorem modify (f : σ → σ) : Avoids kind (modify f : Operation σ PUnit) := fun _ => .ok _

/-- From one state on more may be known of what comes after. -/
theorem perform_bind {operation : Operation σ α} {f : α → Operation σ β} {s : σ}
    (first : Workflow.Avoids kind (operation.perform s).1)
    (rest : ∀ a s', operation.perform s = (.ok a, s') →
      Workflow.Avoids kind ((f a).perform s').1) :
    Workflow.Avoids kind ((operation >>= f).perform s).1 := by
  rw [Operation.perform_bind]
  rcases hperform : operation.perform s with ⟨fault | a, s'⟩
  · exact .error (first fault (congrArg Prod.fst hperform))
  · exact rest a s' hperform

theorem bind {operation : Operation σ α} {f : α → Operation σ β} (first : Avoids kind operation)
    (rest : ∀ a, Avoids kind (f a)) : Avoids kind (operation >>= f) :=
  fun s => perform_bind (first s) fun a s' _ => rest a s'

theorem ite {c : Prop} [Decidable c] {yes no : Operation σ α} (hyes : Avoids kind yes)
    (hno : Avoids kind no) : Avoids kind (if c then yes else no) := by
  split
  · exact hyes
  · exact hno

theorem each {f : β → Operation σ α} (h : ∀ b, Avoids kind (f b)) (bs : List β) :
    Avoids kind (each f bs) := by
  induction bs with
  | nil => exact pure []
  | cons b rest ih => exact bind (h b) fun _ => bind ih fun _ => pure _

end Avoids

/-- A fault of a kind leaves the state the operation began in as it is. -/
def Traceless (kind : Fault → Bool) (operation : Operation σ α) (s : σ) : Prop :=
  ∀ fault, (operation.perform s).1 = .error fault → kind fault = true → (operation.perform s).2 = s

namespace Traceless

variable {kind : Fault → Bool} {operation : Operation σ α} {s : σ}

theorem of_same (h : (operation.perform s).2 = s) : Traceless kind operation s := fun _ _ _ => h

theorem of_avoids (h : Workflow.Avoids kind (operation.perform s).1) :
    Traceless kind operation s :=
  fun fault heq hkind => absurd ((h fault heq).symm.trans hkind) Bool.false_ne_true

/-- What only looks at the state goes before what leaves no trace. -/
theorem bind {f : α → Operation σ β} (hlook : (operation.perform s).2 = s)
    (hf : ∀ a, operation.perform s = (.ok a, s) → Traceless kind (f a) s) :
    Traceless kind (operation >>= f) s := by
  intro fault heq hkind
  rcases hp : operation.perform s with ⟨found | a, s'⟩ <;> rw [hp] at hlook <;> subst hlook
  · rw [perform_bind_error hp]
  · rw [perform_bind_ok hp] at heq ⊢
    exact hf a hp fault heq hkind

/-- What leaves no trace goes before what avoids the faults altogether. -/
theorem andThen {f : α → Operation σ β} (h : Traceless kind operation s)
    (hf : ∀ a s', operation.perform s = (.ok a, s') →
      Workflow.Avoids kind ((f a).perform s').1) : Traceless kind (operation >>= f) s := by
  intro fault heq hkind
  rcases hp : operation.perform s with ⟨found | a, s'⟩
  · rw [perform_bind_error hp] at heq ⊢
    have hsame := h fault
    rw [hp] at hsame
    exact hsame (congrArg Except.error (Except.error.inj heq)) hkind
  · rw [perform_bind_ok hp] at heq
    exact absurd ((hf a s' hp fault heq).symm.trans hkind) Bool.false_ne_true

theorem ite {c : Prop} [Decidable c] {yes no : Operation σ α} (hyes : c → Traceless kind yes s)
    (hno : ¬ c → Traceless kind no s) : Traceless kind (if c then yes else no) s := by
  split
  · exact hyes ‹_›
  · exact hno ‹_›

end Traceless

end Operation

end Workflow
