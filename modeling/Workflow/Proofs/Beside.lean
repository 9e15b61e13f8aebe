import Workflow.Proofs.Activity

/-!
# One activity among those that go side by side

An activity guarantees a relation between states when each of its changes is in the relation, as long
as what others do at its pauses is in some wider relation. Activities that guarantee this for each
other guarantee it together. When all others guarantee a relation, an activity that goes side by side
with them ends as it may end among others that keep to the relation. So one of many can be followed
on its own, and of the others nothing has to be known but what they guarantee.
-/

namespace Workflow.Activity

variable {σ α β : Type} {R G : σ → σ → Prop} {s s' : σ}

/-- From the state on, each change the activity makes is in `G`, as long as all that others do at its
pauses is in `R`. -/
inductive Guarantees (R G : σ → σ → Prop) : σ → Activity σ α → Prop
  | ended (outcome : Except Fault α) (s : σ) : Guarantees R G s (.ended outcome)
  | act {change : σ → σ} {rest : σ → Activity σ α} {s : σ} (step : G s (change s))
      (later : Guarantees R G (change s) (rest s)) : Guarantees R G s (.act change rest)
  | pause {rest : Activity σ α} {s : σ} (later : ∀ t, R s t → Guarantees R G t rest) :
      Guarantees R G s (.pause rest)

namespace Guarantees

theorem ofOperation {operation : Operation σ α} (h : G s (operation.perform s).2) :
    Guarantees R G s (.ofOperation operation) := .act h (.ended _ _)

/-- Going on after an operation from the state in which it ends. -/
theorem ofOperation_bind {operation : Operation σ α} {f : α → Activity σ β}
    (h : G s (operation.perform s).2)
    (rest : ∀ a t, operation.perform s = (.ok a, t) → Guarantees R G t (f a)) :
    Guarantees R G s (Activity.ofOperation operation >>= f) := by
  refine .act h ?_
  change Guarantees R G _ ((Activity.ended (operation.perform s).1).andThen _)
  cases houtcome : (operation.perform s).1 with
  | error fault => exact .ended _ _
  | ok a => exact rest a _ (Prod.ext houtcome rfl)

theorem imp {G' : σ → σ → Prop} {p : Activity σ α} (himp : ∀ s t, G s t → G' s t)
    (h : Guarantees R G s p) : Guarantees R G' s p := by
  induction h with
  | ended outcome s => exact .ended outcome s
  | act step _ ih => exact .act (himp _ _ step) ih
  | pause _ ih => exact .pause ih

/-- What is guaranteed among others is guaranteed when less is left to them. -/
theorem imp_others {R' : σ → σ → Prop} {p : Activity σ α} (himp : ∀ s t, R' s t → R s t)
    (h : Guarantees R G s p) : Guarantees R' G s p := by
  induction h with
  | ended outcome s => exact .ended outcome s
  | act step _ ih => exact .act step ih
  | pause _ ih => exact .pause fun t ht => ih t (himp _ t ht)

/-- Others may change the state at the pauses as long as they keep to the relation too. -/
theorem ends [IsPreorder σ G] (hle : ∀ s t, G s t → R s t) {rely : σ → σ → Prop}
    (hrely : ∀ s t, rely s t → G s t) {p : Activity σ α} {outcome : Except Fault α}
    (h : Guarantees R G s p) (hends : Ends rely p s outcome s') : G s s' := by
  induction hends with
  | ended outcome s => exact refl_of G s
  | act _ ih =>
      cases h with
      | act step later => exact trans_of G step (ih later)
  | pause others _ ih =>
      cases h with
      | pause later =>
          exact trans_of G (hrely _ _ others) (ih (later _ (hle _ _ (hrely _ _ others))))

section Parts

variable [IsPreorder σ R] (hle : ∀ s t, G s t → R s t)

include hle

theorem andThen {p : Activity σ α} {next : Except Fault α → Activity σ β}
    (first : Guarantees R G s p)
    (hnext : ∀ outcome t, R s t → Guarantees R G t (next outcome)) :
    Guarantees R G s (p.andThen next) := by
  induction first with
  | ended outcome s => exact hnext outcome s (refl_of R s)
  | act step _ ih =>
      exact .act step (ih fun outcome t ht => hnext outcome t (trans_of R (hle _ _ step) ht))
  | pause _ ih =>
      exact .pause fun t ht => ih t ht fun outcome u hu => hnext outcome u (trans_of R ht hu)

theorem bind {p : Activity σ α} {f : α → Activity σ β} (first : Guarantees R G s p)
    (rest : ∀ a t, R s t → Guarantees R G t (f a)) : Guarantees R G s (p >>= f) := by
  refine first.andThen hle fun outcome t ht => ?_
  cases outcome with
  | ok a => exact rest a t ht
  | error fault => exact .ended _ t

theorem attempt {p : Activity σ α} (h : Guarantees R G s p) : Guarantees R G s p.attempt :=
  h.andThen hle fun _ t _ => .ended _ t

theorem turn {atEnd : Except Fault α → Activity σ β} {atPause : Activity σ α → Activity σ β}
    {p : Activity σ α} (h : Guarantees R G s p)
    (hend : ∀ outcome t, R s t → Guarantees R G t (atEnd outcome))
    (hpause : ∀ q t, R s t → (∀ u, R t u → Guarantees R G u q) →
      Guarantees R G t (atPause q)) : Guarantees R G s (turn atEnd atPause p) := by
  induction h with
  | ended outcome s => exact hend outcome s (refl_of R s)
  | act step _ ih =>
      have hstep := hle _ _ step
      exact .act step (ih (fun outcome t ht => hend outcome t (trans_of R hstep ht))
        fun q t ht => hpause q t (trans_of R hstep ht))
  | pause later _ => exact hpause _ _ (refl_of R _) later

theorem beside {p : Activity σ α} {q : Activity σ β} (first : Guarantees R G s p)
    (second : ∀ t, R s t → Guarantees R G t q) : Guarantees R G s (beside p q) := by
  induction first generalizing q with
  | ended outcome s =>
      exact (second s (refl_of R s)).andThen hle fun _ t _ => .ended _ t
  | act step _ ih => exact .act step (ih fun t ht => second t (trans_of R (hle _ _ step) ht))
  | @pause rest s later ih =>
      refine (second s (refl_of R s)).turn hle (fun _ t ht => ?_) fun q t ht hq => ?_
      · exact .pause fun u hu => (later u (trans_of R ht hu)).andThen hle fun _ v _ => .ended _ v
      · exact .pause fun u hu =>
          ih u (trans_of R ht hu) fun v hv => hq v (trans_of R hu hv)

theorem together {ps : List (Activity σ α)}
    (h : ∀ p ∈ ps, ∀ t, R s t → Guarantees R G t p) : Guarantees R G s (together ps) := by
  induction ps generalizing s with
  | nil => exact .ended _ s
  | cons p rest ih =>
      obtain ⟨hfirst, hrest⟩ := List.forall_mem_cons.mp h
      refine .bind hle (.beside hle (hfirst s (refl_of R s)) fun t ht => ?_) fun _ t _ => .ended _ t
      exact ih fun p hp u hu => hrest p hp u (trans_of R ht hu)

end Parts

end Guarantees

theorem Ends.imp {rely rely' : σ → σ → Prop} (himp : ∀ s t, rely s t → rely' s t)
    {p : Activity σ α} {outcome : Except Fault α} (h : Ends rely p s outcome s') :
    Ends rely' p s outcome s' := by
  induction h with
  | ended outcome s => exact .ended outcome s
  | act _ ih => exact .act ih
  | pause others _ ih => exact .pause (himp _ _ others) ih

theorem both_eq_ok_iff {first : Except Fault α} {second : Except Fault β} {a : α} {b : β} :
    both first second = .ok (a, b) ↔ first = .ok a ∧ second = .ok b := by
  cases first <;> cases second <;> simp [both]

/-- Every change is in this relation. -/
def Anything (_ _ : σ) : Prop := True

instance : IsPreorder σ Anything where
  refl _ := trivial
  trans _ _ _ _ _ := trivial

theorem guarantees_anything (p : Activity σ α) (s : σ) : Guarantees Anything Anything s p := by
  induction p generalizing s with
  | ended outcome => exact .ended outcome s
  | act change _ ih => exact .act trivial (ih s (change s))
  | pause _ ih => exact .pause fun t _ => ih t

theorem Ends.anything {rely : σ → σ → Prop} {p : Activity σ α} {outcome : Except Fault α}
    (h : Ends rely p s outcome s') : Ends Anything p s outcome s' := h.imp fun _ _ _ => trivial

section Beside

variable [IsPreorder σ R] [IsPreorder σ G] (hle : ∀ s t, G s t → R s t)
variable {rely : σ → σ → Prop} (hrely : ∀ s t, rely s t → G s t)
variable {p : Activity σ α} {q : Activity σ β} {outcome : Except Fault (α × β)}

include hle hrely

/-- The first of two activities, when the second one keeps to the relation; the second one ends in
some way too. -/
theorem ends_first (hp : Guarantees R R s p) (hq : ∀ t, R s t → Guarantees R G t q)
    (hends : Ends rely (beside p q) s outcome s') :
    ∃ first second between, Ends G p s first between ∧ G between s' ∧
      outcome = both first second ∧ ∃ t t', Ends Anything q t second t' := by
  induction hp generalizing q with
  | ended first s =>
      obtain ⟨second, t, hsecond, hlast⟩ := ends_andThen_iff.mp hends
      obtain ⟨rfl, rfl⟩ := ends_ended_iff.mp hlast
      exact ⟨first, second, s, .ended first s, (hq s (refl_of R s)).ends hle hrely hsecond, rfl, s,
        _, hsecond.anything⟩
  | act step _ ih =>
      obtain _ | ⟨hends⟩ | _ := hends
      obtain ⟨first, second, between, hfirst, hrest⟩ :=
        ih (fun t ht => hq t (trans_of R step ht)) hends
      exact ⟨first, second, between, .act hfirst, hrest⟩
  | @pause rest s _ ih =>
      -- the second activity has its turn, and then the first one goes on
      have hturn : ∀ (q : Activity σ β) t, Guarantees R G t q → R s t → Ends rely
          (turn (fun second => .pause (rest.andThen fun first => .ended (both first second)))
            (fun later => .pause (beside rest later)) q) t outcome s' →
          ∃ first second u between, G t u ∧ Ends G rest u first between ∧ G between s' ∧
            outcome = both first second ∧ ∃ t', Ends Anything q t second t' := by
        intro q t hq
        induction hq with
        | ended second t =>
            intro ht hends
            obtain _ | _ | ⟨others, hends⟩ := hends
            obtain ⟨first, u, hfirst, hlast⟩ := ends_andThen_iff.mp hends
            obtain ⟨rfl, rfl⟩ := ends_ended_iff.mp hlast
            exact ⟨first, second, _, _, hrely _ _ others, hfirst.imp hrely, refl_of G _, rfl, t,
              .ended second t⟩
        | act step _ ihq =>
            intro ht hends
            obtain _ | ⟨hends⟩ | _ := hends
            obtain ⟨first, second, u, between, hbefore, hfirst, hafter, hboth, t', hsecond⟩ :=
              ihq (trans_of R ht (hle _ _ step)) hends
            exact ⟨first, second, u, between, trans_of G step hbefore, hfirst, hafter, hboth, t',
              .act hsecond⟩
        | pause later _ =>
            intro ht hends
            obtain _ | _ | ⟨others, hends⟩ := hends
            have hothers := hle _ _ (hrely _ _ others)
            obtain ⟨first, second, between, hfirst, hafter, hboth, u, t', hsecond⟩ :=
              ih _ (trans_of R ht hothers) (fun v hv => later v (trans_of R hothers hv)) hends
            exact ⟨first, second, _, between, hrely _ _ others, hfirst, hafter, hboth, t',
              .pause trivial hsecond⟩
      obtain ⟨first, second, t, between, hbefore, hfirst, hafter, hboth, hsecond⟩ :=
        hturn q s (hq s (refl_of R s)) (refl_of R s) hends
      exact ⟨first, second, between, .pause hbefore hfirst, hafter, hboth, s, hsecond⟩

/-- The second of two activities, when the first one keeps to the relation. -/
theorem ends_second (hp : Guarantees R G s p) (hq : ∀ t, R s t → Guarantees R R t q)
    (hends : Ends rely (beside p q) s outcome s') :
    ∃ first second before between, G s before ∧ Ends G q before second between ∧
      G between s' ∧ outcome = both first second := by
  induction hp generalizing q with
  | ended first s =>
      obtain ⟨second, t, hsecond, hlast⟩ := ends_andThen_iff.mp hends
      obtain ⟨rfl, rfl⟩ := ends_ended_iff.mp hlast
      exact ⟨first, second, s, _, refl_of G s, hsecond.imp hrely, refl_of G _, rfl⟩
  | act step _ ih =>
      obtain _ | ⟨hends⟩ | _ := hends
      obtain ⟨first, second, before, between, hbefore, hrest⟩ :=
        ih (fun t ht => hq t (trans_of R (hle _ _ step) ht)) hends
      exact ⟨first, second, before, between, trans_of G step hbefore, hrest⟩
  | @pause rest s later ih =>
      have hturn : ∀ (q : Activity σ β) t, Guarantees R R t q → R s t → Ends rely
          (turn (fun second => .pause (rest.andThen fun first => .ended (both first second)))
            (fun later => .pause (beside rest later)) q) t outcome s' →
          ∃ first second between, Ends G q t second between ∧ G between s' ∧
            outcome = both first second := by
        intro q t hq
        induction hq with
        | ended second t =>
            intro ht hends
            obtain _ | _ | ⟨others, hends⟩ := hends
            have hothers := hle _ _ (hrely _ _ others)
            obtain ⟨first, u, hfirst, hlast⟩ := ends_andThen_iff.mp hends
            obtain ⟨rfl, rfl⟩ := ends_ended_iff.mp hlast
            have hafter := (later _ (trans_of R ht hothers)).ends hle hrely hfirst
            exact ⟨first, second, t, .ended second t, trans_of G (hrely _ _ others) hafter, rfl⟩
        | act step _ ihq =>
            intro ht hends
            obtain _ | ⟨hends⟩ | _ := hends
            obtain ⟨first, second, between, hsecond, hafter⟩ := ihq (trans_of R ht step) hends
            exact ⟨first, second, between, .act hsecond, hafter⟩
        | pause hlater _ =>
            intro ht hends
            obtain _ | _ | ⟨others, hends⟩ := hends
            have hothers := hle _ _ (hrely _ _ others)
            obtain ⟨first, second, before, between, hbefore, hsecond, hafter⟩ :=
              ih _ (trans_of R ht hothers) (fun v hv => hlater v (trans_of R hothers hv)) hends
            exact ⟨first, second, between, .pause (trans_of G (hrely _ _ others) hbefore) hsecond,
              hafter⟩
      obtain ⟨first, second, between, hsecond, hafter⟩ :=
        hturn q s (hq s (refl_of R s)) (refl_of R s) hends
      exact ⟨first, second, s, between, refl_of G s, hsecond, hafter⟩

end Beside

section Together

variable {rely : σ → σ → Prop} {outcomes : List α}

theorem ends_together_cons {q : Activity σ α} {rest : List (Activity σ α)}
    (hends : Ends rely (together (q :: rest)) s (.ok outcomes) s') : ∃ a more,
      outcomes = a :: more ∧ Ends rely (beside q (together rest)) s (.ok (a, more)) s' := by
  rcases ends_bind_iff.mp hends with ⟨_, hfault, _⟩ | ⟨⟨a, more⟩, t, hbeside, hlast⟩
  · cases hfault
  · obtain ⟨houtcomes, rfl⟩ := ends_ended_iff.mp hlast
    exact ⟨a, more, Except.ok.inj houtcomes, hbeside⟩

/-- What comes of activities side by side is what each of them may end with, in their order. -/
theorem forall₂_of_ends_together {ps : List (Activity σ α)}
    (hends : Ends rely (together ps) s (.ok outcomes) s') :
    List.Forall₂ (fun p a => ∃ t t', Ends Anything p t (.ok a) t') ps outcomes := by
  induction ps generalizing rely s s' outcomes with
  | nil =>
      obtain ⟨houtcomes, -⟩ := ends_ended_iff.mp hends
      rw [Except.ok.inj houtcomes]
      exact .nil
  | cons p rest ih =>
      obtain ⟨a, more, rfl, hbeside⟩ := ends_together_cons hends
      obtain ⟨first, second, t', hfirst, -, hboth, _, _, hsecond⟩ :=
        ends_first (R := Anything) (G := Anything) (fun _ _ _ => trivial) (fun _ _ _ => trivial)
          (guarantees_anything p s) (fun t _ => guarantees_anything _ t) hbeside
      obtain ⟨rfl, rfl⟩ := both_eq_ok_iff.mp hboth.symm
      exact .cons ⟨s, t', hfirst⟩ (ih hsecond)

/-- However the activity ends, it is not with a fault. -/
def Sure (p : Activity σ α) : Prop :=
  ∀ (rely : σ → σ → Prop) s outcome s', Ends rely p s outcome s' → ∃ a, outcome = .ok a

theorem sure_together {ps : List (Activity σ α)} (h : ∀ p ∈ ps, Sure p) : Sure (together ps) := by
  induction ps with
  | nil => exact fun _ _ _ _ hends => ⟨[], (ends_ended_iff.mp hends).1⟩
  | cons p rest ih =>
      obtain ⟨hp, hrest⟩ := List.forall_mem_cons.mp h
      intro rely s outcome s' hends
      obtain ⟨between, t, hbeside, hlast⟩ := ends_andThen_iff.mp hends
      obtain ⟨first, second, _, hfirst, -, hboth, _, _, hsecond⟩ :=
        ends_first (R := Anything) (G := Anything) (fun _ _ _ => trivial) (fun _ _ _ => trivial)
          (guarantees_anything p s) (fun t _ => guarantees_anything _ t) hbeside
      obtain ⟨a, rfl⟩ := hp _ _ _ _ hfirst
      obtain ⟨more, rfl⟩ := ih hrest _ _ _ _ hsecond
      rw [hboth] at hlast
      exact ⟨a :: more, (ends_ended_iff.mp hlast).1⟩

/-- One of many activities that go side by side, when all others keep to the relation. -/
theorem ends_among [IsPreorder σ R] [IsPreorder σ G] (hle : ∀ s t, G s t → R s t)
    (hrely : ∀ s t, rely s t → G s t) {before after : List (Activity σ α)} {p : Activity σ α}
    (hp : ∀ t, R s t → Guarantees R R t p)
    (hothers : ∀ q ∈ before ++ after, ∀ t, R s t → Guarantees R G t q)
    (hends : Ends rely (together (before ++ p :: after)) s (.ok outcomes) s') :
    ∃ first a last, outcomes = first ++ a :: last ∧ first.length = before.length ∧
      ∃ t t', G s t ∧ Ends G p t (.ok a) t' ∧ G t' s' := by
  induction before generalizing rely s s' outcomes with
  | nil =>
      obtain ⟨a, more, rfl, hbeside⟩ := ends_together_cons hends
      obtain ⟨first, second, t', hends, hafter, hboth, -⟩ :=
        ends_first hle hrely (hp s (refl_of R s)) (fun t ht => .together hle fun q hq u hu =>
          hothers q hq u (trans_of R ht hu)) hbeside
      obtain ⟨rfl, -⟩ := both_eq_ok_iff.mp hboth.symm
      exact ⟨[], a, more, rfl, rfl, s, t', refl_of G s, hends, hafter⟩
  | cons q before ih =>
      obtain ⟨hq, hothers⟩ := List.forall_mem_cons.mp hothers
      obtain ⟨a, more, rfl, hbeside⟩ := ends_together_cons hends
      have hrest (t : σ) (ht : R s t) : Guarantees R R t (together (before ++ p :: after)) := by
        refine .together (fun _ _ h => h) fun q hq u hu => ?_
        rcases List.mem_append.mp hq with hmem | hmem
        · exact (hothers q (List.mem_append_left _ hmem) u (trans_of R ht hu)).imp hle
        · rcases List.mem_cons.mp hmem with rfl | hmem
          · exact hp u (trans_of R ht hu)
          · exact (hothers q (List.mem_append_right _ hmem) u (trans_of R ht hu)).imp hle
      obtain ⟨_, second, u, u', hbefore, hends, hafter, hboth⟩ :=
        ends_second hle hrely (hq s (refl_of R s)) hrest hbeside
      obtain ⟨-, rfl⟩ := both_eq_ok_iff.mp hboth.symm
      have hu := hle _ _ hbefore
      obtain ⟨first, b, last, rfl, hlength, t, t', ht, hends', ht'⟩ :=
        ih (fun _ _ h => h) (fun t ht => hp t (trans_of R hu ht))
          (fun q hq t ht => hothers q hq t (trans_of R hu ht)) hends
      exact ⟨a :: first, b, last, rfl, congrArg (· + 1) hlength, t, t', trans_of G hbefore ht,
        hends', trans_of G ht' hafter⟩

end Together

end Workflow.Activity
