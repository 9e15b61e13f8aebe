import Workflow.Proofs.Dispatch.Matching
import Workflow.Proofs.Dispatch.Pursuit

/-!
# Chains in company

A dispatch carries out the chains of several routines side by side, and each of them adds to a run of
its own. So the chain of the routine that is served pursues its route whatever the others do, and the
results it gives out are those of the entries of its run. For the same reason a handler may pass on
events of its own: what comes of them has runs of its own too.
-/

namespace Workflow.Engine

open Activity (Ends Guarantees Speaks Sure)

variable {X α : Type} {kind : StoreKind} {id : String} {graph : Graph} {engine engine' : Engine X}

section Isolated

variable {R G : Engine X → Engine X → Prop} {run : Intent → Activity (Engine X) α}
variable {crashed : Intent → Fault → Except Fault α} {intents : List Intent}
variable {outcomes : List (Except Fault α)} {answers : List α}

/-- What is told of intents by what each of them has come to, if there is something to tell of each.
-/
def recoveredAll (crashed : Intent → Fault → Except Fault α) (intents : List Intent)
    (outcomes : List (Except Fault α)) : Except Fault (List α) :=
  (intents.zipWith (recovered crashed) outcomes).mapM fun outcome => outcome

theorem recoveredAll_cons (intent : Intent) (rest : List Intent) (outcome : Except Fault α)
    (outcomes : List (Except Fault α)) :
    recoveredAll crashed (intent :: rest) (outcome :: outcomes) = (do
      let answer ← recovered crashed intent outcome
      let more ← recoveredAll crashed rest outcomes
      pure (answer :: more)) := by
  rw [recoveredAll, List.zipWith_cons_cons, List.mapM_cons]
  rfl

section Recovered

variable {S : Intent → Except Fault α → Prop} (h : List.Forall₂ S intents outcomes)

include h

theorem forall₂_of_recoveredAll (hall : recoveredAll crashed intents outcomes = .ok answers) :
    List.Forall₂ (fun intent answer => ∃ outcome, S intent outcome ∧
      recovered crashed intent outcome = .ok answer) intents answers := by
  induction h generalizing answers with
  | nil =>
      cases hall
      exact .nil
  | cons hfirst _ ih =>
      rw [recoveredAll_cons] at hall
      obtain ⟨answer, hanswer, hall⟩ := exists_of_bind_eq_ok hall
      obtain ⟨more, hmore, hlast⟩ := exists_of_bind_eq_ok hall
      cases hlast
      exact .cons ⟨_, hfirst, hanswer⟩ (ih hmore)

/-- If there is nothing to tell, then this is so of one of the intents. -/
theorem exists_of_recoveredAll_error {fault : Fault}
    (hall : recoveredAll crashed intents outcomes = .error fault) :
    ∃ intent ∈ intents, ∃ outcome, S intent outcome ∧
      recovered crashed intent outcome = .error fault := by
  induction h with
  | nil => cases hall
  | @cons intent outcome rest outcomes hfirst _ ih =>
      rw [recoveredAll_cons] at hall
      cases hrecovered : recovered crashed intent outcome with
      | error found =>
          rw [hrecovered] at hall
          cases hall
          exact ⟨intent, List.mem_cons_self, outcome, hfirst, hrecovered⟩
      | ok answer =>
          have hrest : recoveredAll crashed rest outcomes = .error fault := by
            rw [hrecovered] at hall
            cases hlater : recoveredAll crashed rest outcomes <;> rw [hlater] at hall <;> cases hall
            rfl
          obtain ⟨found, hmem, hfound⟩ := ih hrest
          exact ⟨found, List.mem_cons_of_mem _ hmem, hfound⟩

end Recovered

/-- What is told of one of the intents. -/
theorem exists_split_of_recoveredAll {before after : List Intent} {mine : Intent}
    {first last : List (Except Fault α)} {outcome : Except Fault α}
    (hlength : first.length = before.length)
    (hall : recoveredAll crashed (before ++ mine :: after) (first ++ outcome :: last) =
      .ok answers) :
    ∃ earlier answer later, answers = earlier ++ answer :: later ∧
      earlier.length = before.length ∧ recovered crashed mine outcome = .ok answer := by
  induction before generalizing first answers with
  | nil =>
      obtain rfl := List.eq_nil_of_length_eq_zero hlength
      rw [List.nil_append, List.nil_append, recoveredAll_cons] at hall
      obtain ⟨answer, hanswer, hall⟩ := exists_of_bind_eq_ok hall
      obtain ⟨later, -, hlast⟩ := exists_of_bind_eq_ok hall
      cases hlast
      exact ⟨[], answer, later, rfl, rfl, hanswer⟩
  | cons intent before ih =>
      obtain ⟨found, first, rfl⟩ := List.exists_cons_of_length_eq_add_one hlength
      rw [List.cons_append, List.cons_append, recoveredAll_cons] at hall
      obtain ⟨told, -, hall⟩ := exists_of_bind_eq_ok hall
      obtain ⟨more, hmore, hlast⟩ := exists_of_bind_eq_ok hall
      cases hlast
      obtain ⟨earlier, answer, later, rfl, hearlier, hanswer⟩ := ih (Nat.succ.inj hlength) hmore
      exact ⟨told :: earlier, answer, later, rfl, congrArg (· + 1) hearlier, hanswer⟩

theorem settled_of_ne_nil (hne : intents ≠ []) : settled run intents = (do
    Activity.giveWay
    let outcomes ← Activity.together (intents.map fun intent => (run intent).attempt)
    Activity.giveWay
    pure outcomes) :=
  if_neg (by simpa using hne)

theorem sure_attempts :
    Sure (Activity.together (intents.map fun intent => (run intent).attempt)) := by
  refine Activity.sure_together fun p hp => ?_
  obtain ⟨intent, -, rfl⟩ := List.mem_map.mp hp
  intro rely s outcome s' hends
  obtain ⟨first, hfirst, -⟩ := Activity.ends_attempt_iff.mp hends
  exact ⟨first, hfirst⟩

/-- Intents are carried out as they are side by side, and never with a fault. -/
theorem run_settled (s : Engine X) : ∃ outcomes s', (settled run intents).run s =
    (.ok outcomes, s') ∧
    (Activity.together (intents.map fun intent => (run intent).attempt)).run s =
      (.ok outcomes, s') := by
  rcases htogether : (Activity.together (intents.map fun intent => (run intent).attempt)).run s with
    ⟨outcome, s'⟩
  obtain ⟨outcomes, rfl⟩ := sure_attempts _ _ _ _ (Activity.ends_eq_iff.mpr htogether)
  refine ⟨outcomes, s', ?_, rfl⟩
  cases intents with
  | nil => exact htogether
  | cons intent rest =>
      rw [settled_of_ne_nil (List.cons_ne_nil _ _), Activity.run_bind, Activity.run_giveWay]
      dsimp only
      rw [Activity.run_bind, htogether]
      rfl

theorem run_isolated {s s' : Engine X} (h : (settled run intents).run s = (.ok outcomes, s')) :
    (isolated run crashed intents).run s = (recoveredAll crashed intents outcomes, s') := by
  rw [isolated, Activity.run_bind, h]
  rfl

/-- The outcome is one with which the intent may end, at some time in between, among others that
keep to the relation. -/
def Settles (R : Engine X → Engine X → Prop) (run : Intent → Activity (Engine X) α)
    (engine engine' : Engine X) (intent : Intent) (outcome : Except Fault α) : Prop :=
  ∃ before after, R engine before ∧ Ends R (run intent) before outcome after ∧ R after engine'

section Guarantees

variable [IsPreorder (Engine X) R] (hle : ∀ s t, G s t → R s t)

include hle

theorem guarantees_settled
    (h : ∀ intent ∈ intents, ∀ t, R engine t → Guarantees R G t (run intent)) :
    Guarantees R G engine (settled run intents) := by
  by_cases hne : intents = []
  · subst hne
    exact .ended _ engine
  have hpause (s : Engine X) : Guarantees R G s Activity.giveWay := .pause fun t _ => .ended _ t
  rw [settled_of_ne_nil hne]
  refine .bind hle (hpause engine) fun _ t ht => .bind hle (.together hle fun p hp u hu => ?_)
    fun _ u _ => .bind hle (hpause u) fun _ v _ => .ended _ v
  obtain ⟨intent, hmem, rfl⟩ := List.mem_map.mp hp
  exact (h intent hmem u (trans_of R ht hu)).attempt hle

theorem guarantees_isolated
    (h : ∀ intent ∈ intents, ∀ t, R engine t → Guarantees R G t (run intent)) :
    Guarantees R G engine (isolated run crashed intents) :=
  .bind hle (guarantees_settled hle h) fun _ t _ => .ended _ t

/-- One of the intents, when all others keep to the relation. -/
theorem run_settled_among [IsPreorder (Engine X) G] {before after : List Intent} {mine : Intent}
    (hmine : ∀ t, R engine t → Guarantees R R t (run mine))
    (hothers : ∀ intent ∈ before ++ after, ∀ t, R engine t → Guarantees R G t (run intent)) :
    ∃ first outcome last engine', (settled run (before ++ mine :: after)).run engine =
        (.ok (first ++ outcome :: last), engine') ∧
      first.length = before.length ∧ Settles G run engine engine' mine outcome := by
  obtain ⟨outcomes, engine', hrun, htogether⟩ :=
    @run_settled X α run (before ++ mine :: after) engine
  rw [List.map_append, List.map_cons] at htogether
  obtain ⟨first, a, last, rfl, hlength, t, t', ht, hends, ht'⟩ :=
    Activity.ends_among hle (by rintro s _ rfl; exact refl_of G s)
      (fun t ht => (hmine t ht).attempt fun _ _ h => h) (fun q hq t ht => by
        rw [← List.map_append] at hq
        obtain ⟨intent, hmem, rfl⟩ := List.mem_map.mp hq
        exact (hothers intent hmem t ht).attempt hle)
      (Activity.ends_eq_iff.mpr htogether)
  obtain ⟨outcome, houtcome, hmine⟩ := Activity.ends_attempt_iff.mp hends
  obtain rfl := Except.ok.inj houtcome
  exact ⟨first, a, last, engine', hrun, by rw [hlength, List.length_map], t, t', ht, hmine, ht'⟩

end Guarantees

theorem forall₂_of_split {β γ : Type} {S : β → γ → Prop} {as : List β} {bs : List γ}
    (hlength : as.length = bs.length)
    (h : ∀ before a after, as = before ++ a :: after → ∃ first b last, bs = first ++ b :: last ∧
      first.length = before.length ∧ S a b) : List.Forall₂ S as bs := by
  induction as generalizing bs with
  | nil =>
      obtain rfl := List.eq_nil_of_length_eq_zero hlength.symm
      exact .nil
  | cons a rest ih =>
      obtain ⟨first, b, last, rfl, hfirst, hab⟩ := h [] a rest rfl
      obtain rfl := List.eq_nil_of_length_eq_zero hfirst
      refine .cons hab (ih (Nat.succ.inj hlength) fun before a' after hsplit => ?_)
      obtain ⟨first, b', last', heq, hlength', hab'⟩ :=
        h (a :: before) a' after (by rw [hsplit]; rfl)
      cases first with
      | nil => cases hlength'
      | cons c first =>
          obtain ⟨-, rfl⟩ := List.cons.inj heq
          exact ⟨first, b', last', rfl, Nat.succ.inj hlength', hab'⟩

/-- However intents end side by side, when all of them keep to the relation: with an outcome of each,
in their order. -/
theorem exists_outcomes_of_ends [IsPreorder (Engine X) R]
    (h : ∀ intent ∈ intents, ∀ t, R engine t → Guarantees R R t (run intent))
    {outcome : Except Fault (List (Except Fault α))}
    (hends : Ends R (settled run intents) engine outcome engine') :
    ∃ outcomes, outcome = .ok outcomes ∧
      List.Forall₂ (Settles R run engine engine') intents outcomes := by
  by_cases hne : intents = []
  · subst hne
    obtain ⟨rfl, rfl⟩ := Activity.ends_ended_iff.mp hends
    exact ⟨[], rfl, .nil⟩
  rw [settled_of_ne_nil hne] at hends
  obtain ⟨_, first, hwait, hends⟩ := Activity.ends_andThen_iff.mp hends
  obtain _ | _ | ⟨hfirst, hwait⟩ := hwait
  obtain ⟨rfl, rfl⟩ := Activity.ends_ended_iff.mp hwait
  obtain ⟨_, last, htogether, hends⟩ := Activity.ends_andThen_iff.mp hends
  obtain ⟨outcomes, rfl⟩ := sure_attempts _ _ _ _ htogether
  obtain ⟨_, _, hwait, hends⟩ := Activity.ends_andThen_iff.mp hends
  obtain _ | _ | ⟨hlast, hwait⟩ := hwait
  obtain ⟨rfl, rfl⟩ := Activity.ends_ended_iff.mp hwait
  obtain ⟨rfl, rfl⟩ := Activity.ends_ended_iff.mp hends
  have hlength := (Activity.forall₂_of_ends_together htogether).length_eq
  rw [List.length_map] at hlength
  refine ⟨outcomes, rfl, forall₂_of_split hlength fun before mine after hsplit => ?_⟩
  subst hsplit
  have hattempt (intent : Intent) (hmem : intent ∈ before ++ mine :: after) (t : Engine X)
      (ht : R first t) : Guarantees R R t (run intent).attempt :=
    (h intent hmem t (trans_of R hfirst ht)).attempt fun _ _ h => h
  rw [List.map_append, List.map_cons] at htogether
  obtain ⟨earlier, a, later, rfl, hposition, t, t', ht, hmine, ht'⟩ :=
    Activity.ends_among (fun _ _ h => h) (fun _ _ h => h)
      (hattempt mine List.mem_append_cons_self) (fun q hq => by
        rw [← List.map_append] at hq
        obtain ⟨intent, hmem, rfl⟩ := List.mem_map.mp hq
        refine hattempt intent ?_
        exact ((List.sublist_cons_self mine after).append_left before).subset hmem) htogether
  obtain ⟨outcome, houtcome, hmine⟩ := Activity.ends_attempt_iff.mp hmine
  obtain rfl := Except.ok.inj houtcome
  exact ⟨earlier, a, later, rfl, by rw [hposition, List.length_map], t, t',
    trans_of R hfirst ht, hmine, trans_of R ht' hlast⟩

/-- Intents that end with faults that have words, if with any, are told of. -/
theorem exists_recoveredAll (hworded : ∀ intent ∈ intents, Activity.Worded (run intent))
    (hcrashed : ∀ intent fault, fault.speechless = false → ∃ a, crashed intent fault = .ok a)
    {s s' : Engine X} (h : (settled run intents).run s = (.ok outcomes, s')) :
    ∃ answers, recoveredAll crashed intents outcomes = .ok answers := by
  obtain ⟨_, heq, hsettles⟩ := exists_outcomes_of_ends (R := Activity.Anything)
    (fun intent _ t _ => Activity.guarantees_anything (run intent) t)
    (Activity.ends_eq_iff.mpr h).anything
  obtain rfl := Except.ok.inj heq
  cases hall : recoveredAll crashed intents outcomes with
  | ok answers => exact ⟨answers, rfl⟩
  | error fault =>
      obtain ⟨intent, hmem, outcome, ⟨_, _, -, hends, -⟩, hfault⟩ :=
        exists_of_recoveredAll_error hsettles hall
      cases outcome with
      | ok a => cases hfault
      | error found =>
          obtain ⟨a, ha⟩ :=
            hcrashed intent found (hworded intent hmem _ _ _ _ hends found rfl)
          cases ha.symm.trans hfault

end Isolated

theorem crashed_eq_ok_iff {intent : Intent} {fault : Fault} {result : StepResult} :
    crashed intent fault = .ok result ↔
      ∃ words, fault.wording = .ok words ∧ result = .failed intent.step words := by
  unfold crashed
  cases fault.wording with
  | error found => simp [bind, Except.bind]
  | ok words =>
      simp only [bind, Except.bind, Except.ok.injEq, exists_eq_left']
      exact eq_comm

theorem crashedChain_eq_ok_iff {intent : Intent} {fault : Fault} {results : List StepResult} :
    crashedChain intent fault = .ok results ↔
      ∃ result, crashed intent fault = .ok result ∧ results = [result] := by
  unfold crashedChain
  cases crashed intent fault with
  | error found => simp [bind, Except.bind]
  | ok result =>
      simp only [bind, Except.bind, pure, Except.pure, Except.ok.injEq, exists_eq_left']
      exact eq_comm

/-- A fault that has words is told of as the failure of the step an intent began with. -/
theorem exists_crashed (intent : Intent) {fault : Fault} (h : fault.speechless = false) :
    ∃ result, crashed intent fault = .ok result := by
  obtain ⟨words, hwords⟩ := Fault.speechless_eq_false_iff.mp h
  exact ⟨_, crashed_eq_ok_iff.mpr ⟨words, hwords, rfl⟩⟩

theorem exists_crashedChain (intent : Intent) {fault : Fault} (h : fault.speechless = false) :
    ∃ results, crashedChain intent fault = .ok results := by
  obtain ⟨result, hresult⟩ := exists_crashed intent h
  exact ⟨_, crashedChain_eq_ok_iff.mpr ⟨result, hresult, rfl⟩⟩

section Dispatch

variable {perform : X → Context → Fields → Activity (Engine X) Returned}
variable (key : String) (payload : Fields) (scope : String)

/-- The runs of what an event brings about are new, and so is all that is added for it. -/
theorem tactful_matchAll {β : Type} {f : Matches → Activity (Engine X) β}
    (hf : ∀ (engine : Engine X) (runs : Nat → Prop) (found : Matches),
      engine.Serves kind id graph → (∀ n, runs n → n < engine.made) →
      (∀ intent ∈ found.intents, ∃ m < engine.made, intent.execution = Identifier.ofNumber m ∧
        ∀ n, runs n → n ≠ m) →
      Guarantees (GoesOn kind id graph) (Spares kind id graph runs) engine (f found)) :
    Tactful kind id graph (Activity.ofOperation (matchAll key payload scope) >>= f) := by
  intro engine h
  obtain ⟨outcome, engine', hmatch, hconsiderate, hfound⟩ :=
    perform_matchScope key payload scope h
  refine .ofOperation_bind ?_ fun found t ht => ?_
  · rw [hmatch]
    exact hconsiderate.spares fun _ hn => hn
  · cases hmatch.symm.trans ht
    obtain ⟨hserves, hmade, -⟩ := hconsiderate h
    refine hf engine' _ found hserves (fun n hn => Nat.lt_of_lt_of_le hn hmade)
      fun intent hintent => ?_
    obtain ⟨m, hlow, hhigh, hname⟩ := hfound found rfl intent hintent
    exact ⟨m, hhigh, hname, fun n hn => Nat.ne_of_lt (Nat.lt_of_lt_of_le hn hlow)⟩

/-- The chains of other routines. -/
theorem filter_zip_routine {intents : List Intent} {chains : List (List StepResult)}
    (h : ∀ intent ∈ intents, intent.routine ≠ id) :
    ((intents.map Intent.routine).zip chains).filter (fun chain => chain.1 = id) = [] := by
  refine List.filter_eq_nil_iff.mpr fun chain hchain => ?_
  obtain ⟨intent, hintent, hname⟩ := List.mem_map.mp (List.of_mem_zip hchain).1
  simpa [← hname] using h intent hintent

/-- Intents of other runs spare some runs when each of them does. -/
theorem guarantees_runs {run : Intent → Activity (Engine X) α}
    {crashed : Intent → Fault → Except Fault α} {runs : Nat → Prop} {intents : List Intent}
    (hrun : ∀ (t : Engine X) intent m, intent.execution = Identifier.ofNumber m →
      t.Serves kind id graph → m < t.made → (∀ n, runs n → n < t.made ∧ n ≠ m) →
      Guarantees (GoesOn kind id graph) (Spares kind id graph runs) t (run intent))
    (h : engine.Serves kind id graph) (hruns : ∀ n, runs n → n < engine.made)
    (hintents : ∀ intent ∈ intents, ∃ m < engine.made,
      intent.execution = Identifier.ofNumber m ∧ ∀ n, runs n → n ≠ m) :
    Guarantees (GoesOn kind id graph) (Spares kind id graph runs) engine
      (isolated run crashed intents) := by
  refine guarantees_isolated Spares.goesOn fun intent hintent t ht => ?_
  obtain ⟨m, hm, hname, hne⟩ := hintents intent hintent
  obtain ⟨hserves, hmade⟩ := ht h
  exact hrun t intent m hname hserves (Nat.lt_of_lt_of_le hm hmade) fun n hn =>
    ⟨Nat.lt_of_lt_of_le (hruns n hn) hmade, hne n hn⟩

variable (hperform : ∀ x context config, Tactful kind id graph (perform x context config))

include hperform

/-- The chains for an event add to runs of their own. -/
theorem guarantees_runChains {runs : Nat → Prop} {intents : List Intent}
    (h : engine.Serves kind id graph) (hruns : ∀ n, runs n → n < engine.made)
    (hintents : ∀ intent ∈ intents, ∃ m < engine.made,
      intent.execution = Identifier.ofNumber m ∧ ∀ n, runs n → n ≠ m) :
    Guarantees (GoesOn kind id graph) (Spares kind id graph runs) engine
      (runChains perform intents) :=
  .bind Spares.goesOn (guarantees_runs (fun _ _ _ => spares_runChain hperform) h hruns hintents)
    fun _ t _ => .ended _ t

/-- A handler may pass on an event and keep apart what comes of it. -/
theorem tactful_dispatchChains :
    Tactful kind id graph (dispatchChains perform key payload scope) :=
  tactful_matchAll key payload scope fun _ _ _ h hruns hfound =>
    guarantees_runChains hperform h hruns hfound

variable (hspeaks : ∀ x context config, Speaks (perform x context config))
variable (hkeys : ∀ step ∈ graph.steps, step.handlerKey.writable = true)

include hspeaks hkeys

/-- One chain among those of other routines, in a run of its own. -/
theorem run_runChains {before after : List Intent} {mine : Intent} {n : Nat} {route : List Step}
    (h : engine.Serves kind id graph) (hn : n < engine.made)
    (hid : mine.routine = id) (hname : mine.execution = Identifier.ofNumber n)
    (hstep : mine.step ∈ graph.steps) (hroute : graph.Route mine.step route)
    (hothers : ∀ intent ∈ before ++ after, intent.routine ≠ id ∧
      ∃ m < engine.made, intent.execution = Identifier.ofNumber m ∧ n ≠ m) :
    ∃ chains results engine',
      (runChains perform (before ++ mine :: after)).run engine = (.ok chains, engine') ∧
      chains.filter (fun chain => chain.1 = id) = [(id, results)] ∧ Pursues route results ∧
      Adds id mine.execution (route.take results.length) results engine engine' := by
  have hmine (t : Engine X) (ht : GoesOn kind id graph engine t) :
      Guarantees (GoesOn kind id graph) (GoesOn kind id graph) t (runChain perform mine) := by
    obtain ⟨hserves, hmade⟩ := ht h
    exact (spares_runChain hperform hname hserves (Nat.lt_of_lt_of_le hn hmade)
      fun _ hfalse => False.elim hfalse).imp (@Spares.goesOn X kind id graph fun _ => False)
  have hspares (intent : Intent) (hintent : intent ∈ before ++ after) (t : Engine X)
      (ht : GoesOn kind id graph engine t) :
      Guarantees (GoesOn kind id graph) (Spares kind id graph (· = n)) t
        (runChain perform intent) := by
    obtain ⟨-, m, hm, hrun, hne⟩ := hothers intent hintent
    obtain ⟨hserves, hmade⟩ := ht h
    refine spares_runChain hperform hrun hserves (Nat.lt_of_lt_of_le hm hmade) ?_
    rintro _ rfl
    exact ⟨Nat.lt_of_lt_of_le hn hmade, hne⟩
  obtain ⟨first, outcome, last, engine', hrun, hlength, t, t', ht, hends, ht'⟩ :=
    run_settled_among Spares.goesOn hmine hspares
  obtain ⟨answers, hanswers⟩ := exists_recoveredAll
    (fun intent _ => worded_runChain (fun x context config => .of_speaks (hspeaks x context config))
      intent) (fun intent _ => exists_crashedChain intent) hrun
  -- the chain itself, between what the others do before and after
  obtain ⟨hserves, hmade, hbefore⟩ := ht h
  obtain ⟨results, rfl, hpursues, hserves', hadds⟩ := ends_runChain hperform hspeaks
    (fun _ _ h => h) hkeys hroute hstep hid hname hserves (Nat.lt_of_lt_of_le hn hmade) hends
  obtain ⟨-, -, hafter⟩ := ht' hserves'
  obtain ⟨earlier, _, later, rfl, hearlier, hresults⟩ :=
    exists_split_of_recoveredAll hlength hanswers
  obtain rfl := Except.ok.inj hresults
  have hsides := List.forall_mem_append.mp fun intent hintent => (hothers intent hintent).1
  refine ⟨((before ++ mine :: after).map Intent.routine).zip (earlier ++ results :: later), results,
    engine', ?_, ?_, hpursues, ?_⟩
  · rw [runChains, Activity.run_bind, run_isolated hrun, hanswers]
    rfl
  · rw [List.map_append, List.zip_append (by rw [List.length_map, hearlier]), List.map_cons,
      List.zip_cons_cons, List.filter_append, filter_zip_routine hsides.1,
      List.filter_cons_of_pos (by simpa using hid), filter_zip_routine hsides.2, hid]
    rfl
  · exact hadds.of_eq (by rw [hname, hbefore n rfl]) (by rw [hname, hafter n rfl])

/-- The chain of a routine in a dispatch. The routine that is served, active and listed in the scope,
and whose trigger fires, pursues the route of the step it is due for in a run of its own, and gives
out the results that are added to this run. If no step is due it has no chain. -/
theorem run_dispatchChains (h : engine.Serves kind id graph) {listed : List Routine}
    (hlist : ((stored (Store.listRoutines scope none)).perform engine).1 = .ok listed)
    {routine : Routine} (hroutine : routine ∈ listed) (hid : routine.id = id)
    (hactive : routine.status = .active) (hfires : graph.trigger.fires (some key) payload)
    {found : Matches} (hfound : ((matchAll key payload scope).perform engine).1 = .ok found) :
    ∃ chains engine', (dispatchChains perform key payload scope).run engine =
        (.ok chains, engine') ∧
      (graph.firstActionable? = none → chains.filter (fun chain => chain.1 = id) = []) ∧
      ∀ step, graph.firstActionable? = some step → ∃ route results n, graph.Route step route ∧
        Pursues route results ∧ engine.made ≤ n ∧
        chains.filter (fun chain => chain.1 = id) = [(id, results)] ∧
        Adds id (Identifier.ofNumber n) (route.take results.length) results engine engine' := by
  rcases hmatch : (matchAll key payload scope).perform engine with ⟨outcome, matched⟩
  obtain rfl : outcome = .ok found := by rwa [hmatch] at hfound
  obtain ⟨before, after, n, hintents, hserves, hstore, hlow, hhigh, hothers⟩ :=
    intents_of_matchAll key payload scope h hlist hroutine hid hactive hfires hmatch
  have hdispatch : (dispatchChains perform key payload scope).run engine =
      (runChains perform (before ++ graph.due.intents payload scope routine n ++ after)).run
        matched := by
    rw [dispatchChains, Activity.run_bind, Activity.run_ofOperation, hmatch, ← hintents]
  cases hstep : graph.firstActionable? with
  | none =>
      have hdue : graph.due = .stepless := by rw [Graph.due, hstep]
      obtain ⟨outcomes, engine', hrun, -⟩ :=
        @run_settled X _ (runChain perform) (before ++ after) matched
      obtain ⟨chains, hchains⟩ := exists_recoveredAll
        (fun intent _ => worded_runChain
          (fun x context config => .of_speaks (hspeaks x context config)) intent)
        (fun intent _ => exists_crashedChain intent) hrun
      refine ⟨((before ++ after).map Intent.routine).zip chains, engine', ?_, fun _ =>
        filter_zip_routine fun intent hintent => (hothers intent hintent).1,
        fun _ hsome => absurd hsome.symm (Option.some_ne_none _)⟩
      rw [hdispatch, hdue, Verdict.intents, List.append_nil, runChains, Activity.run_bind,
        run_isolated hrun, hchains]
      rfl
  | some step =>
      have hdue : graph.due = .due step := by rw [Graph.due, hstep]
      have hmem : step ∈ graph.steps := List.mem_of_find?_eq_some hstep
      obtain ⟨route, hroute⟩ := Graph.exists_route hmem
      let mine : Intent :=
        { routine := routine.id, execution := Identifier.ofNumber n, step
          context := { routine := routine.id, scope, payload } }
      obtain ⟨chains, results, engine', hrun, hchain, hpursues, hadds⟩ :=
        @run_runChains _ _ _ _ _ _ hperform hspeaks hkeys before after mine n _ hserves
          (hhigh step hdue) hid rfl hmem hroute fun intent hintent => by
            obtain ⟨hne, m, hm, hname, hapart⟩ := hothers intent hintent
            exact ⟨hne, m, hm, hname, hapart step hdue⟩
      refine ⟨chains, engine', ?_, fun hnone => absurd hnone (Option.some_ne_none _), ?_⟩
      · rw [hdispatch, hdue, Verdict.intents, List.append_assoc, List.singleton_append]
        exact hrun
      · rintro _ ⟨rfl⟩
        exact ⟨route, results, n, hroute, hpursues, hlow, hchain,
          hadds.of_eq (by rw [entries, entries, hstore]) rfl⟩

end Dispatch

end Workflow.Engine
