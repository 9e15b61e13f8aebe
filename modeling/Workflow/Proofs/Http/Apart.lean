import Workflow.Proofs.Http.AtHand
import Workflow.Proofs.Http.Visit
import Workflow.Proofs.Scope.Stance

/-!
# Scopes are apart

Scopes do not see or affect each other through the service. Take any requests in a row, and take
away those of all scopes but one. The requests that are left get the same answers, as long as no
more conversations are completed than the table of conversations keeps. And what belongs to another
scope is answered like what does not exist.

The two sequences are followed side by side. A request of the scope comes to both services, a
request of another scope only to the first one, and what the scope sees of the two engines stays the
same.
-/

namespace Workflow

namespace Engine

variable {X : Type} {kind : StoreKind} {limit : Nat} {engine : Engine X} {records : Memory}

/-- The engine has templates and nothing else. -/
structure New (kind : StoreKind) (engine : Engine X) : Prop where
  store : ∃ templates, engine.store = kind.hold { templates }
  graphs : engine.graphs.kept = []
  conversations : engine.table.conversations = []
  finished : engine.table.finished = []
  unwritable : engine.unwritable = []

theorem New.faithful (h : engine.New kind) :
    ∃ records, engine.Faithful kind engine.graphs.limit records := by
  obtain ⟨templates, hstore⟩ := h.store
  refine ⟨{ templates }, ⟨hstore, nofun, nofun, fun _ => rfl, nofun⟩, ?_, ?_, rfl, ?_⟩
  · rw [h.graphs]
    exact List.forall_mem_nil _
  · rw [h.graphs]
    exact List.forall_mem_nil _
  · rw [h.graphs]
    exact Nat.zero_le _

theorem New.stance (h : engine.New kind) {done : List String}
    (hroom : done.length ≤ engine.table.limit) :
    ∃ records, engine.rebuilt.Stance kind done records := by
  obtain ⟨templates, hstore⟩ := h.store
  refine ⟨{ templates }, hstore, .empty _ _, rfl, h.unwritable, ?_⟩
  constructor
  · rw [show engine.rebuilt.table.conversations = [] from h.conversations]
    exact List.forall_mem_nil _
  · rw [show engine.rebuilt.table.conversations = [] from h.conversations]
    exact .nil
  · rw [show engine.rebuilt.table.conversations = [] from h.conversations]
    exact List.forall_mem_nil _
  · rw [show engine.rebuilt.table.finished = [] from h.finished]
    exact .nil
  · rw [show engine.rebuilt.table.finished = [] from h.finished]
    exact List.nil_subset _
  · exact hroom

/-- The engine, which counts on from a number. -/
def countingFrom (engine : Engine X) (n : Nat) : Engine X := { engine with made := n }

theorem Faithful.countingFrom (h : engine.Faithful kind limit records) {n : Nat}
    (hle : engine.made ≤ n) : (engine.countingFrom n).Faithful kind limit records :=
  ⟨⟨h.keeps.store, h.keeps.chronicled.mono hle⟩, h.rules, h.recorded, h.limited, h.bounded⟩

section Alike

variable {scope : String} {done : List String} {s t : Engine X} {n : Nat}

theorem Alike.made (h : Alike kind scope done s.rebuilt t.rebuilt) : t.made ≤ s.made := by
  obtain ⟨_, _, -, -, hresembles⟩ := h
  exact hresembles.made

theorem Stance.countingFrom (h : s.rebuilt.Stance kind done records) (hle : s.made ≤ n) :
    (s.countingFrom n).rebuilt.Stance kind done records :=
  ⟨h.store, h.tidy.mono hle, h.graphs, h.unwritable,
    h.orderly.of_after hle fun r hr => ⟨r, hr, rfl⟩⟩

theorem Alike.countingFrom_first (h : Alike kind scope done s.rebuilt t.rebuilt) (hle : s.made ≤ n) :
    Alike kind scope done (s.countingFrom n).rebuilt t.rebuilt := by
  obtain ⟨records, records', hs, ht, hshare, hconversations, hsettings, hregistry, hmade⟩ := h
  exact ⟨records, records', hs.countingFrom hle, ht, hshare, hconversations, hsettings, hregistry,
    Nat.le_trans hmade hle⟩

theorem Alike.countingFrom_both (h : Alike kind scope done s.rebuilt t.rebuilt) (hle : s.made ≤ n)
    (hle' : t.made ≤ n) :
    Alike kind scope done (s.countingFrom n).rebuilt (t.countingFrom n).rebuilt := by
  obtain ⟨records, records', hs, ht, hshare, hconversations, hsettings, hregistry, -⟩ := h
  exact ⟨records, records', hs.countingFrom hle, ht.countingFrom hle', hshare, hconversations,
    hsettings, hregistry, Nat.le_refl _⟩

end Alike

/-- The scope has the routine. -/
def HasRoutine (engine : Engine X) (scope id : String) : Prop :=
  ∃ r, engine.store.answer? id = some r ∧ r.scope = scope

/-- The scope has a routine with a conversation of the name. -/
def HasConversation (engine : Engine X) (scope id : String) : Prop :=
  ∃ c, engine.table.find? id = some c ∧ engine.HasRoutine scope c.routine

theorem Keeps.routine_apart (h : engine.Keeps kind records) {scope id : String}
    (hapart : ¬ engine.HasRoutine scope id) :
    (routine id (some scope)).perform engine = (.error (.noRoutine id), engine) := by
  refine perform_routine_apart h.store h.chronicled.readable fun r hfound hscope =>
    hapart ⟨r, ?_, hscope⟩
  rw [Store.answer?, h.store, Store.perform_routine? h.chronicled.readable]
  exact hfound

end Engine

namespace Http

open Engine (Stance Resembles Alike Faithful outlook)

namespace Call

/-- The routine a call names. -/
def routine? : Call → Option String
  | .routine id | .setStatus id _ | .setDefinition id _ _ | .rollback id _ _ | .versions id
  | .audit id _ | .start id _ => some id
  | _ => none

/-- The conversation a call names. -/
def conversation? : Call → Option String
  | .conversation id | .resume id _ => some id
  | _ => none

variable {engine : Engine Empty} {kind : StoreKind} {records : Memory} {scope id : String}

theorem perform_run_noRoutine (h : engine.Keeps kind records) {call : Call}
    (hnames : call.routine? = some id) (hapart : ¬ engine.HasRoutine scope id) :
    (call.run scope).perform engine = (.ok (.error (noRoutine id)), engine) := by
  have hrefused := h.routine_apart hapart
  cases call with
  | templates | dispatch | instantiate | listRoutines | conversation | resume => cases hnames
  | _ =>
      cases hnames
      exact perform_routine_refused hrefused _

theorem perform_run_noConversation (h : engine.Keeps kind records) {call : Call}
    (hnames : call.conversation? = some id) (hapart : ¬ engine.HasConversation scope id) :
    (call.run scope).perform engine = (.ok (.error (noConversation id)), engine) := by
  have hrefused (c : Conversation) (hc : engine.table.find? id = some c) :
      (Engine.routine c.routine (some scope)).perform engine =
        (.error (.noRoutine c.routine), engine) :=
    h.routine_apart fun hhas => hapart ⟨c, hc, hhas⟩
  cases call with
  | conversation => cases hnames; exact perform_tracked_refused hrefused _
  | resume => cases hnames; exact perform_tracked_refused hrefused _
  | _ => cases hnames

/-- A call on an engine and on the engine without its graphs. -/
theorem perform_run_rebuilt {limit : Nat} (h : engine.Faithful kind limit records) (scope : String)
    (call : Call) :
    (call.run scope).perform engine.rebuilt =
        (((call.run scope).perform engine).1, ((call.run scope).perform engine).2.rebuilt) ∧
      ∃ after, ((call.run scope).perform engine).2.Faithful kind limit after := by
  obtain ⟨hsame, hafter, after, hfaithful, -⟩ :=
    blind_run scope call engine engine.rebuilt ⟨rfl, records, h, nofun⟩
  exact ⟨Prod.ext hsame.symm hafter, after, hfaithful⟩

section Alike

variable {limit : Nat} {done : List String} {records' : Memory} {s t : Engine Empty}

/-- A call of the scope ends alike on engines that look alike to it, and they look alike
afterwards. -/
theorem alike_run_own (hs : s.Faithful kind limit records) (ht : t.Faithful kind limit records')
    (h : Alike kind scope done s.rebuilt t.rebuilt) (hmade : s.made = t.made) (call : Call)
    (hcounts : ((call.run scope).perform s).2.table.Counts done) :
    ((call.run scope).perform s).1 = ((call.run scope).perform t).1 ∧
      Alike kind scope done ((call.run scope).perform s).2.rebuilt
        ((call.run scope).perform t).2.rebuilt := by
  obtain ⟨seen, seen', hstance, hstance', hresembles⟩ := h
  have hmatched : (outlook kind scope seen seen' s.rebuilt t.rebuilt).Matched := by
    refine ⟨?_, hstance.orderly.distinct, hstance'.orderly.distinct⟩
    exact hresembles.conversations.trans (by rw [hresembles.belongs]; rfl)
  have hleads : Operation.Leads _ _ (call.run scope) := leads_run hmatched call
  obtain ⟨hsame, hsettled⟩ := hleads _ _ (hresembles.sees hstance hstance' hmade)
  rw [(perform_run_rebuilt hs scope call).1, (perform_run_rebuilt ht scope call).1] at hsame hsettled
  exact ⟨hsame, hresembles.after_own hstance hstance' hmade hsettled hcounts⟩

/-- A call of another scope leaves the engine looking as it did to the scope. -/
theorem alike_run_other (hs : s.Faithful kind limit records)
    (h : Alike kind scope done s.rebuilt t.rebuilt) {other : String} (hne : scope ≠ other)
    (call : Call) (hcounts : ((call.run other).perform s).2.table.Counts done) :
    Alike kind scope done ((call.run other).perform s).2.rebuilt t.rebuilt := by
  obtain ⟨seen, seen', hstance, hstance', hresembles⟩ := h
  have hmatched : (outlook kind other seen seen s.rebuilt s.rebuilt).Matched :=
    ⟨rfl, hstance.orderly.distinct, hstance.orderly.distinct⟩
  have hleads : Operation.Leads _ _ (call.run other) := leads_run hmatched call
  obtain ⟨-, hsettled⟩ := hleads _ _ ((Resembles.refl other seen s.rebuilt).sees hstance hstance rfl)
  rw [(perform_run_rebuilt hs other call).1] at hsettled
  exact hresembles.after_other hstance hstance' hne hsettled hcounts

end Alike

end Call

namespace Service

variable {kind : StoreKind} {limit : Nat} {scope : String} {done : List String}
variable {first second : Service} {arrival : Arrival} {arrivals : List Arrival}

/-- The two services look alike to the scope. -/
def Agree (kind : StoreKind) (limit : Nat) (scope : String) (done : List String)
    (first second : Service) : Prop :=
  ∃ settings s t, first = ⟨settings, some s⟩ ∧ second = ⟨settings, some t⟩ ∧
    (∃ records, s.Faithful kind limit records) ∧ (∃ records, t.Faithful kind limit records) ∧
    Alike kind scope done s.rebuilt t.rebuilt

/-- The conversations that are completed are among those that are counted. -/
theorem counts_of_finished {settings : Settings} {engine : Engine Empty}
    (h : (⟨settings, some engine⟩ : Service).finished ⊆ done) : engine.table.Counts done := by
  intro c hc hcompleted
  exact h (List.mem_map_of_mem (List.mem_filter.mpr ⟨hc, decide_eq_true hcompleted⟩))

theorem meet_eq (settings : Settings) (engine : Engine Empty) (arrival : Arrival) :
    (⟨settings, some engine⟩ : Service).meet arrival =
      (⟨settings, some (engine.countingFrom arrival.number)⟩ : Service).respond arrival.request :=
  rfl

variable (hnumber : ∀ engine, first.engine = some engine → engine.made ≤ arrival.number)
  (hdone : (first.meet arrival).2.finished ⊆ done)

include hnumber hdone

/-- An arrival of the scope is answered alike by both services, and they look alike afterwards. -/
theorem Agree.meet_own (h : Agree kind limit scope done first second)
    (hconcerns : arrival.concerns scope) :
    (first.meet arrival).1 = (second.meet arrival).1 ∧
      Agree kind limit scope done (first.meet arrival).2 (second.meet arrival).2 := by
  obtain ⟨settings, s, t, rfl, rfl, ⟨records, hs⟩, ⟨records', ht⟩, halike⟩ := h
  have hle := hnumber s rfl
  have hle' : t.made ≤ arrival.number := Nat.le_trans halike.made hle
  replace halike := halike.countingFrom_both hle hle'
  replace hs := hs.countingFrom hle
  replace ht := ht.countingFrom hle'
  rw [meet_eq] at hdone
  rw [meet_eq, meet_eq]
  cases (reacts_respond settings arrival.request).of_all hconcerns with
  | stands answer same =>
      rw [same, same]
      exact ⟨rfl, settings, _, _, rfl, rfl, ⟨records, hs⟩, ⟨records', ht⟩, halike⟩
  | carries call finish _ same =>
      rw [same] at hdone
      rw [same, same]
      obtain ⟨hsame, hafter⟩ := Call.alike_run_own hs ht halike rfl call (counts_of_finished hdone)
      exact ⟨congrArg finish hsame, settings, _, _, rfl, rfl,
        (Call.perform_run_rebuilt hs scope call).2, (Call.perform_run_rebuilt ht scope call).2, hafter⟩

/-- After an arrival of another scope at the first service they still look alike. -/
theorem Agree.meet_other (h : Agree kind limit scope done first second)
    (hconcerns : ¬ arrival.concerns scope) :
    Agree kind limit scope done (first.meet arrival).2 second := by
  obtain ⟨other, hother, hne⟩ : ∃ other, arrival.request.scope? = some other ∧ scope ≠ other := by
    rw [Arrival.concerns] at hconcerns
    cases hgiven : arrival.request.scope? with
    | none =>
        rw [hgiven] at hconcerns
        exact absurd rfl hconcerns
    | some other =>
        rw [hgiven] at hconcerns
        exact ⟨other, rfl, fun heq => hconcerns (by simp [heq])⟩
  obtain ⟨settings, s, t, rfl, rfl, ⟨records, hs⟩, hsecond, halike⟩ := h
  have hle := hnumber s rfl
  replace halike := halike.countingFrom_first hle
  replace hs := hs.countingFrom hle
  rw [meet_eq] at hdone ⊢
  cases reacts_respond settings arrival.request with
  | stands answer same =>
      rw [same]
      exact ⟨settings, _, _, rfl, rfl, ⟨records, hs⟩, hsecond, halike⟩
  | carries call finish _ same =>
      rw [same, hother] at hdone
      rw [same, hother]
      exact ⟨settings, _, _, rfl, rfl, (Call.perform_run_rebuilt hs other call).2, hsecond,
        Call.alike_run_other hs halike hne call (counts_of_finished hdone)⟩

omit hnumber hdone

theorem finished_subset (service : Service) (arrivals : List Arrival) :
    service.finished ⊆ service.finishedDuring arrivals := by
  cases arrivals with
  | nil => exact List.Subset.refl _
  | cons arrival rest => exact List.subset_append_left _ _

/-- The induction is on the arrivals: the first service meets them all, and the second one those of
the scope. -/
theorem Agree.answers (h : Agree kind limit scope done first second)
    (hnumbers : first.CountsOn arrivals) (hdone : first.finishedDuring arrivals ⊆ done) :
    ((first.answers arrivals).filter fun met => met.1.concerns scope) =
      second.answers (arrivals.filter (·.concerns scope)) := by
  induction arrivals generalizing first second with
  | nil => rfl
  | cons arrival rest ih =>
      obtain ⟨hnumber, hnumbers⟩ := hnumbers
      have hrest := List.append_subset.mp hdone |>.2
      have hnow := List.Subset.trans (finished_subset _ rest) hrest
      rw [Service.answers, List.filter_cons, List.filter_cons]
      by_cases hconcerns : arrival.concerns scope = true
      · obtain ⟨hsame, hafter⟩ := h.meet_own hnumber hnow hconcerns
        rw [if_pos hconcerns, if_pos hconcerns, ih hafter hnumbers hrest, Service.answers, hsame]
      · rw [if_neg hconcerns, if_neg hconcerns]
        exact ih (h.meet_other hnumber hnow hconcerns) hnumbers hrest

/-- Whatever has arrived, there is a service that looks alike. -/
theorem Agree.after {before rest : List Arrival} (h : Agree kind limit scope done first second)
    (hnumbers : first.CountsOn (before ++ rest))
    (hdone : first.finishedDuring (before ++ rest) ⊆ done) :
    ∃ second, Agree kind limit scope done (first.after before) second := by
  induction before generalizing first second with
  | nil => exact ⟨second, h⟩
  | cons arrival before ih =>
      obtain ⟨hnumber, hnumbers⟩ := hnumbers
      have hrest := List.append_subset.mp hdone |>.2
      have hnow := List.Subset.trans (finished_subset _ (before ++ rest)) hrest
      by_cases hconcerns : arrival.concerns scope = true
      · exact ih (h.meet_own hnumber hnow hconcerns).2 hnumbers hrest
      · exact ih (h.meet_other hnumber hnow hconcerns) hnumbers hrest

/-- A new engine looks to every scope like itself. -/
theorem agree_of_new {service : Service} {engine : Engine Empty}
    (hengine : service.engine = some engine) (hnew : engine.New kind)
    (hroom : done.length ≤ engine.table.limit) (scope : String) :
    Agree kind engine.graphs.limit scope done service service := by
  obtain ⟨settings, _⟩ := service
  cases hengine
  obtain ⟨records, hstance⟩ := hnew.stance hroom
  exact ⟨settings, engine, engine, rfl, rfl, hnew.faithful, hnew.faithful, records, records, hstance,
    hstance, .refl scope records _⟩

/-- Scopes do not see or affect each other. Start with an engine that has no routines, let any
requests arrive with any scopes, and let no more conversations be completed than the engine keeps.
The arrivals of a scope are then answered as if those of all other scopes were left out; requests that
come one after the other are such arrivals. At any moment a call that names a routine or a
conversation which the scope does not have is answered alike whether another scope has it or nobody,
and nothing is done. -/
theorem scopes_apart (service : Service) (engine : Engine Empty)
    (hengine : service.engine = some engine) (hnew : engine.New kind) (scope : String)
    (arrivals : List Arrival) (hnumbers : service.CountsOn arrivals)
    (hroom : (service.finishedDuring arrivals).dedup.length ≤ engine.table.limit) :
    ((service.answers arrivals).filter fun met => met.1.concerns scope) =
        service.answers (arrivals.filter (·.concerns scope)) ∧
      (∀ requests, service.CountsOn (service.visits requests) ∧
        (service.answers (service.visits requests)).map (·.2) = service.respondEach requests) ∧
      ∀ before, before <+: arrivals → ∀ reached, (service.after before).engine = some reached →
        ∀ call id,
          (Call.routine? call = some id → ¬ reached.HasRoutine scope id →
            (service.after before).carryOut reached scope call =
              (.ok (Call.noRoutine id), service.after before)) ∧
          (Call.conversation? call = some id → ¬ reached.HasConversation scope id →
            (service.after before).carryOut reached scope call =
              (.ok (Call.noConversation id), service.after before)) := by
  have hagree := agree_of_new hengine hnew hroom scope
  have hdone := List.subset_dedup (service.finishedDuring arrivals)
  refine ⟨hagree.answers hnumbers hdone, fun requests =>
    ⟨countsOn_visits service requests, answers_visits service requests⟩, ?_⟩
  rintro before ⟨rest, rfl⟩ reached hreached call id
  obtain ⟨_, settings, s, t, hfirst, -, ⟨records, hfaithful⟩, -, -⟩ := hagree.after hnumbers hdone
  rw [hfirst] at hreached ⊢
  cases hreached
  refine ⟨fun hnames hapart => ?_, fun hnames hapart => ?_⟩
  · rw [carryOut_eq, Call.perform_run_noRoutine hfaithful.keeps hnames hapart]
    rfl
  · rw [carryOut_eq, Call.perform_run_noConversation hfaithful.keeps hnames hapart]
    rfl

/-- One scope completes a conversation with its routine, and another one asks for the conversation.
The answers to the first are those to its requests alone. -/
theorem scopes_apart_by_turns :
    let definition : Definition :=
      { steps := [{ id := "go", type := "trigger", key := some "k" }], edges := [] }
    let template : Template := { id := "t", key := "k", name := "n", definition }
    let engine : Engine Empty :=
      { settings := {}, store := .memory { templates := [template] }, graphs := { limit := 1 }
        table := { limit := 1 } }
    let service : Service := { settings := {}, engine := some engine }
    let request (scope method target body : String) : Request :=
      { method, target, headers := [("X-Scope-Id", scope)], body }
    let arrivals := service.visits
      [request "a" "POST" "/v1/routines" "\x7b\"template_key\": \"k\"\x7d",
        request "a" "POST" "/v1/conversations"
          "\x7b\"routine_id\": \"00000000-0000-4000-8000-000000000001\"\x7d",
        request "b " "GET" "/v1/conversations/00000000-0000-4000-8000-000000000002" ""]
    ((service.answers arrivals).filter fun met => met.1.concerns "a") =
      service.answers (arrivals.filter (·.concerns "a")) := by
  intro definition template engine service request arrivals
  have hnew : engine.New .memory := ⟨⟨[template], rfl⟩, rfl, rfl, rfl, rfl⟩
  have hroom : (service.finishedDuring arrivals).dedup.length ≤ engine.table.limit := by
    decide +kernel
  exact (scopes_apart service engine rfl hnew "a" arrivals (countsOn_visits service _) hroom).1

end Service

end Http

end Workflow
