import Mathlib.Data.List.Nodup
import Workflow.Proofs.Blind
import Workflow.Proofs.Dispatch.Steady
import Workflow.Proofs.Lifecycle.History

/-!
# Graphs at hand and graphs built anew

An engine that has room for no graph builds each graph anew from the definition of the routine.
`Engine.Rebuilt` relates an engine to itself without the graphs it has at hand, provided that each of
these is the graph of the definition that is recorded for its version. A version is recorded once
and for all, so nothing that only adds to the records can make a graph at hand a wrong one. Finding
the graph of a routine is then blind to the difference, and so is everything the library does for an
event.
-/

namespace Workflow

namespace Memory

/-- The definition is recorded under a version number of a routine. -/
def Records (records : Memory) (id : String) (version : Int) (d : Definition) : Prop :=
  ∃ s ∈ records.history id, s.version = version ∧ s.definition = d

variable {records records' : Memory} {id : String} {version : Int} {d d' : Definition}

theorem Records.of_extends (h : records.Records id version d) (hextends : records.Extends records') :
    records'.Records id version d := by
  obtain ⟨s, hs, hversion, hdefinition⟩ := h
  exact ⟨s, (hextends.history id).subset hs, hversion, hdefinition⟩

/-- No version number is used for two definitions. -/
theorem Records.unique {made : Nat} (hchronicled : Chronicled made records)
    (h : records.Records id version d) (h' : records.Records id version d') : d = d' := by
  obtain ⟨s, hs, hversion, rfl⟩ := h
  obtain ⟨s', hs', hversion', rfl⟩ := h'
  have hnodup : ((records.history id).map Snapshot.version).Nodup := by
    rw [hchronicled.contiguous id]
    exact (Snapshot.pairwise_numbers _).imp fun hlt => Int.ne_of_lt hlt
  rw [List.inj_on_of_nodup_map hnodup hs hs' (hversion.trans hversion'.symm)]

theorem Chronicled.mono {made made' : Nat} (h : Chronicled made records) (hle : made ≤ made') :
    Chronicled made' records := by
  refine ⟨fun r hr => ?_, h.owned, h.contiguous, h.current⟩
  obtain ⟨n, hn, hname⟩ := h.named r hr
  exact ⟨n, Nat.lt_of_lt_of_le hn hle, hname⟩

end Memory

namespace Engine

variable {X α β : Type} {kind : StoreKind} {limit : Nat} {records : Memory} {engine : Engine X}

/-- The engine without the graphs it has at hand, and without room for any. -/
def rebuilt (engine : Engine X) : Engine X := { engine with graphs := { limit := 0 } }

/-- Every graph at hand is that of the definition recorded for its version, and there are no more of
them than the limit says. -/
structure Faithful (kind : StoreKind) (limit : Nat) (records : Memory) (engine : Engine X) :
    Prop where
  keeps : engine.Keeps kind records
  rules : ∀ entry ∈ engine.graphs.kept, entry.graph.rules = Engine.rules engine.settings
  recorded : ∀ entry ∈ engine.graphs.kept,
    records.Records entry.routine entry.version entry.graph.definition
  limited : engine.graphs.limit = limit
  bounded : engine.graphs.kept.length ≤ limit

/-- The second engine is the first one without its graphs, which are faithful ones. The definitions
of the listed routines are recorded under their version numbers. -/
def Rebuilt (kind : StoreKind) (limit : Nat) (listed : List Routine) (engine engine' : Engine X) :
    Prop :=
  engine' = engine.rebuilt ∧ ∃ records, engine.Faithful kind limit records ∧
    ∀ r ∈ listed, records.Records r.id r.version r.definition

/-- The graphs at hand and the settings stay. -/
structure Stays (engine engine' : Engine X) : Prop where
  graphs : engine'.graphs = engine.graphs
  settings : engine'.settings = engine.settings

/-- Nothing that is recorded is taken back, and the graphs at hand and the settings stay. -/
structure Tends (kind : StoreKind) (engine engine' : Engine X) : Prop extends
    Stays engine engine' where
  keeps : ∀ records, engine.Keeps kind records →
    ∃ records', engine'.Keeps kind records' ∧ records.Extends records'

instance : IsPreorder (Engine X) Stays where
  refl _ := ⟨rfl, rfl⟩
  trans _ _ _ first rest :=
    ⟨rest.graphs.trans first.graphs, rest.settings.trans first.settings⟩

instance : IsPreorder (Engine X) (Tends kind) where
  refl engine := ⟨⟨rfl, rfl⟩, fun records h => ⟨records, h, .refl records⟩⟩
  trans _ _ _ first rest := by
    refine ⟨trans_of Stays first.toStays rest.toStays, fun records h => ?_⟩
    obtain ⟨between, hbetween, hfirst⟩ := first.keeps records h
    obtain ⟨after, hafter, hrest⟩ := rest.keeps between hbetween
    exact ⟨after, hafter, hfirst.trans hrest⟩

/-- The work does not look at the graphs at hand, and does to the engine only what `T` says. -/
structure Aside (T : Engine X → Engine X → Prop) (operation : Work X α) : Prop where
  framed : ∀ engine graphs, operation.perform { engine with graphs } =
    ((operation.perform engine).1, { (operation.perform engine).2 with graphs })
  tends : Operation.Respects T operation

namespace Aside

section Closure

variable {T : Engine X → Engine X → Prop} [IsPreorder (Engine X) T]

theorem pure (a : α) : Aside T (pure a : Work X α) := ⟨fun _ _ => rfl, .pure a⟩

theorem fail (fault : Fault) : Aside T (Operation.fail fault : Work X α) :=
  ⟨fun _ _ => rfl, .fail fault⟩

theorem ofExcept (outcome : Except Fault α) :
    Aside T (Operation.ofExcept outcome : Work X α) :=
  ⟨fun _ _ => rfl, .ofExcept outcome⟩

theorem bind {operation : Work X α} {f : α → Work X β} (first : Aside T operation)
    (rest : ∀ a, Aside T (f a)) : Aside T (operation >>= f) := by
  refine ⟨fun engine graphs => ?_, .bind first.tends fun a => (rest a).tends⟩
  rw [Operation.perform_bind, Operation.perform_bind, first.framed]
  rcases operation.perform engine with ⟨fault | a, engine'⟩
  · rfl
  · exact (rest a).framed engine' graphs

omit [IsPreorder (Engine X) T] in
theorem map {operation : Work X α} (f : α → β) (h : Aside T operation) :
    Aside T (f <$> operation) := by
  refine ⟨fun engine graphs => ?_, .map f h.tends⟩
  rw [Operation.perform_map, Operation.perform_map, h.framed]

omit [IsPreorder (Engine X) T] in
theorem attempt {operation : Work X α} (h : Aside T operation) : Aside T operation.attempt := by
  refine ⟨fun engine graphs => ?_, h.tends⟩
  rw [Operation.perform_attempt, Operation.perform_attempt, h.framed]

omit [IsPreorder (Engine X) T] in
theorem ite {c : Prop} [Decidable c] {yes no : Work X α} (hyes : c → Aside T yes)
    (hno : ¬ c → Aside T no) : Aside T (if c then yes else no) := by
  split
  · exact hyes ‹_›
  · exact hno ‹_›

/-- Looking at another part of the engine. -/
theorem reading {f : Engine X → Work X α}
    (hsame : ∀ (engine : Engine X) graphs, f { engine with graphs } = f engine)
    (hf : ∀ engine, Aside T (f engine)) : Aside T (get >>= f) := by
  refine ⟨fun engine graphs => ?_, .bind .get fun engine => (hf engine).tends⟩
  have hread (engine : Engine X) : (get >>= f).perform engine = (f engine).perform engine :=
    Operation.perform_bind_ok (Operation.perform_get engine)
  rw [hread, hread, hsame, (hf engine).framed]

end Closure

/-- Work that has nothing to do with the graphs at hand is blind to them. -/
theorem blind {operation : Work X α} (h : Aside (Tends kind) operation) (listed : List Routine) :
    Operation.Blind (Rebuilt kind limit listed) operation := by
  rintro engine _ ⟨rfl, records, hfaithful, hlisted⟩
  have htends := h.tends engine
  obtain ⟨records', hkeeps, hextends⟩ := htends.keeps records hfaithful.keeps
  have hframed : operation.perform engine.rebuilt =
      ((operation.perform engine).1, (operation.perform engine).2.rebuilt) := h.framed engine _
  rw [hframed]
  refine ⟨rfl, rfl, records', ⟨hkeeps, ?_, ?_, ?_, ?_⟩,
    fun r hr => (hlisted r hr).of_extends hextends⟩
  · rw [htends.graphs, htends.settings]
    exact hfaithful.rules
  · rw [htends.graphs]
    exact fun entry hentry => (hfaithful.recorded entry hentry).of_extends hextends
  · rw [htends.graphs]
    exact hfaithful.limited
  · rw [htends.graphs]
    exact hfaithful.bounded

end Aside

section Primitive

theorem Keeps.of_made (h : engine.Keeps kind records) {engine' : Engine X}
    (hstore : engine'.store = engine.store) (hmade : engine.made ≤ engine'.made) :
    engine'.Keeps kind records :=
  ⟨hstore.trans h.store, h.chronicled.mono hmade⟩

/-- Changing neither records nor graphs nor settings. -/
theorem Tends.of_same {engine' : Engine X} (hgraphs : engine'.graphs = engine.graphs)
    (hsettings : engine'.settings = engine.settings) (hstore : engine'.store = engine.store)
    (hmade : engine.made ≤ engine'.made) : Tends kind engine engine' :=
  ⟨⟨hgraphs, hsettings⟩, fun records h => ⟨records, h.of_made hstore hmade, .refl records⟩⟩

theorem aside_count : Aside (Tends kind) (count : Work X Nat) :=
  ⟨fun _ _ => rfl, fun engine => .of_same rfl rfl rfl (Nat.le_succ engine.made)⟩

theorem aside_fresh : Aside (Tends kind) (fresh : Work X String) := .map _ aside_count

theorem aside_notify (notice : Notice) : Aside (Tends kind) (notify notice : Work X Unit) :=
  ⟨fun _ _ => rfl, fun engine => .of_same rfl rfl rfl (Nat.le_refl engine.made)⟩

theorem aside_send (mail : Mail) : Aside (Tends kind) (send mail : Work X Receipt) := by
  refine .bind ⟨fun _ _ => rfl, fun engine => ?_⟩ fun _ => .bind aside_count fun _ => .pure _
  exact .of_same rfl rfl rfl (Nat.le_refl engine.made)

theorem aside_check (d : Definition) : Aside (Tends kind) (check d : Work X Graph) :=
  ⟨fun _ _ => rfl, fun engine => .of_same rfl rfl rfl (Nat.le_refl engine.made)⟩

theorem framed_stored (work : Store.Work α) (engine : Engine X) (graphs : GraphCache) :
    (stored work).perform { engine with graphs } =
      (((stored work).perform engine).1, { ((stored work).perform engine).2 with graphs }) := rfl

/-- Asking the store. -/
theorem aside_stored {work : Store.Work α} (h : ∀ store, (work.perform store).2 = store) :
    Aside (Tends kind) (stored work : Work X α) := by
  refine ⟨framed_stored work, fun engine => .of_same rfl rfl ?_ (Nat.le_refl engine.made)⟩
  exact h engine.store

theorem aside_routine? (id : String) :
    Aside (Tends kind) (stored (Store.routine? id) : Work X (Option Routine)) :=
  aside_stored (Store.perform_ask_snd _ _)

theorem aside_appendEntry (entry : Entry) :
    Aside (Tends kind) (stored (Store.appendEntry entry) : Work X Unit) := by
  refine ⟨framed_stored _, fun engine => ⟨⟨rfl, rfl⟩, fun records h => ?_⟩⟩
  have hafter : ((stored (Store.appendEntry entry)).perform engine).2.store =
      ((Store.appendEntry entry).perform (kind.hold records)).2 := by
    rw [← h.store]
    rfl
  rcases @Store.perform_appendEntry_snd kind entry records with hsame | happended
  · exact ⟨records, ⟨hafter.trans hsame, h.chronicled⟩, .refl records⟩
  · obtain ⟨named, owned, contiguous, current⟩ := h.chronicled
    exact ⟨records.appendEntry entry, ⟨hafter.trans happended, named, owned, contiguous, current⟩,
      fun _ => List.prefix_rfl, fun _ r found => ⟨r, found, .refl r⟩⟩

theorem aside_audit (routine execution : String) (step : Step) (result : StepResult) :
    Aside (Tends kind) (audit routine execution step result : Work X Unit) := by
  refine .bind aside_fresh fun id => .bind ⟨fun _ _ => rfl, fun engine => ?_⟩ fun _ => ?_
  · exact .of_same rfl rfl rfl (Nat.le_refl engine.made)
  · refine .reading (fun _ _ => rfl) fun engine => ?_
    split
    · exact .fail _
    · exact aside_appendEntry _

theorem aside_auditResult (intent : Intent) (result : StepResult) :
    Aside (Tends kind) (auditResult intent result : Work X Unit) :=
  .bind (.attempt (aside_audit _ _ _ _)) fun _ => .pure _

end Primitive

end Engine

end Workflow
