import Mathlib.Data.List.DropRight
import Workflow.Proofs.Dispatch.Serving
import Workflow.Proofs.Dispatch.Tally

/-!
# Reading the audit back

A trail has the latest entries, as many as it keeps, in the order in which they came. A store in
memory has all of them. From either, the entries of a run are read at once and those of a routine
page after page, and whoever reads on finds each entry once and in its place. What is added to a
store between two pages comes after all that was there, so a page that was full stays as it was.
-/

namespace Workflow

namespace Page

variable {α : Type} {page : Page} {items : List α}

/-- The page with a number when each page has as many items. The first page has the number zero. -/
def numbered (size number : Nat) : Page := { limit := size, offset := (number * size : Nat) }

theorem take_of_nonneg (hlimit : 0 ≤ page.limit) (hoffset : 0 ≤ page.offset) (items : List α) :
    page.take items = (items.drop page.offset.toNat).take page.limit.toNat := by
  rw [take_eq_takeRows page items hlimit hoffset, takeRows, if_neg (Int.not_lt.mpr hlimit)]

theorem take_numbered (size number : Nat) (items : List α) :
    (numbered size number).take items = (items.drop (number * size)).take size :=
  take_of_nonneg (Int.natCast_nonneg size) (Int.natCast_nonneg _) items

/-- The items of the first pages, which are read one after the other. -/
def inTurn (read : Page → Except Fault (List α)) (size count : Nat) : Except Fault (List α) :=
  ((List.range count).mapM fun number => read (numbered size number)).map List.flatten

/-- Reading page after page gives the items, each once and in its place, until none is left. -/
def Through (read : Page → Except Fault (List α)) (items : List α) : Prop :=
  ∀ size, 1 ≤ size →
    (∀ count, inTurn read size count = .ok (items.take (count * size))) ∧
    ∃ enough, ∀ count, enough ≤ count → inTurn read size count = .ok items

theorem mapM_numbered {read : Page → Except Fault (List α)} {size : Nat}
    (h : ∀ number, read (numbered size number) = .ok ((numbered size number).take items))
    (numbers : List Nat) :
    numbers.mapM (fun number => read (numbered size number)) =
      .ok (numbers.map fun number => (numbered size number).take items) := by
  induction numbers with
  | nil => rfl
  | cons number rest ih =>
      rw [List.mapM_cons, h, ih]
      rfl

/-- One page after those before it. -/
theorem flatten_numbered (size count : Nat) (items : List α) :
    ((List.range count).map fun number => (numbered size number).take items).flatten =
      items.take (count * size) := by
  induction count with
  | zero => simp
  | succ count ih =>
      rw [List.range_succ, List.map_append, List.flatten_append, ih, Nat.succ_mul, List.take_add]
      simp [take_numbered]

theorem through_of_take {read : Page → Except Fault (List α)}
    (h : ∀ page : Page, 0 ≤ page.limit → 0 ≤ page.offset → read page = .ok (page.take items)) :
    Through read items := by
  intro size hsize
  have hbegun (count : Nat) : inTurn read size count = .ok (items.take (count * size)) := by
    have hpage (number : Nat) :
        read (numbered size number) = .ok ((numbered size number).take items) :=
      h _ (Int.natCast_nonneg size) (Int.natCast_nonneg _)
    rw [inTurn, mapM_numbered hpage, ← flatten_numbered]
    rfl
  refine ⟨hbegun, items.length, fun count hcount => ?_⟩
  have hall : items.length ≤ count * size := calc
    items.length ≤ count := hcount
    _ = count * 1 := (Nat.mul_one count).symm
    _ ≤ count * size := Nat.mul_le_mul_left count hsize
  rw [hbegun, List.take_of_length_le hall]

/-- A page that is full has nothing to do with what comes later. -/
theorem take_append_of_full (hlimit : 0 ≤ page.limit) (hoffset : 0 ≤ page.offset)
    (hfull : (page.take items).length = page.limit) (more : List α) :
    page.take (items ++ more) = page.take items := by
  rw [take_of_nonneg hlimit hoffset] at hfull ⊢
  rw [take_of_nonneg hlimit hoffset]
  simp only [List.length_take, List.length_drop] at hfull
  have hroom : page.limit.toNat ≤ items.length - page.offset.toNat := by omega
  by_cases hempty : page.limit.toNat = 0
  · rw [hempty, List.take_zero, List.take_zero]
  · have hinside : page.offset.toNat ≤ items.length := by omega
    rw [List.drop_append_of_le_length hinside, List.take_append_of_le_length]
    rwa [List.length_drop]

end Page

/-- There are no more last elements than elements. -/
theorem List.rtake_min_length {α : Type} (items : List α) (n : Nat) :
    items.rtake (min items.length n) = items.rtake n := by
  have hdropped : items.length - min items.length n = items.length - n := by omega
  rw [List.rtake, hdropped, List.rtake]

namespace Trail

variable {trail : Trail} {earlier : List Entry}

theorem toList_append (entry : Entry) (h : trail.entries.toList = earlier.rtake capacity) :
    (trail.append entry).entries.toList = (earlier ++ [entry]).rtake capacity := by
  rw [← List.rtake_rtake_append, ← h, append]
  split
  · rename_i hlong
    simp [List.rtake]
  · rename_i hshort
    have hfew : (trail.entries.toList ++ [entry]).length ≤ capacity := by
      simpa using hshort
    rw [Array.toList_push, List.rtake_eq_self hfew]

theorem toList_appendAll (entries : List Entry)
    (h : trail.entries.toList = earlier.rtake capacity) :
    (entries.foldl append trail).entries.toList = (earlier ++ entries).rtake capacity := by
  induction entries generalizing trail earlier with
  | nil => rwa [List.append_nil]
  | cons entry rest ih =>
      rw [List.foldl_cons, ih (toList_append entry h), List.append_assoc, List.singleton_append]

end Trail

/-- Everything that is kept is read back: the entries of a run at once, and those of a routine page
after page. -/
structure ReadsBack (kept : List Entry) (ofRoutine : String → Page → Except Fault (List Entry))
    (ofExecution : String → Except Fault (List Entry)) : Prop where
  executions : ∀ execution,
    ofExecution execution = .ok (kept.filter fun entry => entry.execution = execution)
  routines : ∀ routine,
    Page.Through (ofRoutine routine) (kept.filter fun entry => entry.routine = routine)

theorem Trail.readsBack (trail : Trail) :
    ReadsBack trail.entries.toList (fun routine page => .ok (trail.ofRoutine routine page))
      fun execution => .ok (trail.ofExecution execution) where
  executions _ := rfl
  routines _ := Page.through_of_take fun _ _ _ => rfl

/-- A result that is to be kept, with the routine, the run and the step it belongs to. -/
structure Finding where
  routine : String
  execution : String
  step : Step
  result : StepResult

namespace Engine

variable {X : Type} {engine : Engine X} {records : Memory}

/-- Keep results, one after the other. -/
def auditAll (findings : List Finding) : Work X Unit :=
  forM findings fun finding =>
    audit finding.routine finding.execution finding.step finding.result

/-- The entries for results, named by the numbers that come next. -/
def entriesFrom (made : Nat) (findings : List Finding) : List Entry :=
  (findings.zipIdx made).map fun (finding, number) =>
    .ofResult (Identifier.ofNumber number) finding.routine finding.execution finding.step
      finding.result

/-- A page of the entries that are kept of a routine. -/
def entriesOf (engine : Engine X) (routine : String) (page : Page) : Except Fault (List Entry) :=
  ((Store.entriesOf routine page).perform engine.store).1

theorem entriesOf_eq (hstore : engine.store = .memory records) (routine : String) (page : Page) :
    engine.entriesOf routine page = .ok (page.take (records.entriesOf routine)) := by
  rw [entriesOf, hstore]
  rfl

theorem readsBack_memory (hstore : engine.store = .memory records) :
    ReadsBack records.entries engine.entriesOf engine.entries where
  executions := by
    have hheld : engine.store = StoreKind.memory.hold records := hstore
    exact entries_eq hheld
  routines routine := Page.through_of_take fun page _ _ => entriesOf_eq hstore routine page

/-- What an engine on a store in memory has after results were kept. -/
def afterAudit (engine : Engine X) (records : Memory) (findings : List Finding) : Engine X :=
  let entries := entriesFrom engine.made findings
  { engine with
    made := engine.made + findings.length
    trail := entries.foldl Trail.append engine.trail
    store := .memory { records with entries := records.entries ++ entries } }

theorem perform_audit_memory (hstore : engine.store = .memory records)
    (hwritable : engine.unwritable = []) (finding : Finding) :
    (audit finding.routine finding.execution finding.step finding.result).perform engine =
      (.ok (), engine.afterAudit records [finding]) := by
  let entry := Entry.ofResult (Identifier.ofNumber engine.made) finding.routine finding.execution
    finding.step finding.result
  let told : Engine X :=
    { engine with made := engine.made + 1, trail := engine.trail.append entry }
  have hkept : (Store.appendEntry entry).perform (.memory records) =
      (.ok (), .memory (records.appendEntry entry)) := rfl
  have hstored : (stored (Store.appendEntry entry)).perform told =
      (.ok (), engine.afterAudit records [finding]) := perform_stored hstore hkept
  have hnone : Dict.get? engine.unwritable finding.routine = none := by
    rw [hwritable, Dict.get?_nil]
  rw [perform_audit, hnone]
  exact hstored

theorem perform_auditAll (hstore : engine.store = .memory records)
    (hwritable : engine.unwritable = []) (findings : List Finding) :
    (auditAll findings).perform engine = (.ok (), engine.afterAudit records findings) := by
  induction findings generalizing engine records with
  | nil =>
      simp only [afterAudit, entriesFrom, List.zipIdx_nil, List.map_nil, List.append_nil,
        List.foldl_nil, List.length_nil, Nat.add_zero, ← hstore]
      rfl
  | cons finding rest ih =>
      have hfirst := perform_audit_memory hstore hwritable finding
      have hrest : (auditAll rest).perform (engine.afterAudit records [finding]) = _ :=
        ih rfl hwritable
      rw [auditAll, List.forM_cons, Operation.perform_bind_ok hfirst]
      refine hrest.trans ?_
      simp [afterAudit, entriesFrom, Nat.add_comm, Nat.add_left_comm]

/-- The audit keeps what it is given. Alone it has the latest results, ten thousand at most, in the
order in which they came; on a store in memory it has all of them. Either way the entries of a run
are those that are kept, and the pages of a routine give those that are kept of it, whatever the
size of a page. A page of a store that was full is the same after more has been kept. -/
theorem audit_read_back :
    (∀ entries : List Entry,
      let trail := entries.foldl Trail.append {}
      let kept := entries.rtake (min entries.length 10000)
      trail.entries.toList = kept ∧ trail.size = min entries.length 10000 ∧
        ReadsBack kept (fun routine page => .ok (trail.ofRoutine routine page))
          fun execution => .ok (trail.ofExecution execution)) ∧
    ∀ (engine : Engine X) (records : Memory) (findings : List Finding),
      engine.store = .memory records → engine.unwritable = [] →
        ∃ engine', (auditAll findings).perform engine = (.ok (), engine') ∧
          let kept := records.entries ++ entriesFrom engine.made findings
          engine'.store = .memory { records with entries := kept } ∧
          engine'.unwritable = [] ∧ engine'.made = engine.made + findings.length ∧
          ReadsBack kept engine'.entriesOf engine'.entries ∧
          ∀ routine page shown, 0 ≤ page.limit → 0 ≤ page.offset →
            engine.entriesOf routine page = .ok shown → shown.length = page.limit →
              engine'.entriesOf routine page = .ok shown := by
  constructor
  · intro entries trail kept
    have hkept : trail.entries.toList = kept := by
      have hempty : ({} : Trail).entries.toList = ([] : List Entry).rtake Trail.capacity := rfl
      have hall := Trail.toList_appendAll entries hempty
      rw [List.nil_append] at hall
      rw [hall]
      exact (List.rtake_min_length entries Trail.capacity).symm
    have hsize : kept.length = min entries.length 10000 := by
      show (entries.drop _).length = _
      rw [List.length_drop]
      omega
    refine ⟨hkept, ?_, ?_⟩
    · rw [← hsize, ← hkept, Array.length_toList, Trail.size]
    · rw [← hkept]
      exact trail.readsBack
  · intro engine records findings hstore hwritable
    let entries := entriesFrom engine.made findings
    let later : Memory := { records with entries := records.entries ++ entries }
    have hlater : (engine.afterAudit records findings).store = .memory later := rfl
    refine ⟨_, perform_auditAll hstore hwritable findings, hlater, hwritable, rfl,
      readsBack_memory hlater, ?_⟩
    intro routine page shown hlimit hoffset hshown hfull
    rw [entriesOf_eq hstore] at hshown
    obtain rfl := Except.ok.inj hshown
    have hmore : later.entriesOf routine = records.entriesOf routine ++
        entries.filter fun entry => entry.routine = routine := List.filter_append _ _
    rw [entriesOf_eq hlater, hmore, Page.take_append_of_full hlimit hoffset hfull]

section Pages

/-- A tag was put on by a step of a routine. -/
def tagFinding (routine : String) : Finding where
  routine := routine
  execution := "x"
  step := { id := "a", type := "tag" }
  result := .completed { narrative := "Tag added: new." }

/-- The oldest of ten thousand and one entries is gone. On a store in memory a full page stays as it
is when one more result is kept, and this stands on the next page. -/
theorem audit_read_back_past_capacity :
    let old : Entry := .ofResult "0" "q" "x" (tagFinding "q").step (tagFinding "q").result
    let new : Entry := .ofResult "1" "r" "x" (tagFinding "r").step (tagFinding "r").result
    let start : Engine Empty := .ofSettings {} .inMemory
    let first := entriesFrom 0 [tagFinding "r", tagFinding "q", tagFinding "r"]
    ((old :: List.replicate 10000 new).foldl Trail.append {}).entries.toList =
        List.replicate 10000 new ∧
      start.store = .memory {} ∧ start.unwritable = [] ∧
      ∃ between after, (auditAll [tagFinding "r", tagFinding "q"]).perform start =
          (.ok (), between) ∧
        (auditAll [tagFinding "r"]).perform between = (.ok (), after) ∧
        between.entriesOf "r" (.numbered 1 0) = .ok (first.take 1) ∧
        after.entriesOf "r" (.numbered 1 0) = .ok (first.take 1) ∧
        Page.inTurn (after.entriesOf "r") 1 2 = .ok [first[0], first[2]] := by
  intro old new start first
  obtain ⟨halone, hstored⟩ := audit_read_back (X := Empty)
  have htrail := (halone (old :: List.replicate 10000 new)).1
  have hlength : (old :: List.replicate 10000 new).length = 10001 := by
    rw [List.length_cons, List.length_replicate]
  obtain ⟨between, hbetween, hstore, hwritable, hmade, -, -⟩ :=
    hstored start {} [tagFinding "r", tagFinding "q"] rfl rfl
  obtain ⟨after, hafter, -, -, -, hreads, hfull⟩ :=
    hstored between _ [tagFinding "r"] hstore hwritable
  have hpages := ((hreads.routines "r") 1 (Nat.le_refl 1)).1 2
  have hshown : between.entriesOf "r" (.numbered 1 0) = .ok (first.take 1) :=
    (entriesOf_eq hstore "r" (.numbered 1 0)).trans (by decide +kernel)
  refine ⟨?_, rfl, rfl, between, after, hbetween, hafter, hshown, ?_, ?_⟩
  · rw [htrail, hlength, List.rtake, hlength]
    rfl
  · exact hfull "r" (.numbered 1 0) _ (by decide) (by decide) hshown rfl
  · rw [hpages, hmade]
    decide +kernel

end Pages

end Engine

end Workflow
