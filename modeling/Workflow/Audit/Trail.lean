import Workflow.Execution.Result
import Workflow.Moment

/-!
# The audit trail

Every result of a step is kept with the routine and the run it belongs to. Entries are never
changed. A trail keeps the latest entries in the order in which they came, and when it is full the
oldest entry makes room. A long list is read in pages, given by how many items to show and how many
to pass over; a negative number counts from the end of the list.
-/

namespace Workflow

/-- One kept result. -/
structure Entry where
  id : String
  routine : String
  execution : String
  step : String
  /-- The name people saw for the step. -/
  label : String := ""
  result : StepResult
  deriving DecidableEq, Repr

namespace Entry

/-- The entry for the result of a step. -/
def ofResult (id routine execution : String) (step : Step) (result : StepResult) : Entry :=
  { id, routine, execution, step := step.id, label := step.displayName, result }

/-- Read an entry; `fresh` is the id of one without an id. -/
def decode (fresh : String) : Decoder Entry :=
  Shape.record "AuditEntry" fun fields =>
    (fun id routine execution step label result _ =>
        Entry.mk id routine execution step label result)
      <$> Shape.withDefault "id" Shape.text fresh fields
      <*> Shape.required "routine_id" Shape.text fields
      <*> Shape.required "execution_id" Shape.text fields
      <*> Shape.required "step_id" Shape.text fields
      <*> Shape.withDefault "step_label" Shape.text "" fields
      <*> Shape.required "result" StepResult.decode fields
      <*> Shape.withDefault "recorded_at" Moment.decode default fields

/-- An entry as a value. -/
def encode (entry : Entry) : Value :=
  .object [("id", .text entry.id), ("routine_id", .text entry.routine),
    ("execution_id", .text entry.execution), ("step_id", .text entry.step),
    ("step_label", .text entry.label), ("result", entry.result.encode)]

end Entry

/-- A part of a list. -/
structure Page where
  limit : Int := 100
  offset : Int := 0
  deriving DecidableEq, Repr

namespace Page

/-- The place in a list of a given length that a number stands for. -/
def place (length : Nat) (n : Int) : Nat :=
  if n < 0 then (n + length).toNat else min n.toNat length

/-- The items of a page. -/
def take {α : Type} (page : Page) (items : List α) : List α :=
  let start := place items.length page.offset
  let stop := place items.length (page.offset + page.limit)
  (items.drop start).take (stop - start)

/-- The items of a page of rows. Here a negative limit does not bind and a negative offset passes
nothing over. -/
def takeRows {α : Type} (page : Page) (rows : List α) : List α :=
  let rest := rows.drop page.offset.toNat
  if page.limit < 0 then rest else rest.take page.limit.toNat

theorem takeRows_map {α β : Type} (page : Page) (f : α → β) (rows : List α) :
    page.takeRows (rows.map f) = (page.takeRows rows).map f := by
  simp only [takeRows, ← List.map_drop, ← List.map_take]
  split <;> rfl

theorem take_eq_takeRows {α : Type} (page : Page) (items : List α) (hlimit : 0 ≤ page.limit)
    (hoffset : 0 ≤ page.offset) : page.take items = page.takeRows items := by
  have hl : ¬ page.limit < 0 := by omega
  have ho : ¬ page.offset < 0 := by omega
  have hs : ¬ page.offset + page.limit < 0 := by omega
  simp only [take, takeRows, place, hl, ho, hs, if_false]
  have hsum : (page.offset + page.limit).toNat = page.offset.toNat + page.limit.toNat := by omega
  rw [hsum]
  generalize page.offset.toNat = o
  generalize page.limit.toNat = l
  by_cases h : o ≤ items.length
  · rw [Nat.min_eq_left h]
    by_cases h' : o + l ≤ items.length
    · rw [Nat.min_eq_left h', Nat.add_sub_cancel_left]
    · rw [Nat.min_eq_right (by omega), List.take_of_length_le (by simp),
        List.take_of_length_le (by simp; omega)]
  · have hdrop : items.drop o = [] := List.drop_of_length_le (by omega)
    have hmin : min o items.length = items.length := Nat.min_eq_right (by omega)
    simp [hdrop, hmin]

end Page

/-- The latest entries, oldest first. -/
structure Trail where
  entries : Array Entry := #[]
  deriving Repr

namespace Trail

/-- How many entries a trail keeps. -/
def capacity : Nat := 10000

/-- Add an entry at the end. -/
def append (trail : Trail) (entry : Entry) : Trail :=
  let all := trail.entries.push entry
  if capacity < all.size then ⟨all.extract (all.size - capacity) all.size⟩ else ⟨all⟩

/-- The number of entries. -/
def size (trail : Trail) : Nat := trail.entries.size

/-- The entries of a routine. -/
def ofRoutine (trail : Trail) (routine : String) (page : Page) : List Entry :=
  page.take (trail.entries.toList.filter fun entry => entry.routine = routine)

/-- The entries of a run. -/
def ofExecution (trail : Trail) (execution : String) : List Entry :=
  trail.entries.toList.filter fun entry => entry.execution = execution

end Trail

end Workflow
