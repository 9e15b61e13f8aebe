import Workflow.Proofs.Dispatch.Chain
import Workflow.Proofs.Dispatch.Discreet

/-!
# What a chain remembers

Every step of a chain has an intent of its own, made from the one before. `Engine.GetsTo` says which
intents a chain gets to, and which steps were carried out on the way. All of them belong to the run,
the scope and the payload of the first intent, and the memory has what the steps on the way gave out
under their keys. Whatever it has, and whatever came with the payload, the names `payload`,
`memory`, `routine_id` and `scope_id` mean the same to every placeholder.
-/

namespace Workflow

section Names

open Placeholder

variable {fields : Fields} {v : Value} {name path rest : String}

theorem partsOf_append {name : List Char} (h : '.' ∉ name) (rest : List Char) :
    partsOf (name ++ '.' :: rest) = name :: partsOf rest := by
  induction name with
  | nil => rfl
  | cons c name ih =>
      rw [List.mem_cons, not_or] at h
      rw [List.cons_append, partsOf.eq_3 c _ (fun hc => h.1 hc.symm), ih h.2]

/-- A path that is a name leads to what the name stands for. -/
theorem resolve_name (hname : name ≠ "") (hparts : parts name = [name])
    (h : Dict.get? fields name = some v) : resolve (.object fields) name = .ok (some v) := by
  rw [resolve, hparts, walk, if_neg hname, stepInto, h]
  rfl

/-- A path that begins with a name goes on from what the name stands for. -/
theorem resolve_under (hname : name ≠ "") (hplain : '.' ∉ name.toList)
    (hpath : path.toList = name.toList ++ '.' :: rest.toList)
    (h : Dict.get? fields name = some v) : resolve (.object fields) path = resolve v rest := by
  have hparts : parts path = name :: parts rest := by
    rw [parts, hpath, partsOf_append hplain, List.map_cons, String.ofList_toList, parts]
  rw [resolve, hparts, walk, if_neg hname, stepInto, h]
  rfl

/-- The names that are set over the payload and the memory mean what they should. -/
theorem Context.get?_bindings (context : Context) :
    Dict.get? context.bindings "payload" = some (.object context.payload) ∧
      Dict.get? context.bindings "memory" = some (.object context.memory) ∧
      Dict.get? context.bindings "routine_id" = some (.text context.routine) ∧
      Dict.get? context.bindings "scope_id" = some (.text context.scope) := by
  unfold bindings
  refine ⟨?_, ?_, ?_, Dict.get?_set_self _ _ _⟩
  · rw [Dict.get?_set_of_ne _ _ (by decide), Dict.get?_set_of_ne _ _ (by decide),
      Dict.get?_set_of_ne _ _ (by decide), Dict.get?_set_self]
  · rw [Dict.get?_set_of_ne _ _ (by decide), Dict.get?_set_of_ne _ _ (by decide),
      Dict.get?_set_self]
  · rw [Dict.get?_set_of_ne _ _ (by decide), Dict.get?_set_self]

end Names

namespace Engine

variable {X : Type} {perform : X → Context → Fields → Activity (Engine X) Returned}
variable {rely : Engine X → Engine X → Prop} {engine now engine' : Engine X}
variable {first current : Intent}
variable {done : List (Step × StepResult)} {fuel : Nat} {outcome : Except Fault (List StepResult)}

open Activity (Ends)

section Outputs

/-- What a step leaves in the memory: what it gave out, if it has a key and gave out anything. -/
def outputOf (step : Step) (result : StepResult) : Option (String × Value) :=
  match step.key, result.output with
  | some key, some output => if key = "" then none else some (key, .object output)
  | _, _ => none

/-- What the steps gave out that have a key, in their order. -/
def outputs (done : List (Step × StepResult)) : Fields :=
  done.filterMap fun carried => outputOf carried.1 carried.2

theorem outputs_concat (done : List (Step × StepResult)) (step : Step) (result : StepResult) :
    outputs (done ++ [(step, result)]) = outputs done ++ (outputOf step result).toList := by
  rw [outputs, List.filterMap_append, outputs]
  cases h : outputOf step result <;> simp [h]

theorem remember_eq (memory : Fields) (step : Step) (result : StepResult) :
    remember memory step result = Dict.merge memory (outputOf step result).toList := by
  unfold remember outputOf
  cases step.key with
  | none => rfl
  | some key =>
      cases result.output with
      | none => rfl
      | some output => by_cases hkey : key = "" <;> simp [hkey, Dict.merge]

end Outputs

section Reach

/-- The chain of an intent gets to another one after it has carried out some steps, each with a
result. -/
inductive GetsTo (perform : X → Context → Fields → Activity (Engine X) Returned)
    (rely : Engine X → Engine X → Prop) (first : Intent) (engine : Engine X) :
    List (Step × StepResult) → Intent → Engine X → Prop
  | start : GetsTo perform rely first engine [] first engine
  | next {done : List (Step × StepResult)} {current following : Intent}
      {now between later : Engine X} {result : StepResult}
      (reached : GetsTo perform rely first engine done current now)
      (run : Ends rely (runStep perform current) now (.ok result) between)
      (next : (nextIntent current result).perform between = (.ok (some following), later)) :
      GetsTo perform rely first engine (done ++ [(current.step, result)]) following later

/-- One step further, when nobody else acts. -/
theorem GetsTo.next_alone {following : Intent} {result : StepResult}
    (h : GetsTo perform Eq first engine done current now)
    (run : ((runStep perform current).run now).1 = .ok result)
    (next : ((nextIntent current result).perform ((runStep perform current).run now).2).1 =
      .ok (some following)) :
    GetsTo perform Eq first engine (done ++ [(current.step, result)]) following
      ((nextIntent current result).perform ((runStep perform current).run now).2).2 :=
  h.next (Activity.ends_eq_iff.mpr (Prod.fst_eq_iff.mp run)) (Prod.fst_eq_iff.mp next)

/-- An intent a chain gets to is the first one, apart from its step and from what the steps on the
way gave out. -/
theorem GetsTo.exists_eq (h : GetsTo perform rely first engine done current now) :
    ∃ step, current = { first with
      step
      context := { first.context with
        memory := Dict.merge first.context.memory (outputs done) } } := by
  induction h with
  | start => exact ⟨first.step, rfl⟩
  | @next done _ following _ _ _ result _ _ next ih =>
      obtain ⟨step, rfl⟩ := ih
      have hmemory : remember (Dict.merge first.context.memory (outputs done)) step result =
          Dict.merge first.context.memory (outputs (done ++ [(step, result)])) := by
        rw [outputs_concat, remember_eq, Dict.merge, Dict.merge, Dict.merge, List.foldl_append]
      exact ⟨following.step, (eq_of_nextIntent next).trans (by rw [Intent.onward, hmemory])⟩

/-- How a chain ends at an intent it gets to. -/
inductive EndsAt (perform : X → Context → Fields → Activity (Engine X) Returned)
    (rely : Engine X → Engine X → Prop) (allowance : Nat) (done : List (Step × StepResult))
    (last : Intent) (now : Engine X) : Except Fault (List StepResult) → Engine X → Prop
  /-- The step ends with a fault. -/
  | broken {fault : Fault} {engine' : Engine X}
      (run : Ends rely (runStep perform last) now (.error fault) engine') :
      EndsAt perform rely allowance done last now (.error fault) engine'
  /-- What comes after the step cannot be found out. -/
  | lost {fault : Fault} {result : StepResult} {between engine' : Engine X}
      (run : Ends rely (runStep perform last) now (.ok result) between)
      (next : (nextIntent last result).perform between = (.error fault, engine')) :
      EndsAt perform rely allowance done last now (.error fault) engine'
  /-- Nothing comes after the step. -/
  | last {result : StepResult} {between engine' : Engine X}
      (run : Ends rely (runStep perform last) now (.ok result) between)
      (next : (nextIntent last result).perform between = (.ok none, engine')) :
      EndsAt perform rely allowance done last now (.ok (done.map Prod.snd ++ [result])) engine'
  /-- The steps on the way used up the allowance. -/
  | exhausted (long : allowance ≤ done.length) :
      EndsAt perform rely allowance done last now (.error .exhausted) now

theorem EndsAt.cons {last : Intent}
    (h : EndsAt perform rely fuel done last now outcome engine') (step : Step)
    (result : StepResult) :
    EndsAt perform rely (fuel + 1) ((step, result) :: done) last now
      (outcome.map (result :: ·)) engine' := by
  cases h with
  | broken run => exact .broken run
  | lost run next => exact .lost run next
  | last run next => exact .last run next
  | exhausted long => exact .exhausted (Nat.succ_le_succ long)

/-- Whatever a chain does, it gets to an intent and ends there. -/
theorem GetsTo.exists_endsAt (h : GetsTo perform rely first engine done current now)
    (hends : Ends rely (runSteps perform fuel current) now outcome engine') :
    ∃ more last later, GetsTo perform rely first engine (done ++ more) last later ∧
      EndsAt perform rely fuel more last later outcome engine' := by
  induction fuel generalizing done current now outcome with
  | zero =>
      obtain ⟨rfl, rfl⟩ := Activity.ends_ended_iff.mp hends
      exact ⟨[], current, engine', by rwa [List.append_nil], .exhausted (Nat.le_refl 0)⟩
  | succ fuel ih =>
      have hhere : GetsTo perform rely first engine (done ++ []) current now := by
        rwa [List.append_nil]
      rcases ends_runSteps_cases hends with ⟨fault, rfl, run⟩ | ⟨result, between, run, hafter⟩
      · exact ⟨[], current, now, hhere, .broken run⟩
      rcases hafter with ⟨fault, rfl, next⟩ | ⟨rfl, next⟩ | ⟨following, _, _, next, hrest, rfl⟩
      · exact ⟨[], current, now, hhere, .lost run next⟩
      · exact ⟨[], current, now, hhere, .last run next⟩
      · obtain ⟨more, last, later, hlast, hend⟩ := ih (h.next run next) hrest
        rw [List.append_assoc] at hlast
        exact ⟨_, last, later, hlast, hend.cons current.step result⟩

theorem EndsAt.mono {last : Intent} {less : Nat} (hle : less ≤ fuel)
    (h : EndsAt perform rely fuel done last now outcome engine') :
    EndsAt perform rely less done last now outcome engine' := by
  cases h with
  | broken run => exact .broken run
  | lost run next => exact .lost run next
  | last run next => exact .last run next
  | exhausted long => exact .exhausted (Nat.le_trans hle long)

theorem exists_endsAt_of_ends_runChain
    (h : Ends rely (runChain perform first) engine outcome engine') :
    ∃ done last now, GetsTo perform rely first engine done last now ∧
      EndsAt perform rely chainAllowance done last now outcome engine' := by
  obtain ⟨n, hcount, -⟩ := perform_stepCount engine first.routine
  obtain ⟨done, last, now, hlast, hend⟩ :=
    GetsTo.start.exists_endsAt ((Activity.ends_ofOperation_bind_iff hcount).mp h)
  exact ⟨done, last, now, hlast, hend.mono (Nat.le_add_left _ n)⟩

end Reach

/-- A chain is a series of intents, each made from the one before, whatever handlers do and others
do beside it. All of them have the run, the routine, the scope and the payload of the first one, and
in the memory each step with a key has left what it gave out, a later step in the place of an
earlier one. The first intent of an event has no memory. No name in the payload or in the memory
hides what placeholders see under the four names of their own. -/
theorem chain_remembers (perform : X → Context → Fields → Activity (Engine X) Returned)
    (rely : Engine X → Engine X → Prop) (first : Intent) (engine : Engine X) :
    (∀ done current now, GetsTo perform rely first engine done current now →
      current = { first with
        step := current.step
        context := { first.context with
          memory := Dict.merge first.context.memory (outputs done) } } ∧
      ∀ key, Dict.get? current.context.memory key =
        (Dict.get? (outputs done).reverse key).or (Dict.get? first.context.memory key)) ∧
    (∀ outcome engine', Ends rely (runChain perform first) engine outcome engine' →
      ∃ done last now, GetsTo perform rely first engine done last now ∧
        EndsAt perform rely chainAllowance done last now outcome engine') ∧
    (∀ key payload scope before found,
      (matchAll key payload scope).perform before = (.ok found, engine) → first ∈ found.intents →
        first.context = { routine := first.routine, scope, payload, memory := [] }) ∧
    ∀ (context : Context) (rest : String),
      let see := Placeholder.resolve (.object context.bindings)
      see ("payload." ++ rest) = Placeholder.resolve (.object context.payload) rest ∧
      see ("memory." ++ rest) = Placeholder.resolve (.object context.memory) rest ∧
      see "payload" = .ok (some (.object context.payload)) ∧
      see "memory" = .ok (some (.object context.memory)) ∧
      see "routine_id" = .ok (some (.text context.routine)) ∧
      see "scope_id" = .ok (some (.text context.scope)) := by
  refine ⟨fun done current now hreached => ?_, fun _ _ => exists_endsAt_of_ends_runChain, ?_, ?_⟩
  · obtain ⟨step, rfl⟩ := hreached.exists_eq
    exact ⟨rfl, Dict.get?_merge _ _⟩
  · intro key payload scope before found hfound hfirst
    obtain ⟨listed, _, -, hmatch⟩ := Operation.exists_of_perform_bind hfound
    rcases context_of_matchEach hmatch hfirst with hnone | ⟨r, -, hroutine, hcontext⟩
    · cases hnone
    · rw [hcontext, hroutine]
  · intro context rest see
    obtain ⟨hpayload, hmemory, hroutine, hscope⟩ := context.get?_bindings
    refine ⟨?_, ?_, ?_, ?_, ?_, ?_⟩
    · exact resolve_under (by decide) (by decide) String.toList_append hpayload
    · exact resolve_under (by decide) (by decide) String.toList_append hmemory
    · exact resolve_name (by decide) (by decide) hpayload
    · exact resolve_name (by decide) (by decide) hmemory
    · exact resolve_name (by decide) (by decide) hroutine
    · exact resolve_name (by decide) (by decide) hscope

section Notes

/-- A step that takes a note. -/
def noteStep (id said : String) : Step :=
  { id, type := "action", key := some "note", config := [("said", .text said)] }

/-- A routine that takes three notes. The second one repeats the first. -/
def noteRoutine : Routine where
  id := "r"
  template := "tpl"
  scope := "s"
  name := "Notes"
  definition :=
    { steps := [{ id := "t", type := "trigger", key := some "go" },
        noteStep "a" "\x7b\x7bpayload.word\x7d\x7d",
        noteStep "b" "\x7b\x7bmemory.note.said\x7d\x7d!",
        noteStep "c" ""]
      edges := [{ source := "t", target := "a" }, { source := "a", target := "b" },
        { source := "b", target := "c" }] }
  created := ⟨0, none⟩

/-- A note is what the configuration says. -/
def takeNote (_ : Unit) (_ : Context) (config : Fields) : Activity (Engine Unit) Returned :=
  .ended (.ok (.value (.object
    [("narrative_log", .text "noted"), ("output_data", .object config)])))

def noteEngine : Engine Unit where
  settings := {}
  store := .memory { routines := [noteRoutine] }
  registry := [("note", { handler := .custom () })]
  graphs := { limit := 1 }
  table := { limit := 1 }

/-- An intent for one of the steps, when an earlier note says something. The payload has names that
are set over. -/
def noteIntent (step : Step) (said? : Option String) : Intent where
  routine := "r"
  execution := "x"
  step := step
  context :=
    { routine := "r", scope := "s"
      payload := [("word", .text "hi"), ("memory", .text "none"), ("scope_id", .text "other")]
      memory := said?.toList.map fun said => ("note", .object [("said", .text said)]) }

def noteResult (said : String) : StepResult :=
  .completed { narrative := "noted", output := some [("said", .text said)] }

/-- The third note sees the second one in the place of the first. -/
theorem chain_remembers_last_note :
    let one := noteStep "a" "\x7b\x7bpayload.word\x7d\x7d"
    let two := noteStep "b" "\x7b\x7bmemory.note.said\x7d\x7d!"
    let first := noteIntent one none
    ∃ current now,
      GetsTo takeNote Eq first noteEngine [(one, noteResult "hi"), (two, noteResult "hi!")]
        current now ∧
      current = { first with
        step := current.step
        context := { first.context with
          memory := [("note", .object [("said", .text "hi!")])] } } ∧
      Placeholder.resolve (.object current.context.bindings) "memory.note.said" =
        .ok (some (.text "hi!")) ∧
      Placeholder.resolve (.object current.context.bindings) "scope_id" =
        .ok (some (.text "s")) := by
  intro one two first
  have hsecond : GetsTo takeNote Eq first noteEngine [(one, noteResult "hi")]
      (noteIntent two (some "hi")) _ :=
    GetsTo.start.next_alone (by decide +kernel) (by decide +kernel)
  have hthird : GetsTo takeNote Eq first noteEngine
      [(one, noteResult "hi"), (two, noteResult "hi!")]
      (noteIntent (noteStep "c" "") (some "hi!")) _ :=
    hsecond.next_alone (by decide +kernel) (by decide +kernel)
  obtain ⟨hcontexts, -, -, hnames⟩ := chain_remembers takeNote Eq first noteEngine
  obtain ⟨-, hunder, -, -, -, hscope⟩ :=
    hnames (noteIntent (noteStep "c" "") (some "hi!")).context "note.said"
  exact ⟨_, _, hthird, (hcontexts _ _ _ hthird).1, hunder, hscope⟩

end Notes

end Engine

end Workflow
