import Workflow.Proofs.Session.View

/-!
# Pinned conversations

A conversation keeps the graph it started on, whatever becomes of the definition of its routine, and
a pause of the routine is a mere delay for it. Both are statements about two sessions that differ in
some jobs: in one definitions are changed and in the other they are not, or in one the routine is
paused for a while. Where replies are blocked meanwhile, nothing is left of those that were tried.
-/

namespace Workflow

variable {X : Type}

namespace Job

/-- The job gives a routine another definition, or one that was recorded before. -/
def edits : Job X → Bool
  | .errand (.updateDefinition _ _ _) => true
  | .errand (.rollback _ _ _) => true
  | _ => false

/-- The job is a reply to the conversation. -/
def answers (id : String) : Job X → Bool
  | .resume other _ => other = id
  | _ => false

/-- The job asks for a status of the routine. -/
def governs (routine : String) : Job X → Bool
  | .errand (.setStatus other _) => other = routine
  | _ => false

theorem eq_resume_of_answers {id : String} {job : Job X} (h : job.answers id = true) :
    ∃ input, job = .resume id input := by
  unfold answers at h
  split at h
  · rename_i other input
    obtain rfl : other = id := of_decide_eq_true h
    exact ⟨input, rfl⟩
  · cases h

theorem eq_setStatus_of_governs {routine : String} {job : Job X} (h : job.governs routine = true) :
    ∃ status, job = .errand (.setStatus routine status) := by
  unfold governs at h
  split at h
  · rename_i other status
    obtain rfl : other = routine := of_decide_eq_true h
    exact ⟨status, rfl⟩
  · cases h

end Job

namespace View

variable {view : View}

/-- The view after jobs in a row. -/
def afterAll (view : View) (jobs : List (Job X)) : View := jobs.foldl after view

/-- Only replies to the conversation and demands for a status of its routine are seen. -/
theorem after_eq_self {job : Job X} (hreply : job.answers view.conversation.id = false)
    (hstatus : job.governs view.conversation.routine = false) : view.after job = view := by
  unfold after
  split
  · exact if_neg (of_decide_eq_false hreply)
  · exact if_neg fun h => of_decide_eq_false hstatus h.1
  · rfl

theorem after_eq_self_of_edits {job : Job X} (h : job.edits = true) : view.after job = view := by
  unfold Job.edits at h
  split at h
  · rfl
  · rfl
  · cases h

/-- Jobs that are not seen may be left out. -/
theorem afterAll_filter (p : Job X → Bool) (h : ∀ (view : View) job, p job = false →
    view.after job = view) (jobs : List (Job X)) :
    view.afterAll (jobs.filter p) = view.afterAll jobs := by
  rw [afterAll, List.foldl_filter, afterAll]
  congr
  funext view job
  cases hp : p job with
  | true => rfl
  | false => exact (h view job hp).symm

theorem afterAll_append (view : View) (jobs more : List (Job X)) :
    view.afterAll (jobs ++ more) = (view.afterAll jobs).afterAll more := List.foldl_append

theorem afterAll_eq_self {jobs : List (Job X)} (h : ∀ job ∈ jobs, view.after job = view) :
    view.afterAll jobs = view := by
  induction jobs with
  | nil => rfl
  | cons job rest ih =>
      obtain ⟨hjob, hrest⟩ := List.forall_mem_cons.mp h
      change (view.after job).afterAll rest = view
      rw [hjob, ih hrest]

theorem policy_after (view : View) (job : Job X) : (view.after job).policy = view.policy := by
  unfold after
  split
  · split
    · unfold resumed
      split <;> rfl
    · rfl
  · split <;> rfl
  · rfl

theorem policy_afterAll (view : View) (jobs : List (Job X)) :
    (view.afterAll jobs).policy = view.policy := by
  induction jobs generalizing view with
  | nil => rfl
  | cons job rest ih => exact (ih (view.after job)).trans (policy_after view job)

/-- While answers are held back, only a demand for a status of the routine is seen. -/
theorem after_eq_self_of_held (held : view.Held) {job : Job X}
    (hstatus : job.governs view.conversation.routine = false) : view.after job = view := by
  by_cases hreply : job.answers view.conversation.id = true
  · obtain ⟨input, rfl⟩ := Job.eq_resume_of_answers hreply
    exact (if_pos rfl).trans (if_pos held)
  · exact after_eq_self (Bool.not_eq_true _ ▸ hreply) hstatus

/-- A pause holds answers back, whatever else is done meanwhile. When the routine is made active
again the view is the one from before. It must not have been paused already; if it was archived, it
stays so throughout. -/
theorem afterAll_pause {r : String} (hroutine : view.conversation.routine = r)
    (hblock : view.policy = .block) (hstatus : view.status ≠ .paused) {tried : List (Job X)}
    (hgoverns : ∀ job ∈ tried, job.governs r = false) :
    ∃ held : View, held.Held ∧
      (∀ done, done ⊆ tried →
        view.afterAll (.errand (.setStatus r .paused) :: done) = held) ∧
      held.after (.errand (.setStatus r .active) : Job X) = view := by
  subst hroutine
  obtain ⟨status, hinactive, hpause, hactivate⟩ : ∃ status, status ≠ .active ∧
      view.after (.errand (.setStatus view.conversation.routine .paused) : Job X) =
        { view with status } ∧
      View.after { view with status }
        (.errand (.setStatus view.conversation.routine .active) : Job X) = view := by
    obtain ⟨c, status, reason, policy, entries⟩ := view
    cases status with
    | active => exact ⟨.paused, nofun, if_pos ⟨rfl, rfl⟩, if_pos ⟨rfl, rfl⟩⟩
    | paused => exact absurd rfl hstatus
    | archived => exact ⟨.archived, nofun, if_neg (by simp), if_neg (by simp)⟩
  have held : Held { view with status } := ⟨hblock, hinactive⟩
  refine ⟨{ view with status }, held, fun done hdone => ?_, hactivate⟩
  calc view.afterAll (.errand (.setStatus view.conversation.routine .paused) :: done)
      = View.afterAll { view with status } done := congrArg (afterAll · done) hpause
    _ = { view with status } := afterAll_eq_self fun job hjob =>
        after_eq_self_of_held held (hgoverns job (hdone hjob))

/-- What is left of a pause when the routine is active again is what was done beside replies. -/
theorem afterAll_delayed {id r : String} (hown : view.conversation.id = id)
    (hroutine : view.conversation.routine = r) (hblock : view.policy = .block)
    (hstatus : view.status ≠ .paused) {tried : List (Job X)}
    (hgoverns : ∀ job ∈ tried, job.governs r = false) (rest : List (Job X)) :
    view.afterAll
        (.errand (.setStatus r .paused) :: tried ++ .errand (.setStatus r .active) :: rest) =
      view.afterAll (tried.filter (fun job => !job.answers id) ++ rest) := by
  obtain ⟨held, -, hthrough, hactivate⟩ := afterAll_pause hroutine hblock hstatus hgoverns
  have hwaiting : view.afterAll (tried.filter fun job => !job.answers id) = view := by
    refine afterAll_eq_self fun job hjob => ?_
    obtain ⟨hmem, hanswers⟩ := List.mem_filter.mp hjob
    refine after_eq_self ?_ (hroutine ▸ hgoverns job hmem)
    rw [hown]
    simpa using hanswers
  calc view.afterAll
        (.errand (.setStatus r .paused) :: tried ++ .errand (.setStatus r .active) :: rest)
      = held.afterAll (.errand (.setStatus r .active) :: rest) := by
        rw [afterAll_append, hthrough tried (List.Subset.refl tried)]
    _ = view.afterAll rest := congrArg (afterAll · rest) hactivate
    _ = view.afterAll (tried.filter (fun job => !job.answers id) ++ rest) := by
        rw [afterAll_append, hwaiting]

/-- A conversation that was placed well becomes what a run of requests makes of it. -/
theorem becomes_after (hplaced : view.conversation.Placed) (job : Job X) :
    ∃ told, view.conversation.Becomes told (view.after job).conversation := by
  have hsame := Conversation.Becomes.refl view.conversation
  unfold after
  split
  · split
    · unfold resumed
      split
      · exact ⟨[], hsame⟩
      · exact ⟨_, Conversation.becomes_meet hplaced ⟨.resume _, view.recorder, fun _ => .ok ()⟩⟩
    · exact ⟨[], hsame⟩
  · split <;> exact ⟨[], hsame⟩
  · exact ⟨[], hsame⟩

theorem becomes_afterAll (hplaced : view.conversation.Placed) (jobs : List (Job X)) :
    ∃ told, view.conversation.Becomes told (view.afterAll jobs).conversation := by
  induction jobs generalizing view with
  | nil => exact ⟨[], .refl _⟩
  | cons job rest ih =>
      obtain ⟨told, hfirst⟩ := becomes_after hplaced job
      obtain ⟨more, hrest⟩ := ih (hfirst.placed hplaced)
      exact ⟨told ++ more, hfirst.trans hrest⟩

end View

namespace Engine

open Activity (Holds RetainsEach)

variable {kind : StoreKind} {id r : String} {view : View} {engine : Engine X}
variable {perform : X → Context → Fields → Activity (Engine X) Returned}

section Steps

/-- What outlasts an errand among others outlasts it when it is run on its own. -/
theorem retains_runErrand {ι : Type} {P : ι → Engine X → Prop} {errand : Errand}
    (h : Holds P (runErrand perform errand)) {i : ι} (hi : P i engine) :
    P i ((runErrand perform errand).run engine).2 := by
  have hrely (s t : Engine X) (heq : s = t) : RetainsEach P s t := heq ▸ refl_of (RetainsEach P) s
  exact h.ends hrely hi (Activity.ends_eq_iff.mpr rfl)

theorem gains_register (key : String) (handler : Option (Handler X)) (description : String)
    (engine : Engine X) :
    Gains kind [] engine (engine.afterJob perform (.register key handler description)) := by
  dsimp only [afterJob]
  split
  · exact gains_of_same rfl rfl rfl rfl (Nat.le_refl _)
  · exact refl_of (Gains kind []) engine

/-- Whatever an errand asks for, the engine stays in order. -/
theorem inOrder_runErrand
    (hperform : ∀ x context config, Holds (fun _ : Unit => InOrder kind) (perform x context config))
    (errand : Errand) : Holds (fun _ : Unit => InOrder kind) (runErrand perform errand) := by
  refine holds_runErrand (sheltered_inOrder kind) hperform ?_
  rintro call - engine - ⟨records, hsound⟩
  obtain ⟨made, records', told, change, hafter⟩ := call.changes hsound.toKeeps
  exact ⟨records', hafter ▸ hsound.change change⟩

/-- An errand leaves the view alone, unless it asks for a status of the routine. -/
theorem viewed_runErrand
    (hperform : ∀ x context config, Holds (Viewed kind id r) (perform x context config))
    {errand : Errand} (hother : ∀ status, errand.call? ≠ some (.setStatus r status)) :
    Holds (Viewed kind id r) (runErrand perform errand) := by
  refine holds_runErrand (sheltered_viewed kind id r) hperform fun call hwrites engine => ?_
  refine (leaves_call call ?_ engine).viewed
  rintro status rfl
  exact hother status hwrites

/-- The engine stays in order, whatever is done with it. -/
theorem inOrder_afterJob
    (hperform : ∀ x context config, Holds (fun _ : Unit => InOrder kind) (perform x context config))
    (h : engine.InOrder kind) (job : Job X) : (engine.afterJob perform job).InOrder kind := by
  cases job with
  | publication publication => exact (gains_afterPublication publication engine).inOrder h
  | errand errand => exact retains_runErrand (i := ()) (inOrder_runErrand hperform errand) h
  | register key handler description =>
      exact (gains_register key handler description engine).inOrder h
  | start routine bindings =>
      exact (leaves_start routine bindings engine : Leaves kind "" "" _ _).inOrder h
  | resume id input => exact inOrder_resume h id input

theorem inOrder_afterJobs
    (hperform : ∀ x context config,
      Holds (fun _ : Unit => InOrder kind) (perform x context config))
    (h : engine.InOrder kind) (jobs : List (Job X)) :
    (engine.afterJobs perform jobs).InOrder kind := by
  induction jobs generalizing engine with
  | nil => exact h
  | cons job rest ih => exact ih (inOrder_afterJob hperform h job)

variable (hperform : ∀ x context config, Holds (Viewed kind id r) (perform x context config))
include hperform

/-- A job that is not seen leaves the view alone. -/
theorem viewed_afterJob_of_not (h : Viewed kind id r view engine) {job : Job X}
    (hreply : job.answers id = false) (hstatus : job.governs r = false) :
    Viewed kind id r view (engine.afterJob perform job) := by
  cases job with
  | publication publication =>
      exact (Leaves.of_gains_nothing (gains_afterPublication publication engine)).viewed view h
  | errand errand =>
      refine retains_runErrand (viewed_runErrand hperform fun status hwrites => ?_) h
      cases errand <;> cases hwrites
      exact of_decide_eq_false hstatus rfl
  | register key handler description =>
      exact (Leaves.of_gains_nothing (gains_register key handler description engine)).viewed view
        h
  | start routine bindings => exact (leaves_start routine bindings engine).viewed view h
  | resume other input =>
      exact (leaves_resume (of_decide_eq_false hreply) input engine).viewed view h

/-- The view goes through a job on its own. Afterwards the conversation is at hand, unless it stays
as it is. -/
theorem viewed_afterJob (h : Viewed kind id r view engine) (job : Job X) :
    Viewed kind id r (view.after job) (engine.afterJob perform job) ∧
      ((engine.afterJob perform job).table.find? id = some (view.after job).conversation ∨
        (view.after job).conversation = view.conversation) := by
  by_cases hreply : job.answers id = true
  · obtain ⟨input, rfl⟩ := Job.eq_resume_of_answers hreply
    have hafter : view.after (.resume id input : Job X) = view.resumed input := if_pos h.own.symm
    rw [hafter]
    exact viewed_resume h input
  by_cases hstatus : job.governs r = true
  · obtain ⟨status, rfl⟩ := Job.eq_setStatus_of_governs hstatus
    have hwrites : (Errand.setStatus r status).call? = some (.setStatus r status) := rfl
    obtain ⟨operation, hrun, hcall⟩ := runErrand_of_call hwrites perform
    have hengine : engine.afterJob perform (.errand (.setStatus r status)) =
        (Call.setStatus r status).after engine := by
      rw [afterJob, hrun]
      exact hcall engine
    have hview : view.after (.errand (.setStatus r status) : Job X) =
        if view.status.mayBecome status then { view with status } else view := by
      rw [View.after, h.belongs]
      simp only [true_and]
    rw [hengine, hview]
    refine ⟨viewed_setStatus h status, .inr ?_⟩
    split <;> rfl
  · rw [Bool.not_eq_true] at hreply hstatus
    rw [View.after_eq_self (h.own.symm ▸ hreply) (h.belongs.symm ▸ hstatus)]
    exact ⟨viewed_afterJob_of_not hperform h hreply hstatus, .inr rfl⟩

theorem viewed_afterJobs (h : Viewed kind id r view engine) (jobs : List (Job X)) :
    Viewed kind id r (view.afterAll jobs) (engine.afterJobs perform jobs) := by
  induction jobs generalizing view engine with
  | nil => exact h
  | cons job rest ih => exact ih (viewed_afterJob hperform h job).1

end Steps

section Recalled

/-- The conversation as it was when it was at hand last. -/
def recalled (perform : X → Context → Fields → Activity (Engine X) Returned) (id : String) :
    Engine X → List (Job X) → Option Conversation
  | engine, [] => engine.table.find? id
  | engine, job :: rest =>
    (recalled perform id (engine.afterJob perform job) rest).or (engine.table.find? id)

variable (hperform : ∀ x context config, Holds (Viewed kind id r) (perform x context config))
include hperform

/-- The view has the conversation as it was when it was at hand last, also before these jobs. -/
theorem recalled_or (h : Viewed kind id r view engine) {earlier : Option Conversation}
    (hview : (engine.table.find? id).or earlier = some view.conversation) (jobs : List (Job X)) :
    (recalled perform id engine jobs).or earlier = some (view.afterAll jobs).conversation := by
  induction jobs generalizing view engine earlier with
  | nil => exact hview
  | cons job rest ih =>
      obtain ⟨hafter, hhand⟩ := viewed_afterJob hperform h job
      rw [recalled, Option.or_assoc]
      refine ih hafter ?_
      rw [hview]
      rcases hhand with hfind | hsame
      · rw [hfind]
        rfl
      · rcases hafter.find?_eq with hfind | hgone
        · rw [hfind]
          rfl
        · rw [hgone, hsame]
          rfl

theorem recalled_eq (h : Viewed kind id r view engine)
    (hfind : engine.table.find? id = some view.conversation) (jobs : List (Job X)) :
    recalled perform id engine jobs = some (view.afterAll jobs).conversation := by
  have hnow : (engine.table.find? id).or none = some view.conversation := by
    rw [Option.or_none, hfind]
  have hor := recalled_or hperform h hnow jobs
  rwa [Option.or_none] at hor

end Recalled

/-- Handlers of the user's own that leave a conversation and the status of its routine alone, and
the engine in order. -/
structure HandsOff (kind : StoreKind) (id r : String)
    (perform : X → Context → Fields → Activity (Engine X) Returned) : Prop where
  inOrder : ∀ x context config, Holds (fun _ : Unit => InOrder kind) (perform x context config)
  viewed : ∀ x context config, Holds (Viewed kind id r) (perform x context config)

/-- A conversation starts on the definition that its routine has then, and keeps its graph in
whatever session follows. Changes to definitions, of whichever routine, are nothing to it. Where
answers are blocked, a pause of its routine only delays it: answers that are tried meanwhile are
refused, and when the routine is active again the conversation and its audit entries are what they
would have been. -/
theorem conversation_pinned (h : engine.InOrder kind) (before : List (Job X)) {c : Conversation}
    (hfind : (engine.afterJobs perform before).table.find? id = some c)
    (hhandlers : HandsOff kind id c.routine perform) :
    let begun := engine.afterJobs perform before
    let pause : Job X := .errand (.setStatus c.routine .paused)
    let activate : Job X := .errand (.setStatus c.routine .active)
    (∀ routine bindings d after, (start routine bindings).perform begun = (.ok d, after) →
      after.table.find? d.id = some d ∧
        ∃ found, ((Engine.routine routine none).perform begun).1 = .ok found ∧
          d.graph.definition = found.definition) ∧
    (∀ jobs, ∃ d, recalled perform id begun jobs = some d ∧ d.graph = c.graph) ∧
    (∀ jobs edited : List (Job X),
      edited.filter (fun job => !job.edits) = jobs.filter (fun job => !job.edits) →
      recalled perform id begun edited = recalled perform id begun jobs ∧
        (begun.afterJobs perform edited).account id = (begun.afterJobs perform jobs).account id) ∧
    (begun.settings.resumePolicy = .block → ∀ jobs tried rest : List (Job X),
      (begun.afterJobs perform jobs).statusOf c.routine ≠ .ok .paused →
      (∀ job ∈ tried, job.governs c.routine = false) →
      let waiting := tried.filter fun job => !job.answers id
      let delayed := jobs ++ pause :: tried ++ activate :: rest
      (∀ done input later, tried = done ++ .resume id input :: later →
        (begun.afterJobs perform (jobs ++ pause :: done)).Refuses (resume id input)) ∧
        recalled perform id begun delayed = recalled perform id begun (jobs ++ waiting ++ rest) ∧
        (begun.afterJobs perform delayed).account id =
          (begun.afterJobs perform (jobs ++ waiting ++ rest)).account id) := by
  intro begun pause activate
  obtain ⟨records, hsound⟩ := inOrder_afterJobs hhandlers.inOrder h before
  obtain ⟨view, hview, hpolicy, hviewed⟩ := hsound.exists_viewed hfind
  have hafter (jobs : List (Job X)) := viewed_afterJobs hhandlers.viewed hviewed jobs
  have hrecalled (jobs : List (Job X)) :
      recalled perform id begun jobs = some (view.afterAll jobs).conversation :=
    recalled_eq hhandlers.viewed hviewed (hview ▸ hfind) jobs
  have hsame {jobs jobs' : List (Job X)} (heq : view.afterAll jobs = view.afterAll jobs') :
      recalled perform id begun jobs = recalled perform id begun jobs' ∧
        (begun.afterJobs perform jobs).account id = (begun.afterJobs perform jobs').account id := by
    rw [hrecalled, hrecalled, (hafter jobs).account_eq, (hafter jobs').account_eq, heq]
    exact ⟨rfl, rfl⟩
  refine ⟨fun routine bindings d after hstart => ?_, fun jobs => ⟨_, hrecalled jobs, ?_⟩,
    fun jobs edited heq => hsame ?_, fun hblock jobs tried rest hstatus hgoverns => ?_⟩
  · exact definition_of_start hsound.toKeeps.legible hstart
  · obtain ⟨_, hbecomes⟩ := View.becomes_afterAll hviewed.placed jobs
    exact hview ▸ hbecomes.graph
  · have hedits (view : View) (job : Job X) (hjob : (!job.edits) = false) : view.after job = view :=
      View.after_eq_self_of_edits (by simpa using hjob)
    rw [← View.afterAll_filter _ hedits edited, heq, View.afterAll_filter _ hedits]
  · intro waiting delayed
    have hpaused : (view.afterAll jobs).status ≠ .paused := fun heq =>
      hstatus ((hafter jobs).statusOf_eq.trans (congrArg _ heq))
    have hpolicy' : (view.afterAll jobs).policy = .block :=
      (View.policy_afterAll view jobs).trans (hpolicy.trans hblock)
    refine ⟨fun done input later heq => ?_, hsame ?_⟩
    · obtain ⟨held, hheld, hthrough, -⟩ :=
        View.afterAll_pause (hafter jobs).belongs hpolicy' hpaused hgoverns
      have hviewed := hafter (jobs ++ pause :: done)
      rw [View.afterAll_append, hthrough done (heq ▸ List.subset_append_left done _)] at hviewed
      exact hviewed.refuses_resume hheld input
    · have hdelayed := View.afterAll_delayed (hafter jobs).own (hafter jobs).belongs hpolicy'
        hpaused hgoverns rest
      rw [← View.afterAll_append, ← View.afterAll_append, ← List.append_assoc,
        ← List.append_assoc] at hdelayed
      exact hdelayed

section Asking

/-- A template that asks for one reply. -/
def askingTemplate : Template where
  id := "t"
  key := "ask"
  name := "n"
  definition :=
    { steps := [{ id := "go", type := "trigger" }, { id := "ask", type := "wait_input" }]
      edges := [{ source := "go", target := "ask" }] }

/-- An engine that knows a handler of the user's own, and nothing yet to be done with it. -/
def unhookedEngine : Engine Unit :=
  { hookedEngine with store := StoreKind.memory.hold {}, made := 0 }

theorem conversation_pinned_while_asking :
    let routine := Identifier.ofNumber 1
    let talk := Identifier.ofNumber 2
    let perform := hook fun routine => .rollback routine 1 ""
    let before : List (Job Unit) :=
      [.errand (.instantiate askingTemplate "s" [] "" ""), .start routine []]
    let pause : Job Unit := .errand (.setStatus routine .paused)
    let activate : Job Unit := .errand (.setStatus routine .active)
    let edit : Job Unit := .errand (.updateDefinition routine hookedRoutine.definition "")
    let reply : Job Unit := .resume talk (.text "yes")
    let begun := unhookedEngine.afterJobs perform before
    (begun.table.find? talk).map Conversation.state = some .suspended ∧
      (recalled perform talk begun [reply]).map Conversation.state = some .completed ∧
      recalled perform talk begun [edit, reply] = recalled perform talk begun [reply] ∧
      (begun.afterJobs perform [pause, edit]).Refuses (resume talk (.text "early")) ∧
      recalled perform talk begun [pause, edit, .resume talk (.text "early"), activate, reply] =
        recalled perform talk begun [edit, reply] := by
  intro routine talk perform before pause activate edit reply begun
  have hwaits : (begun.table.find? talk).map Conversation.state = some .suspended := by
    decide +kernel
  have hcompleted : (recalled perform talk begun [reply]).map Conversation.state =
      some .completed := by decide +kernel
  obtain ⟨c, hfind, -⟩ := Option.map_eq_some_iff.mp hwaits
  have hbelongs : (begun.table.find? talk).map Conversation.routine = some routine := by
    decide +kernel
  have hroutine : c.routine = routine := Option.some.inj ((congrArg _ hfind).symm.trans hbelongs)
  have hhandlers : HandsOff .memory talk c.routine perform :=
    ⟨fun _ _ _ => .andThen (inOrder_runErrand (fun _ _ _ => .ended _) _) fun _ => .ended _,
      fun _ _ _ => .andThen (viewed_runErrand (fun _ _ _ => .ended _) nofun) fun _ => .ended _⟩
  obtain ⟨-, -, hedits, hdelay⟩ :=
    conversation_pinned (inOrder_new _ _ rfl rfl) before hfind hhandlers
  rw [hroutine] at hdelay
  obtain ⟨hrefused, hsame, -⟩ := hdelay (by decide +kernel) [] [edit, .resume talk (.text "early")]
    [reply] (by decide +kernel) (by decide +kernel)
  exact ⟨hwaits, hcompleted, (hedits [reply] [edit, reply] rfl).1,
    hrefused [edit] (.text "early") [] rfl, hsame⟩

/-- Where the routine is paused already, a pause that is put in ends the one that there was. Where a
handler of the user's own pauses the routine, a change to another routine may bring this about. -/
theorem conversation_moved :
    let talk := Identifier.ofNumber 4
    let routine := Identifier.ofNumber 1
    let other := Identifier.ofNumber 3
    let perform := hook fun _ => .setStatus routine .paused
    let pause : Job Unit := .errand (.setStatus routine .paused)
    let activate : Job Unit := .errand (.setStatus routine .active)
    let edit : Job Unit := .errand (.updateDefinition other hookedRoutine.definition "")
    let event : Job Unit := .errand (.dispatch "k" [] "o")
    let reply : Job Unit := .resume talk (.text "yes")
    let begun := unhookedEngine.afterJobs perform
      [.errand (.instantiate askingTemplate "s" [] "" ""),
        .errand (.instantiate askingTemplate "o" [] "" ""), .start routine []]
    let stands (jobs : List (Job Unit)) := (recalled perform talk begun jobs).map Conversation.state
    begun.settings.resumePolicy = .block ∧
      stands [pause, reply, reply] = some .suspended ∧
      stands [pause, reply, pause, reply, activate, reply] = some .completed ∧
      stands [event, reply] = some .completed ∧
      stands [edit, event, reply] = some .suspended := by
  decide +kernel

end Asking

end Engine

end Workflow
