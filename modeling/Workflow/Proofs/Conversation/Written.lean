import Workflow.Proofs.Conversation.Run
import Workflow.Proofs.Conversation.Timely
import Workflow.Proofs.Conversation.Walk
import Workflow.Proofs.Graph.Order

/-!
# Where variables come from

Two kinds of steps write variables: a step that sets one writes when it is carried out, and a step
that waits for input keeps a typed reply once it is accepted. `Conversation.carriedOut` are the steps
a request carries out. Nothing has to be said or kept for that: the graph leads from one of them to
the next, and the last is the one where the conversation then stands, whether it waits there, is over
or was broken off by a fault. `Conversation.writers` are those who wrote. Replaying them gives the
variables. Each writer finds them as those before it left them, and the last one to write a variable
has its way. Nobody else changes a variable.
-/

namespace Workflow

namespace Variables

variable {bindings bindings' : Variables} {name value : Value}

/-- The value of the variable with a name. -/
def get? (bindings : Variables) (name : Value) : Option Value :=
  (bindings.entries.find? fun entry => nameForm entry.1 = nameForm name).map Prod.snd

/-- A list or an object is no name. -/
def isName : Value → Bool
  | .list _ | .object _ => false
  | _ => true

theorem isName_of_set (h : bindings.set name value = .ok bindings') : isName name = true := by
  cases name <;> first | rfl | cases h

theorem exists_set (h : isName name = true) (bindings : Variables) (value : Value) :
    ∃ bindings', bindings.set name value = .ok bindings' := by
  cases name <;> first | exact ⟨_, rfl⟩ | cases h

/-- Setting a variable is seen under its own name and under no other. -/
theorem get?_set (h : bindings.set name value = .ok bindings') (other : Value) :
    bindings'.get? other =
      if nameForm name = nameForm other then some value else bindings.get? other := by
  have hput (entries : List (Value × Value)) : get? ⟨put name value entries⟩ other =
      if nameForm name = nameForm other then some value else get? ⟨entries⟩ other := by
    induction entries with
    | nil => by_cases hname : nameForm name = nameForm other <;> simp [get?, put, hname]
    | cons entry rest ih =>
        obtain ⟨n, v⟩ := entry
        unfold get? at ih ⊢
        rw [put]
        by_cases hfound : nameForm n = nameForm name
        · rw [if_pos hfound]
          by_cases hname : nameForm name = nameForm other <;> simp [hfound, hname]
        · rw [if_neg hfound]
          by_cases hfirst : nameForm n = nameForm other
          · have hname : nameForm name ≠ nameForm other := fun h => hfound (hfirst.trans h.symm)
            simp [hfirst, hname]
          · simpa [hfirst] using ih
  unfold set at h
  split at h
  · cases h
  · cases h
  · cases h
    exact hput bindings.entries

end Variables

/-- The step sets a variable when it is carried out. -/
def Step.SetsVariable (step : Step) : Prop :=
  step.kind = .action ∧ Turn.actionType step = .text "set_variable" ∧
    (step.setting "variable").truthy = true

instance (step : Step) : Decidable step.SetsVariable := inferInstanceAs (Decidable (_ ∧ _))

/-- Who writes a variable. -/
inductive Writer where
  /-- A step that sets a variable. -/
  | action (step : Step)
  /-- A step that keeps the reply typed to it. -/
  | reply (step : Step) (content : String)
  deriving DecidableEq, Repr

namespace Writer

/-- The name of the variable that is written. -/
def name : Writer → Value
  | .action step => step.setting "variable"
  | .reply step _ => step.setting "store_as"

/-- The value that is written: a text of the configuration has its placeholders filled from the
variables as they are at that moment. -/
def value (bindings : Variables) : Writer → Except Fault Value
  | .action step => interpolateText bindings.context (step.setting "value")
  | .reply _ content => .ok (.text content)

/-- Write the variable. -/
def write (bindings : Variables) (writer : Writer) : Except Fault Variables := do
  let value ← writer.value bindings
  bindings.set writer.name value

end Writer

/-- The variables after each of the writers wrote in turn. -/
def Variables.replay (bindings : Variables) (writers : List Writer) : Except Fault Variables :=
  writers.foldlM Writer.write bindings

namespace Variables

variable {bindings bindings' : Variables} {writers before after : List Writer}

/-- A variable that none of the writers writes stays as it is. -/
theorem get?_replay_of_ne {name : Value} (h : bindings.replay writers = .ok bindings')
    (hother : ∀ writer ∈ writers, nameForm writer.name ≠ nameForm name) :
    bindings'.get? name = bindings.get? name := by
  induction writers generalizing bindings with
  | nil =>
      cases h
      rfl
  | cons writer rest ih =>
      obtain ⟨hfirst, hrest⟩ := List.forall_mem_cons.mp hother
      obtain ⟨between, hwrite, h⟩ := exists_of_bind_eq_ok h
      obtain ⟨value, -, hset⟩ := exists_of_bind_eq_ok hwrite
      rw [ih h hrest, get?_set hset, if_neg hfirst]

/-- The last of the writers of a variable has its way. -/
theorem get?_replay_of_last {writer : Writer}
    (h : bindings.replay (before ++ writer :: after) = .ok bindings')
    (hlast : ∀ later ∈ after, nameForm later.name ≠ nameForm writer.name) :
    ∃ found value, bindings.replay before = .ok found ∧ writer.value found = .ok value ∧
      bindings'.get? writer.name = some value := by
  rw [replay, List.foldlM_append] at h
  obtain ⟨found, hbefore, h⟩ := exists_of_bind_eq_ok h
  obtain ⟨written, hwrite, hafter⟩ := exists_of_bind_eq_ok h
  obtain ⟨value, hvalue, hset⟩ := exists_of_bind_eq_ok hwrite
  refine ⟨found, value, hbefore, hvalue, ?_⟩
  rw [get?_replay_of_ne hafter hlast, get?_set hset, if_pos rfl]

end Variables

namespace Variables

/-- The writers that do write, each when its turn comes. One that fails leaves the variables to the
next. -/
def writing (bindings : Variables) : List Writer → List Writer
  | [] => []
  | writer :: rest =>
    match writer.write bindings with
    | .ok written => writer :: written.writing rest
    | .error _ => bindings.writing rest

/-- The variables when all of the writers have had their turns. -/
def after (bindings : Variables) (writers : List Writer) : Variables :=
  writers.foldl (fun found writer => (writer.write found).toOption.getD found) bindings

variable {bindings bindings' : Variables} {writer : Writer} {writers : List Writer}

theorem after_append (bindings : Variables) (first rest : List Writer) :
    bindings.after (first ++ rest) = (bindings.after first).after rest := List.foldl_append

theorem after_cons_of_write (h : writer.write bindings = .ok bindings') :
    bindings.after (writer :: writers) = bindings'.after writers := by
  rw [after, List.foldl_cons, h]
  rfl

theorem after_cons_of_error {fault : Fault} (h : writer.write bindings = .error fault) :
    bindings.after (writer :: writers) = bindings.after writers := by
  rw [after, List.foldl_cons, h]
  rfl

theorem after_singleton_of_write (h : writer.write bindings = .ok bindings') :
    bindings.after [writer] = bindings' := after_cons_of_write h

theorem after_singleton_of_error {fault : Fault} (h : writer.write bindings = .error fault) :
    bindings.after [writer] = bindings := after_cons_of_error h

/-- Those who do write make the variables what they are in the end. -/
theorem replay_writing (bindings : Variables) (writers : List Writer) :
    bindings.replay (bindings.writing writers) = .ok (bindings.after writers) := by
  induction writers generalizing bindings with
  | nil => rfl
  | cons writer rest ih =>
      unfold writing
      cases hwrite : writer.write bindings with
      | error fault =>
          rw [after_cons_of_error hwrite]
          exact ih bindings
      | ok written =>
          rw [after_cons_of_write hwrite, ← ih written]
          exact congrArg (· >>= _) hwrite

theorem writing_subset (bindings : Variables) (writers : List Writer) :
    bindings.writing writers ⊆ writers := by
  induction writers generalizing bindings with
  | nil => exact List.Subset.refl _
  | cons writer rest ih =>
      unfold writing
      split
      · exact List.cons_subset_cons writer (ih _)
      · exact List.subset_cons_of_subset writer (ih bindings)

end Variables

/-- The steps among the given ones that set a variable. -/
def settersIn (steps : List Step) : List Writer :=
  (steps.filter fun step => step.SetsVariable).map .action

theorem settersIn_append (first rest : List Step) :
    settersIn (first ++ rest) = settersIn first ++ settersIn rest := by
  simp [settersIn]

theorem settersIn_singleton_of_sets {step : Step} (h : step.SetsVariable) :
    settersIn [step] = [.action step] := by
  simp [settersIn, h]

theorem settersIn_singleton_of_not_sets {step : Step} (h : ¬ step.SetsVariable) :
    settersIn [step] = [] := by
  simp [settersIn, h]

/-- A reply gets past the step with the choice it makes there. A typed reply has to be accepted by
the rule of the step, and where it is to be kept there has to be a name to keep it under. -/
def Step.LetsPass (step : Step) (reply : Reply) (choice : Value) : Prop :=
  step.kind = .waitInput ∧ choice = .null →
    Reply.fits reply.content (step.setting "validation") = .ok true ∧
      ((step.setting "store_as").truthy = true →
        Variables.isName (step.setting "store_as") = true)

instance (step : Step) (reply : Reply) (choice : Value) : Decidable (step.LetsPass reply choice) :=
  inferInstanceAs (Decidable (_ → _))

/-- The step keeps a typed reply that gets past it, if it has a name for it. -/
def Step.keeps (step : Step) (reply : Reply) (choice : Value) : List Writer :=
  if (step.kind = .waitInput ∧ choice = .null) ∧ (step.setting "store_as").truthy = true then
    [.reply step reply.content]
  else []

namespace Graph

variable {graph : Graph}

/-- The steps passed from a step on. The last is the one with the given id. -/
def passedFrom (graph : Graph) (last : Option String) : Nat → Step → List Step
  | 0, _ => []
  | fuel + 1, step =>
    if some step.id = last ∨ step.interactive = true then [step]
    else
      match graph.stepAfter? step.id with
      | some next => step :: graph.passedFrom last fuel next
      | none => [step]

/-- The steps passed from a step on, up to the one with the given id. No step is passed twice. -/
def passed (graph : Graph) (last : Option String) (step : Step) : List Step :=
  graph.passedFrom last graph.size step

/-- The steps passed after a choice was made at a step, up to the one with the given id. -/
def passedAfter (graph : Graph) (step : Step) (choice : Value) (last : Option String) : List Step :=
  match graph.resumeStep step choice with
  | .ok next => graph.passed last next
  | .error _ => []

/-- The graph has a step that may write the variable. -/
def Declares (graph : Graph) (name : Value) : Prop :=
  ∃ step ∈ graph.steps, (step.SetsVariable ∧ name = step.setting "variable") ∨
    (step.kind = .waitInput ∧ name = step.setting "store_as")

/-- The steps passed are the part of a route that ends at the last of them. -/
theorem Route.passedFrom_eq {step : Step} {route : List Step} (h : graph.Route step route)
    (hnodup : (route.map Step.id).Nodup) {done rest : List Step} (hsplit : route = done ++ rest)
    {last : Step} (hlast : done.getLast? = some last) {fuel : Nat} (hfuel : route.length ≤ fuel) :
    graph.passedFrom (some last.id) fuel step = done := by
  induction h generalizing done rest fuel with
  | @waits step waiting =>
      obtain ⟨fuel, rfl⟩ : ∃ n, fuel = n + 1 := Nat.exists_eq_add_of_le' hfuel
      obtain ⟨first, rfl⟩ : ∃ first, done = [first] := by
        rcases List.singleton_eq_append_iff.mp hsplit with ⟨rfl, -⟩ | ⟨rfl, -⟩
        · cases hlast
        · exact ⟨step, rfl⟩
      obtain rfl : step = first := (List.cons.inj hsplit).1
      rw [passedFrom, if_pos (.inr waiting)]
  | @ends step flowing ends =>
      obtain ⟨fuel, rfl⟩ : ∃ n, fuel = n + 1 := Nat.exists_eq_add_of_le' hfuel
      obtain ⟨first, rfl⟩ : ∃ first, done = [first] := by
        rcases List.singleton_eq_append_iff.mp hsplit with ⟨rfl, -⟩ | ⟨rfl, -⟩
        · cases hlast
        · exact ⟨step, rfl⟩
      obtain rfl : step = first := (List.cons.inj hsplit).1
      obtain rfl : step = last := Option.some.inj hlast
      rw [passedFrom, if_pos (.inl rfl)]
  | @goes step next route flowing follows further ih =>
      obtain ⟨fuel, rfl⟩ : ∃ n, fuel = n + 1 :=
        Nat.exists_eq_add_of_le' (Nat.le_of_add_left_le hfuel)
      obtain ⟨hfresh, hnodup⟩ := List.nodup_cons.mp hnodup
      cases done with
      | nil => cases hlast
      | cons first done =>
          obtain ⟨rfl, hroute⟩ := List.cons.inj hsplit
          cases done with
          | nil =>
              obtain rfl : step = last := Option.some.inj hlast
              rw [passedFrom, if_pos (.inl rfl)]
          | cons second done =>
              rw [List.getLast?_cons_cons] at hlast
              have hmem : last ∈ route := by
                rw [hroute]
                exact List.mem_append_left _ (List.mem_of_getLast? hlast)
              have hpast : ¬ (some step.id = some last.id ∨ step.interactive = true) := by
                rintro (hsame | waits)
                · exact hfresh (Option.some.inj hsame ▸ List.mem_map_of_mem hmem)
                · exact nomatch flowing.symm.trans waits
              rw [passedFrom, if_neg hpast, follows]
              exact congrArg (step :: ·) (ih hnodup hroute hlast (by simpa using hfuel))

theorem passedFrom_subset {step : Step} (hstep : step ∈ graph.steps) (last : Option String)
    (fuel : Nat) : graph.passedFrom last fuel step ⊆ graph.steps := by
  induction fuel generalizing step with
  | zero => exact List.nil_subset _
  | succ fuel ih =>
      unfold passedFrom
      split
      · simpa using hstep
      · split
        · exact List.cons_subset.mpr ⟨hstep, ih (mem_steps_of_stepAfter? ‹_›)⟩
        · simpa using hstep

theorem passedAfter_subset (step : Step) (choice : Value) (last : Option String) :
    graph.passedAfter step choice last ⊆ graph.steps := by
  unfold passedAfter
  split
  · obtain ⟨edge, -, hnext⟩ := exists_of_bind_eq_ok ‹graph.resumeStep step choice = _›
    exact passedFrom_subset (mem_steps_of_node hnext).1 _ _
  · exact List.nil_subset _

end Graph

namespace Turn

open Operation (Respects)

/-- From one moment of a turn to another nothing was written, and the conversation stands where it
stood. -/
structure Quiet (t t' : Turn) : Prop where
  graph : t'.conversation.graph = t.conversation.graph
  node : t'.conversation.node = t.conversation.node
  bindings : t'.conversation.bindings = t.conversation.bindings

instance : IsPreorder Turn Quiet where
  refl _ := ⟨rfl, rfl, rfl⟩
  trans _ _ _ first rest := ⟨rest.graph.trans first.graph, rest.node.trans first.node,
    rest.bindings.trans first.bindings⟩

section Quiet

theorem quiet_told (message : Message) (t : Turn) : Quiet t (t.told message) := ⟨rfl, rfl, rfl⟩

theorem quiet_say (role : Role) (content : Value) : Respects Quiet (say role content) :=
  respects_say (fun t _ => quiet_told _ t) content

theorem quiet_announce (sentence : String) : Respects Quiet (announce sentence) :=
  respects_announce (quiet_told _)

theorem quiet_announceWith (sentence : String → String) (named : Value) :
    Respects Quiet (announceWith sentence named) :=
  respects_announceWith (fun _ t => quiet_told _ t) named

theorem quiet_moveTo (state : RunState) : Respects Quiet (moveTo state) :=
  respects_moveTo fun _ => ⟨rfl, rfl, rfl⟩

theorem quiet_record (recorder : Recorder) (step : Step) (narrative : String) (suspended : Bool) :
    Respects Quiet (record recorder step narrative suspended) :=
  respects_record (fun _ _ => ⟨rfl, rfl, rfl⟩) narrative suspended

theorem quiet_process {step : Step} (h : ¬ step.SetsVariable) : Respects Quiet (process step) := by
  unfold process
  cases hkind : step.kind with
  | buttons => exact .bind (respects_offerButtons fun t _ _ => quiet_told _ t) fun _ => .pure _
  | action =>
      refine .bind (.ite (fun _ => ?_) fun _ => .ite (fun hsets => ?_) fun _ => ?_) fun _ => .pure _
      · exact .bind (respects_filled _) fun message => quiet_say .assistant message
      · exact absurd ⟨hkind, hsets⟩ h
      · exact quiet_announceWith _ _
  | waitInput => exact .bind (quiet_announceWith _ _) fun _ => .pure _
  | tag => exact .bind (respects_filled _) fun _ => .bind (quiet_announceWith _ _) fun _ => .pure _
  | stage => exact .bind (respects_filled _) fun _ => .bind (quiet_announceWith _ _) fun _ => .pure _
  | trigger | wait | rule | unknown => exact .bind (quiet_announce _) fun _ => .pure _

end Quiet

/-- From one moment of a turn to another the writers had their turns and nobody else wrote. -/
structure Writes (writers : List Writer) (t t' : Turn) : Prop where
  graph : t'.conversation.graph = t.conversation.graph
  bindings : t'.conversation.bindings = t.conversation.bindings.after writers

/-- From one moment of a turn to another the steps were carried out, the last of them as far as it
got. -/
structure CarriesOut (steps : List Step) (t t' : Turn) : Prop extends
    Writes (settersIn steps) t t' where
  stands : ∃ last, steps.getLast? = some last ∧ t'.conversation.node = some last.id

variable {recorder : Recorder} {step : Step} {t t' t'' : Turn}

theorem Quiet.writes (h : Quiet t t') : Writes [] t t' := ⟨h.graph, h.bindings⟩

theorem Writes.trans {first rest : List Writer} (h : Writes first t t') (h' : Writes rest t' t'') :
    Writes (first ++ rest) t t'' := by
  refine ⟨h'.graph.trans h.graph, ?_⟩
  rw [h'.bindings, h.bindings, Variables.after_append]

namespace CarriesOut

theorem trans {first rest : List Step} (h : CarriesOut first t t') (h' : CarriesOut rest t' t'') :
    CarriesOut (first ++ rest) t t'' := by
  obtain ⟨last, hlast, hnode⟩ := h'.stands
  refine ⟨?_, last, by rw [List.getLast?_append, hlast, Option.some_or], hnode⟩
  rw [settersIn_append]
  exact h.toWrites.trans h'.toWrites

theorem quiet {steps : List Step} (h : CarriesOut steps t t') (h' : Quiet t' t'') :
    CarriesOut steps t t'' := by
  obtain ⟨last, hlast, hnode⟩ := h.stands
  exact ⟨⟨h'.graph.trans h.graph, h'.bindings.trans h.bindings⟩, last, hlast, h'.node.trans hnode⟩

end CarriesOut

section CarriesOut

/-- A step that sets a variable has written it before it says so. -/
theorem writes_setVariable (step : Step) (t : Turn) :
    Writes [.action step] t ((setVariable step).perform t).2 ∧
      ((setVariable step).perform t).2.conversation.node = t.conversation.node := by
  have hfails {fault : Fault}
      (h : (Writer.action step).write t.conversation.bindings = .error fault) :
      Writes [.action step] t t := ⟨rfl, (Variables.after_singleton_of_error h).symm⟩
  rw [setVariable, Operation.perform_bind, perform_filled]
  cases hvalue : interpolateText t.conversation.bindings.context (step.setting "value") with
  | error fault => exact ⟨hfails (by rw [Writer.write, Writer.value, hvalue]; rfl), rfl⟩
  | ok value =>
      dsimp only
      rw [Operation.perform_bind_ok (perform_current t)]
      cases hset : t.conversation.bindings.set (step.setting "variable") value with
      | error fault => exact ⟨hfails (by rw [Writer.write, Writer.value, hvalue]; exact hset), rfl⟩
      | ok bindings =>
          let written : Turn := { t with conversation := { t.conversation with bindings } }
          have hwrite : (Writer.action step).write t.conversation.bindings = .ok bindings := by
            rw [Writer.write, Writer.value, hvalue]
            exact hset
          have hquiet := quiet_announceWith ("Variable set: " ++ ·) (step.setting "variable") written
          refine ⟨⟨hquiet.graph, ?_⟩, hquiet.node⟩
          exact hquiet.bindings.trans (Variables.after_singleton_of_write hwrite).symm

theorem writes_process (step : Step) (t : Turn) :
    Writes (settersIn [step]) t ((process step).perform t).2 ∧
      ((process step).perform t).2.conversation.node = t.conversation.node := by
  by_cases hsets : step.SetsVariable
  · have hact : act step = setVariable step := by
      rw [act, hsets.2.1, if_neg (by decide), if_pos ⟨rfl, hsets.2.2⟩]
    rw [settersIn_singleton_of_sets hsets, process, hsets.1,
      Operation.perform_bind_snd (by exact fun _ _ => rfl), hact]
    exact writes_setVariable step t
  · have hquiet := quiet_process hsets t
    rw [settersIn_singleton_of_not_sets hsets]
    exact ⟨hquiet.writes, hquiet.node⟩

theorem carriesOut_visit (recorder : Recorder) (step : Step) (t : Turn) :
    CarriesOut [step] t ((visit recorder step).perform t).2 := by
  let reached : Turn := { t with conversation := { t.conversation with node := some step.id } }
  have hprocess : CarriesOut [step] t ((process step).perform reached).2 := by
    obtain ⟨⟨hgraph, hbindings⟩, hnode⟩ := writes_process step reached
    exact ⟨⟨hgraph, hbindings⟩, step, rfl, hnode⟩
  have hkept (mark : Nat) (suspend : Bool) : Respects Quiet (do
      let said := (← current).messages.drop mark
      record recorder step (narrativeOf said) suspend
      pure suspend) :=
    .bind respects_current fun _ => .bind (quiet_record recorder step _ suspend) fun _ => .pure _
  rw [visit, Operation.perform_bind_ok (by rfl : (change _).perform t = (.ok (), reached)),
    Operation.perform_bind_ok (perform_current reached), Operation.perform_bind]
  rcases hperform : (process step).perform reached with ⟨fault | suspend, t'⟩ <;>
    rw [hperform] at hprocess
  · exact hprocess
  · exact hprocess.quiet (hkept _ suspend t')

/-- Of the steps of a route the first ones are carried out, up to one that ends with a fault. -/
theorem carriesOut_along (recorder : Recorder) {route : List Step} (h : route ≠ []) (t : Turn) :
    ∃ done rest, route = done ++ rest ∧ CarriesOut done t ((along recorder route).perform t).2 := by
  induction route generalizing t with
  | nil => exact absurd rfl h
  | cons step route ih =>
      have hvisit := carriesOut_visit recorder step t
      cases route with
      | nil =>
          refine ⟨[step], [], rfl, ?_⟩
          rw [along, Operation.perform_bind]
          rcases hperform : (visit recorder step).perform t with ⟨fault | waits, t'⟩ <;>
            rw [hperform] at hvisit
          · exact hvisit
          · exact hvisit.quiet (Respects.ite (fun _ => quiet_moveTo _) (fun _ => quiet_moveTo _) t')
      | cons next route =>
          rw [along, Operation.perform_bind]
          rcases hperform : (visit recorder step).perform t with ⟨fault | waits, t'⟩ <;>
            rw [hperform] at hvisit
          · exact ⟨[step], next :: route, rfl, hvisit⟩
          · obtain ⟨done, rest, hsplit, hdone⟩ := ih (List.cons_ne_nil next route) t'
            exact ⟨step :: done, rest, congrArg (step :: ·) hsplit, hvisit.trans hdone⟩
          · exact List.cons_ne_nil next route

/-- A walk carries out the steps up to the one where the conversation then stands. -/
theorem carriesOut_walkFrom (recorder : Recorder) (hstep : step ∈ t.conversation.graph.steps) :
    CarriesOut (t.conversation.graph.passed
        ((walkFrom recorder step).perform t).2.conversation.node step)
      t ((walkFrom recorder step).perform t).2 := by
  obtain ⟨route, hroute⟩ := Graph.exists_route hstep
  have hlength := hroute.length_le hstep
  rw [walkFrom, Operation.perform_bind_ok (perform_current t), perform_walk hroute hlength rfl]
  obtain ⟨done, rest, hsplit, hdone⟩ := carriesOut_along recorder hroute.ne_nil t
  obtain ⟨last, hlast, hnode⟩ := hdone.stands
  rw [hnode, Graph.passed, hroute.passedFrom_eq (hroute.nodup hstep) hsplit hlast hlength]
  exact hdone

end CarriesOut

section Writes

theorem writes_follow (recorder : Recorder) (step : Step) (choice : Value) (t : Turn) :
    Writes (settersIn (t.conversation.graph.passedAfter step choice
        ((follow recorder (walkFrom recorder) step choice).perform t).2.conversation.node))
      t ((follow recorder (walkFrom recorder) step choice).perform t).2 := by
  have hnobody {t' : Turn} (h : Quiet t t') {fault : Fault}
      (hnone : t.conversation.graph.resumeStep step choice = .error fault) :
      Writes (settersIn (t.conversation.graph.passedAfter step choice t'.conversation.node)) t t' := by
    rw [Graph.passedAfter, hnone]
    exact h.writes
  rw [follow, Operation.perform_bind_ok (perform_current t)]
  cases hedge : t.conversation.graph.resumeEdge step choice with
  | ok edge =>
      obtain ⟨target, htarget⟩ := Graph.exists_node_target (Graph.mem_edges_of_resumeEdge hedge)
      have hnext : t.conversation.graph.resumeStep step choice = .ok target := by
        rw [Graph.resumeStep, hedge]
        exact htarget
      rw [Operation.perform_bind_ok (perform_current t), htarget, Graph.passedAfter, hnext]
      exact (carriesOut_walkFrom recorder (Graph.mem_steps_of_node htarget).1).toWrites
  | error fault =>
      have hnone : t.conversation.graph.resumeStep step choice = .error fault := by
        rw [Graph.resumeStep, hedge]
        rfl
      refine hnobody ?_ hnone
      cases fault with
      | noPath =>
          have hquiet : Respects Quiet (do
              announce noPathNotice
              record recorder step noPathNotice false
              moveTo .completed) :=
            .bind (quiet_announce _) fun _ => .bind (quiet_record recorder step _ false) fun _ =>
              quiet_moveTo _
          exact hquiet t
      | _ => exact ⟨rfl, rfl, rfl⟩

theorem perform_storeReply_of_unnamed (h : ¬ (step.setting "store_as").truthy = true)
    (content : String) : (storeReply step content).perform t = (.ok (), t) := by
  rw [storeReply, if_neg h]
  rfl

theorem perform_storeReply_of_named (h : (step.setting "store_as").truthy = true)
    (content : String) :
    (storeReply step content).perform t =
      match t.conversation.bindings.set (step.setting "store_as") (.text content) with
      | .ok bindings => (.ok (), { t with conversation := { t.conversation with bindings } })
      | .error fault => (.error fault, t) := by
  rw [storeReply, if_pos h, Operation.perform_bind_ok (perform_current t)]
  cases t.conversation.bindings.set (step.setting "store_as") (.text content) <;> rfl

/-- Who writes when a reply makes a choice at a step, and the conversation then stands somewhere. -/
def writersPast (graph : Graph) (step : Step) (reply : Reply) (choice : Value)
    (last : Option String) : List Writer :=
  if step.LetsPass reply choice then
    step.keeps reply choice ++ settersIn (graph.passedAfter step choice last)
  else []

theorem writersPast_of_not_letsPass {graph : Graph} {reply : Reply} {choice : Value}
    (h : ¬ step.LetsPass reply choice) (last : Option String) :
    writersPast graph step reply choice last = [] := if_neg h

/-- A reply that is accepted is kept first, where it has a name, and then it is followed. -/
theorem writes_accepted (recorder : Recorder) (hkind : step.kind = .waitInput) {reply : Reply}
    (hfits : Reply.fits reply.content (step.setting "validation") = .ok true) (t : Turn) :
    let ended := ((do
      storeReply step reply.content
      follow recorder (walkFrom recorder) step .null : Operation Turn Unit).perform t).2
    Writes (writersPast t.conversation.graph step reply .null ended.conversation.node) t ended := by
  intro ended
  have htyped : step.kind = .waitInput ∧ Value.null = .null := ⟨hkind, rfl⟩
  by_cases hname : (step.setting "store_as").truthy = true
  · have hstore := perform_storeReply_of_named (t := t) hname reply.content
    cases hset : t.conversation.bindings.set (step.setting "store_as") (.text reply.content) with
    | error fault =>
        rw [hset] at hstore
        have hunusable : ¬ step.LetsPass reply .null := by
          intro h
          obtain ⟨_, hset'⟩ := Variables.exists_set ((h htyped).2 hname) t.conversation.bindings
            (.text reply.content)
          exact nomatch hset.symm.trans hset'
        rw [show ended = t by exact congrArg Prod.snd (Operation.perform_bind_error hstore),
          writersPast_of_not_letsPass hunusable]
        exact ⟨rfl, rfl⟩
    | ok bindings =>
        rw [hset] at hstore
        have hwrite : (Writer.reply step reply.content).write t.conversation.bindings =
            .ok bindings := hset
        let kept : Turn := { t with conversation := { t.conversation with bindings } }
        have hended : ended = ((follow recorder (walkFrom recorder) step .null).perform kept).2 :=
          congrArg Prod.snd (Operation.perform_bind_ok hstore)
        have hkept : Writes [.reply step reply.content] t kept :=
          ⟨rfl, (Variables.after_singleton_of_write hwrite).symm⟩
        have hpass : step.LetsPass reply .null :=
          fun _ => ⟨hfits, fun _ => Variables.isName_of_set hset⟩
        rw [writersPast, if_pos hpass, Step.keeps, if_pos ⟨htyped, hname⟩, hended]
        exact hkept.trans (writes_follow recorder step .null kept)
  · have hended : ended = ((follow recorder (walkFrom recorder) step .null).perform t).2 :=
      congrArg Prod.snd (Operation.perform_bind_ok (perform_storeReply_of_unnamed hname _))
    have hpass : step.LetsPass reply .null := fun _ => ⟨hfits, fun h => absurd h hname⟩
    rw [writersPast, if_pos hpass, Step.keeps, if_neg fun h => hname h.2, hended]
    exact writes_follow recorder step .null t

/-- A typed reply that is not accepted is refused, and nothing is written. -/
theorem writes_takeIn (recorder : Recorder) (hkind : step.kind = .waitInput) (reply : Reply)
    (t : Turn) :
    let ended := ((do
      if ← acceptTyped step reply.content then
        follow recorder (walkFrom recorder) step .null : Operation Turn Unit).perform t).2
    Writes (writersPast t.conversation.graph step reply .null ended.conversation.node) t ended := by
  intro ended
  have hunfit (h : Reply.fits reply.content (step.setting "validation") ≠ .ok true)
      (hquiet : Quiet t ended) :
      Writes (writersPast t.conversation.graph step reply .null ended.conversation.node) t ended := by
    rw [writersPast_of_not_letsPass fun hpass => h (hpass ⟨hkind, rfl⟩).1]
    exact hquiet.writes
  cases hfits : Reply.fits reply.content (step.setting "validation") with
  | error fault =>
      have hended : ended = t := by
        simp only [ended, acceptTyped, bind_assoc, hfits]
        rfl
      refine hunfit (by rw [hfits]; rintro ⟨⟩) ?_
      rw [hended]
      exact ⟨rfl, rfl, rfl⟩
  | ok fits =>
      have hchecked : ended = ((do
          if fits then do
            storeReply step reply.content
            follow recorder (walkFrom recorder) step .null
          else do
            say .system (← Operation.ofExcept step.refusal)
            moveTo .suspended : Operation Turn Unit).perform t).2 := by
        simp only [ended, acceptTyped, bind_assoc]
        rw [hfits, Operation.perform_bind_ok (Operation.perform_ofExcept _ _)]
        cases fits <;>
          simp only [bind_assoc, pure_bind, if_true, if_neg Bool.false_ne_true, bind_pure_unit]
      cases fits with
      | false =>
          have hquiet : Respects Quiet (do
              let refusal ← Operation.ofExcept step.refusal
              say .system refusal
              moveTo .suspended) :=
            .bind (.ofExcept _) fun _ => .bind (quiet_say _ _) fun _ => quiet_moveTo _
          refine hunfit (by rw [hfits]; decide) ?_
          rw [hchecked]
          exact hquiet t
      | true =>
          rw [hchecked]
          exact writes_accepted recorder hkind hfits t

/-- Who writes when a reply is delivered to a step. -/
def writersAt (graph : Graph) (step : Step) (reply : Reply) (last : Option String) : List Writer :=
  match reply.choiceAt step with
  | .ok choice => writersPast graph step reply choice last
  | .error _ => []

theorem writes_deliver (recorder : Recorder) (step : Step) (reply : Reply) {t : Turn}
    (hsuspended : t.conversation.state = .suspended) :
    let ended := ((deliver recorder (walkFrom recorder) step reply).perform t).2
    Writes (writersAt t.conversation.graph step reply ended.conversation.node) t ended := by
  let heard : Turn := (t.moved .running).told ⟨.user, reply.shown, none⟩
  have hheard : Writes [] t heard := ⟨rfl, rfl⟩
  dsimp only
  rw [deliver, Operation.perform_bind_ok (perform_moveTo (by rw [hsuspended]; decide)),
    Operation.perform_bind_ok (perform_sayText _ .user reply.shown), writersAt]
  cases hchoice : reply.choiceAt step with
  | error fault => exact hheard
  | ok choice =>
      rw [Operation.perform_bind_ok (Operation.perform_ofExcept _ _)]
      refine (hheard.trans ?_ : Writes ([] ++ writersPast heard.conversation.graph step reply choice _)
        t _)
      by_cases htyped : step.kind = .waitInput ∧ choice = .null
      · obtain ⟨hkind, rfl⟩ := htyped
        rw [if_pos ⟨hkind, rfl⟩]
        exact writes_takeIn recorder hkind reply heard
      · have hpass : step.LetsPass reply choice := fun h => absurd h htyped
        have hkeeps : step.keeps reply choice = [] := if_neg fun h => htyped h.1
        rw [if_neg htyped, writersPast, if_pos hpass, hkeeps, List.nil_append]
        exact writes_follow recorder step choice heard

theorem writes_start (recorder : Recorder) (hidle : t.conversation.state = .idle) :
    let ended := ((start (walkFrom recorder)).perform t).2
    Writes (settersIn (t.conversation.graph.passed ended.conversation.node
      t.conversation.graph.trigger)) t ended := by
  have hmoved : Writes [] t (t.moved .running) := ⟨rfl, rfl⟩
  have hwalked := carriesOut_walkFrom (t := t.moved .running) recorder
    t.conversation.graph.trigger_mem_steps
  rw [start, Operation.perform_bind_ok (perform_current t), if_neg (not_not.mpr hidle),
    Operation.perform_bind_ok (perform_moveTo (by rw [hidle]; decide)),
    Operation.perform_bind_snd (by exact fun _ _ => rfl)]
  exact hmoved.trans hwalked.toWrites

end Writes

end Turn

namespace Conversation

variable {c : Conversation}

/-- The step where the conversation waits, the reply to it, and the choice with which the reply gets
past the step, if it does. -/
def accepted? (c : Conversation) (input : Value) : Option (Step × Reply × Value) :=
  if c.state = .suspended then
    match Reply.ofValue input, c.graph.node (c.node.getD "") with
    | .ok reply, .ok step =>
      match reply.choiceAt step with
      | .ok choice => if step.LetsPass reply choice then some (step, reply, choice) else none
      | .error _ => none
    | _, _ => none
  else none

/-- The steps that are carried out when the request is handled, one after the other: those from the
trigger on when the conversation starts, and those after a reply that gets past the step where the
conversation waits. The last of them is where the conversation stands in the end, also if a fault
broke it off there. -/
def carriedOut (c : Conversation) (occasion : Occasion) : List Step :=
  let stands := (c.meet occasion).conversation.node
  match occasion.request with
  | .start => if c.state = .idle then c.graph.passed stands c.graph.trigger else []
  | .resume input =>
    match c.accepted? input with
    | some (step, _, choice) => c.graph.passedAfter step choice stands
    | none => []
  | .note _ => []

/-- The reply that is kept when the request is handled. -/
def kept (c : Conversation) : Request → List Writer
  | .resume input =>
    match c.accepted? input with
    | some (step, reply, choice) => step.keeps reply choice
    | none => []
  | .start | .note _ => []

/-- Who writes variables when the request is handled, one after the other. -/
def writers (c : Conversation) (occasion : Occasion) : List Writer :=
  c.bindings.writing (c.kept occasion.request ++ settersIn (c.carriedOut occasion))

/-- Who writes variables in a run of requests. -/
def allWriters (c : Conversation) : List Occasion → List Writer
  | [] => []
  | occasion :: rest => c.writers occasion ++ (c.meet occasion).conversation.allWriters rest

section Accepted

variable {input : Value} {recorder : Recorder} {observer : Observer}

/-- A reply that does not get past the step has nobody write. -/
theorem nobody_of_accepted?_eq_none (h : c.accepted? input = none) :
    c.kept (.resume input) ++ settersIn (c.carriedOut ⟨.resume input, recorder, observer⟩) = [] := by
  simp only [kept, carriedOut, h]
  rfl

/-- A reply that is heard is kept and followed, if it gets past the step. -/
theorem writersAt_eq (hsuspended : c.state = .suspended) {step : Step} {reply : Reply}
    (hreply : Reply.ofValue input = .ok reply)
    (hwaits : c.graph.node (c.node.getD "") = .ok step) :
    c.kept (.resume input) ++ settersIn (c.carriedOut ⟨.resume input, recorder, observer⟩) =
      Turn.writersAt c.graph step reply
        (c.meet ⟨.resume input, recorder, observer⟩).conversation.node := by
  have haccepted : c.accepted? input =
      match reply.choiceAt step with
      | .ok choice => if step.LetsPass reply choice then some (step, reply, choice) else none
      | .error _ => none := by
    rw [accepted?, if_pos hsuspended, hreply, hwaits]
  unfold Turn.writersAt
  cases hchoice : reply.choiceAt step with
  | error fault =>
      rw [hchoice] at haccepted
      exact nobody_of_accepted?_eq_none haccepted
  | ok choice =>
      simp only [hchoice] at haccepted
      by_cases hpass : step.LetsPass reply choice
      · rw [if_pos hpass] at haccepted
        simp only [kept, carriedOut, haccepted, Turn.writersPast, if_pos hpass]
      · rw [if_neg hpass] at haccepted
        exact (nobody_of_accepted?_eq_none haccepted).trans
          (Turn.writersPast_of_not_letsPass hpass _).symm

end Accepted

/-- The variables are those that the kept reply and the steps carried out make of them, also if the
request ended with a fault. -/
theorem bindings_meet (hplaced : c.Placed) (occasion : Occasion) :
    (c.meet occasion).conversation.bindings =
      c.bindings.after (c.kept occasion.request ++ settersIn (c.carriedOut occasion)) := by
  obtain ⟨request, recorder, observer⟩ := occasion
  cases request with
  | start =>
      by_cases hidle : c.state = .idle
      · have hwrites := Turn.writes_start (t := c.opened observer) recorder hidle
        rw [← closed_start] at hwrites
        rw [kept, carriedOut, if_pos hidle, List.nil_append]
        exact hwrites.bindings
      · rw [kept, carriedOut, if_neg hidle, meet, handle_conversation,
          closed_start_of_ne_idle c recorder observer hidle]
        rfl
  | resume input =>
      have hnobody (h : c.accepted? input = none)
          (hclosed : c.closed recorder observer (.resume input) = c.opened observer) :
          (c.meet ⟨.resume input, recorder, observer⟩).conversation.bindings =
            c.bindings.after (c.kept (.resume input) ++
              settersIn (c.carriedOut ⟨.resume input, recorder, observer⟩)) := by
        rw [nobody_of_accepted?_eq_none h, meet, handle_conversation, hclosed]
        rfl
      by_cases hsuspended : c.state = .suspended
      · obtain ⟨step, hstep, hnode, -⟩ := hplaced hsuspended
        have hwaits := node_of_mem_steps hnode hstep
        have hopened : (c.opened observer).conversation.state = .suspended := hsuspended
        cases hreply : Reply.ofValue input with
        | error fault =>
            refine hnobody (by rw [accepted?, if_pos hsuspended, hreply]) ?_
            rw [closed_resume, Turn.resume, Operation.perform_bind_ok (Turn.perform_current _),
              if_neg (not_not.mpr hopened), hreply]
            rfl
        | ok reply =>
            have hended : (c.meet ⟨.resume input, recorder, observer⟩).conversation =
                ((Turn.deliver recorder (Turn.walkFrom recorder) step reply).perform
                  (c.opened observer)).2.conversation := by
              rw [meet, handle_conversation, closed_resume,
                Turn.perform_resume_of_suspended hopened hwaits hreply,
                Operation.perform_bind_snd (by exact fun _ _ => rfl)]
            rw [writersAt_eq hsuspended hreply hwaits, hended]
            exact (Turn.writes_deliver recorder step reply hopened).bindings
      · refine hnobody (by rw [accepted?, if_neg hsuspended]) ?_
        exact closed_resume_of_ne_suspended c recorder observer hsuspended input
  | note content =>
      obtain ⟨said, -, -, hclosed⟩ := c.closed_note recorder observer content
      rw [meet, handle_conversation, hclosed]
      rfl

/-- Replaying who wrote gives the variables after the requests, also if some ended with faults. -/
theorem replay_meetAll (hplaced : c.Placed) (occasions : List Occasion) :
    c.bindings.replay (c.allWriters occasions) = .ok (c.meetAll occasions).1.bindings := by
  induction occasions generalizing c with
  | nil => rfl
  | cons occasion rest ih =>
      have hfirst : c.bindings.replay (c.writers occasion) =
          .ok (c.meet occasion).conversation.bindings := by
        rw [writers, Variables.replay_writing, bindings_meet hplaced]
      have hrest := ih ((becomes_meet hplaced occasion).placed hplaced)
      rw [allWriters, Variables.replay, List.foldlM_append]
      exact (congrArg (· >>= _) hfirst).trans hrest

/-- A reply is accepted by the step where the conversation waits. -/
theorem letsPass_of_accepted? {input choice : Value} {step : Step} {reply : Reply}
    (h : c.accepted? input = some (step, reply, choice)) :
    step ∈ c.graph.steps ∧ step.LetsPass reply choice := by
  unfold accepted? at h
  split at h
  · split at h
    · split at h
      · split at h
        · cases h
          exact ⟨(Graph.mem_steps_of_node ‹_›).1, ‹_›⟩
        · cases h
      · cases h
    · cases h
  · cases h

/-- Only steps of the graph are carried out. -/
theorem carriedOut_subset (c : Conversation) (occasion : Occasion) :
    c.carriedOut occasion ⊆ c.graph.steps := by
  obtain ⟨request, recorder, observer⟩ := occasion
  cases request with
  | start =>
      unfold carriedOut
      dsimp only
      split
      · exact Graph.passedFrom_subset c.graph.trigger_mem_steps _ _
      · exact List.nil_subset _
  | resume input =>
      unfold carriedOut
      dsimp only
      split
      · exact Graph.passedAfter_subset _ _ _
      · exact List.nil_subset _
  | note content => exact List.nil_subset _

/-- What is kept is a typed reply that the step where the conversation waits has accepted. -/
theorem exists_of_mem_kept {request : Request} {writer : Writer} (h : writer ∈ c.kept request) :
    ∃ step ∈ c.graph.steps, ∃ content, writer = .reply step content ∧ step.kind = .waitInput ∧
      Reply.fits content (step.setting "validation") = .ok true := by
  cases request with
  | resume input =>
      unfold kept at h
      dsimp only at h
      split at h
      · obtain ⟨hmem, hpass⟩ := letsPass_of_accepted? ‹c.accepted? input = _›
        unfold Step.keeps at h
        split at h
        · rename_i htyped
          exact ⟨_, hmem, _, List.mem_singleton.mp h, htyped.1.1, (hpass htyped.1).1⟩
        · cases h
      · cases h
  | start => cases h
  | note content => cases h

/-- Who writes a variable is a step of the graph that may. -/
theorem declares_of_mem_writers {occasion : Occasion} {writer : Writer}
    (h : writer ∈ c.writers occasion) : c.graph.Declares writer.name := by
  rcases List.mem_append.mp (Variables.writing_subset _ _ h) with hkept | hsetter
  · obtain ⟨step, hstep, content, rfl, hkind, -⟩ := exists_of_mem_kept hkept
    exact ⟨step, hstep, .inr ⟨hkind, rfl⟩⟩
  · obtain ⟨step, hmem, rfl⟩ := List.mem_map.mp hsetter
    obtain ⟨hmem, hsets⟩ := List.mem_filter.mp hmem
    exact ⟨step, carriedOut_subset c occasion hmem, .inl ⟨of_decide_eq_true hsets, rfl⟩⟩

theorem declares_of_mem_allWriters (hplaced : c.Placed) {occasions : List Occasion}
    {writer : Writer} (h : writer ∈ c.allWriters occasions) : c.graph.Declares writer.name := by
  induction occasions generalizing c with
  | nil => cases h
  | cons occasion rest ih =>
      have hbecomes := becomes_meet hplaced occasion
      rw [← hbecomes.graph]
      refine (List.mem_append.mp h).elim (fun hfirst => ?_) (ih (hbecomes.placed hplaced))
      rw [hbecomes.graph]
      exact declares_of_mem_writers hfirst

/-- Variables change only where the graph says so. However requests follow each other, and whether
they end well or with faults, the variables are what the steps carried out that set one and the
replies that are kept made of them, each in its turn. A variable that no step of the graph declares
is as it was at the beginning, and any other has the value that the last of its writers gave it. -/
theorem variables_of_meetAll (graph : Graph) (id routine : String) (bindings : Variables)
    (occasions : List Occasion) :
    let made : Conversation := { graph, id, routine, bindings }
    let c := (made.meetAll occasions).1
    let writers := made.allWriters occasions
    bindings.replay writers = .ok c.bindings ∧
    (∀ writer ∈ writers, graph.Declares writer.name) ∧
    (∀ name, (∀ declared, graph.Declares declared →
        Variables.nameForm declared ≠ Variables.nameForm name) →
      c.bindings.get? name = bindings.get? name) ∧
    ∀ before writer after, writers = before ++ writer :: after →
      (∀ later ∈ after, Variables.nameForm later.name ≠ Variables.nameForm writer.name) →
      ∃ found value, bindings.replay before = .ok found ∧ writer.value found = .ok value ∧
        c.bindings.get? writer.name = some value := by
  intro made c writers
  have hplaced : made.Placed := placed_of_idle rfl
  have hreplay : bindings.replay writers = .ok c.bindings := replay_meetAll hplaced occasions
  have hdeclared : ∀ writer ∈ writers, graph.Declares writer.name :=
    fun writer hmem => declares_of_mem_allWriters hplaced hmem
  refine ⟨hreplay, hdeclared, ?undeclared, ?last⟩
  case undeclared =>
    intro name hname
    exact Variables.get?_replay_of_ne hreplay fun writer hmem => hname _ (hdeclared writer hmem)
  case last =>
    intro before writer after hwriters hlast
    rw [hwriters] at hreplay
    exact Variables.get?_replay_of_last hreplay hlast

/-- A name is asked for twice, and the greeting is made of it each time. A reply that picks a button
is kept by nobody. -/
theorem variables_of_meetAll_at_greeting :
    let ask : Step :=
      { id := "ask", type := "wait_input"
        config := [("store_as", .text "name"),
          ("button_options", .list [.object [("id", .text "later"), ("title", .text "Later")]])] }
    let greet : Step :=
      { id := "greet", type := "action", key := some "set_variable"
        config := [("variable", .text "greeting"), ("value", .text "Hi \x7b\x7bname\x7d\x7d")] }
    let d : Definition :=
      { steps := [{ id := "t", type := "trigger" }, ask, greet]
        edges := [{ source := "t", target := "ask" }, { source := "ask", target := "greet" },
          { source := "greet", target := "ask" }] }
    let graph : Graph := ⟨{}, d, by decide +kernel⟩
    let made : Conversation := { graph, id := "run", routine := "r" }
    let occasions : List Occasion :=
      [.start, .resume (.text "Ada"), .resume (.text "later"), .resume (.text "friend")].map fun
        request => ⟨request, .keeping, fun _ => .ok ()⟩
    made.allWriters occasions = [.reply ask "Ada", .action greet, .action greet,
        .reply ask "friend", .action greet] ∧
      ∃ found, Variables.replay {} [.reply ask "Ada", .action greet, .action greet,
          .reply ask "friend"] = .ok found ∧ found.get? (.text "name") = some (.text "friend") ∧
        (made.meetAll occasions).1.bindings.get? (.text "greeting") =
          some (.text "Hi friend") := by
  intro ask greet d graph made occasions
  have hwriters : made.allWriters occasions = [.reply ask "Ada", .action greet, .action greet,
      .reply ask "friend", .action greet] := by decide +kernel
  obtain ⟨-, -, -, hlast⟩ := variables_of_meetAll graph "run" "r" {} occasions
  obtain ⟨found, value, hbefore, hvalue, hgreeting⟩ :=
    hlast [.reply ask "Ada", .action greet, .action greet, .reply ask "friend"] (.action greet) []
      hwriters nofun
  obtain rfl : found = .ofFields [("name", .text "friend"), ("greeting", .text "Hi Ada")] :=
    Except.ok.inj (hbefore.symm.trans (by decide +kernel))
  obtain rfl : value = .text "Hi friend" := Except.ok.inj (hvalue.symm.trans (by decide +kernel))
  rw [show (Writer.action greet).name = .text "greeting" by decide] at hgreeting
  refine ⟨hwriters, _, hbefore, by decide +kernel, ?_⟩
  unfold made
  exact hgreeting

end Conversation

end Workflow
