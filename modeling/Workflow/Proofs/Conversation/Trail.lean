import Workflow.Proofs.Conversation.Episode

/-!
# The accounts of a conversation walk its graph

Between requests the accounts of a conversation begin at the trigger, each of them is followed by the
one the graph or the person leads to, and the last says how the conversation stands. This is
`Conversation.Accounted`, which every episode preserves and so every run.
-/

namespace Workflow

namespace Conversation

variable {c c' : Conversation} {entries accounts : List Account}

/-- The last account says how the conversation stands. -/
def Stands (c : Conversation) : Option Account → Prop
  | none => c.state = .idle
  | some last =>
    (c.state = .suspended ∧ last.Awaits ∧ c.node = some last.step.id ∧
        last.step ∈ c.graph.steps) ∨
      (c.state = .completed ∧ (last.Pathless ∨
        (last.step.interactive = false ∧ c.graph.stepAfter? last.step.id = none)))

/-- The accounts walk the graph of the conversation up to where it stands. -/
structure Accounted (c : Conversation) (entries : List Account) : Prop where
  first : ∀ entry ∈ entries.head?, entry.step = c.graph.trigger
  fair : ∀ entry ∈ entries, entry.Fair
  linked : entries.IsChain (Account.Precedes c.graph)
  stands : c.Stands entries.getLast?

end Conversation

namespace Account

variable {graph : Graph} {step : Step} {accounts : List Account}

/-- The accounts of a route begin at its step. -/
theorem exists_cons_of_route (h : graph.Route step (accounts.map Account.step)) :
    ∃ first more, accounts = first :: more ∧ first.step = step := by
  obtain ⟨rest, hrest⟩ := h.exists_cons
  obtain ⟨first, more, rfl, hfirst, -⟩ := List.map_eq_cons_iff.mp hrest
  exact ⟨first, more, rfl, hfirst⟩

/-- The accounts of a route follow each other along default edges. -/
theorem linked_of_route (h : graph.Route step (accounts.map Account.step)) :
    accounts.IsChain (Precedes graph) := by
  generalize hroute : accounts.map Account.step = route at h
  induction h generalizing accounts with
  | waits _ =>
      obtain ⟨account, rfl, -⟩ := List.map_eq_singleton_iff.mp hroute
      exact List.isChain_singleton account
  | ends _ _ =>
      obtain ⟨account, rfl, -⟩ := List.map_eq_singleton_iff.mp hroute
      exact List.isChain_singleton account
  | goes flowing follows rest ih =>
      obtain ⟨account, accounts, rfl, rfl, rfl⟩ := List.map_eq_cons_iff.mp hroute
      refine List.isChain_cons.mpr ⟨fun next hnext => .inl ⟨flowing, ?_⟩, ih rfl⟩
      obtain ⟨_, _, rfl, rfl⟩ := exists_cons_of_route rest
      obtain rfl := Option.mem_some_iff.mp hnext
      exact follows

/-- A route is over at a step that waits or has no default edge. -/
theorem last_of_route (h : graph.Route step (accounts.map Account.step)) (hstep : step ∈ graph.steps)
    {last : Account} (hlast : accounts.getLast? = some last) :
    last.step ∈ graph.steps ∧
      (last.step.interactive = true ∨ graph.stepAfter? last.step.id = none) := by
  have hmem : last.step ∈ accounts.map Account.step :=
    List.mem_map_of_mem (List.mem_of_getLast? hlast)
  refine ⟨h.subset hstep hmem, ?_⟩
  generalize hroute : accounts.map Account.step = route at h
  clear hmem hstep
  induction h generalizing accounts with
  | waits waiting =>
      obtain ⟨account, rfl, rfl⟩ := List.map_eq_singleton_iff.mp hroute
      obtain rfl : account = last := Option.some.inj hlast
      exact .inl waiting
  | ends _ ends =>
      obtain ⟨account, rfl, rfl⟩ := List.map_eq_singleton_iff.mp hroute
      obtain rfl : account = last := Option.some.inj hlast
      exact .inr (Graph.stepAfter?_eq_none_iff.mpr ends)
  | goes flowing follows rest ih =>
      obtain ⟨account, accounts, rfl, rfl, rfl⟩ := List.map_eq_cons_iff.mp hroute
      obtain ⟨next, more, rfl, -⟩ := exists_cons_of_route rest
      exact ih (by rwa [List.getLast?_cons_cons] at hlast) rfl

theorem fair_ofPathless (waits : step.interactive = true) : (ofPathless step).Fair :=
  ⟨rfl, fun awaits => absurd ⟨waits, rfl⟩ awaits.2, fun _ => rfl, rfl⟩

end Account

namespace Conversation

variable {c c' : Conversation} {entries accounts : List Account} {request : Request}

theorem Stands.eq_nil (h : c.Stands entries.getLast?) (idle : c.state = .idle) : entries = [] := by
  cases hlast : entries.getLast? with
  | none => exact List.getLast?_eq_none_iff.mp hlast
  | some last =>
      rw [hlast] at h
      rcases h with ⟨hstate, -⟩ | ⟨hstate, -⟩ <;> exact nomatch idle.symm.trans hstate

/-- A conversation that waits has an account of the step where it waits. -/
theorem Accounted.exists_last (h : c.Accounted entries) (waits : c.state = .suspended) :
    ∃ last, entries.getLast? = some last ∧ last.Awaits ∧ c.node = some last.step.id ∧
      last.step ∈ c.graph.steps := by
  have hstands := h.stands
  cases hlast : entries.getLast? with
  | none =>
      rw [hlast] at hstands
      exact nomatch waits.symm.trans hstands
  | some last =>
      rw [hlast] at hstands
      rcases hstands with ⟨-, hrest⟩ | ⟨hstate, -⟩
      · exact ⟨last, rfl, hrest⟩
      · exact nomatch waits.symm.trans hstate

/-- The step that hears a reply is that of the last account. -/
theorem Accounted.eq_of_hears (h : c.Accounted entries) {input choice : Value} {step : Step}
    {reply : Reply} (hears : c.Hears input step reply choice) :
    ∃ last, entries.getLast? = some last ∧ last.Awaits ∧ c.node = some last.step.id ∧
      last.step = step := by
  obtain ⟨last, hlast, awaits, hnode, hmem⟩ := h.exists_last hears.waits
  have hstep := hears.stands
  rw [hnode, Option.getD_some] at hstep
  obtain ⟨hmem', hid⟩ := Graph.mem_steps_of_node hstep
  exact ⟨last, hlast, awaits, hnode,
    (Definition.eq_of_id_eq c.graph.wellFormed.distinct hmem' hmem hid).symm⟩

theorem accounted_of_walked {step : Step} (h : Walked c step accounts c')
    (hstep : step ∈ c.graph.steps)
    (haccounted : ∀ entry ∈ entries, entry.Fair)
    (hlinked : entries.IsChain (Account.Precedes c.graph))
    (hfirst : ∀ entry ∈ (entries ++ accounts).head?, entry.step = c.graph.trigger)
    (hjoint : ∀ last ∈ entries.getLast?, ∀ next ∈ accounts.head?,
      last.Precedes c.graph next) : c'.Accounted (entries ++ accounts) := by
  obtain ⟨hroute, hreached, last, messages, bindings, hlast, rfl⟩ := h
  refine ⟨hfirst, ?_, hlinked.append (Account.linked_of_route hroute) hjoint, ?_⟩
  · intro entry hmem
    rcases List.mem_append.mp hmem with hmem | hmem
    · exact haccounted entry hmem
    · exact (hreached entry hmem).fair
  · obtain ⟨hmem, hends⟩ := Account.last_of_route hroute hstep hlast
    have hawaits := (hreached last (List.mem_of_getLast? hlast)).awaits_iff
    rw [List.getLast?_append, hlast, Option.some_or]
    cases waits : last.step.interactive with
    | true => exact .inl ⟨rfl, hawaits.mpr waits, rfl, hmem⟩
    | false =>
        refine .inr ⟨rfl, .inr ⟨waits, ?_⟩⟩
        exact hends.resolve_left (by rw [waits]; exact Bool.false_ne_true)

/-- What comes of a reply goes on with the walk. -/
theorem Accounted.follows (h : c.Accounted entries) {last : Account}
    (hlast : entries.getLast? = some last) (awaits : last.Awaits) {choice : Value}
    (follows : Follows c last.step choice accounts c') :
    c'.Accounted (entries ++ accounts) ∧ c'.graph = c.graph ∧ c'.routine = c.routine := by
  have hne : entries ≠ [] := by
    rintro rfl
    cases hlast
  have hfirst : ∀ entry ∈ (entries ++ accounts).head?, entry.step = c.graph.trigger := by
    rw [List.head?_append_of_ne_nil _ hne]
    exact h.first
  cases follows with
  | onward hedge htarget walked =>
      have hmem := (Graph.mem_steps_of_node htarget).1
      refine ⟨accounted_of_walked walked hmem h.fair h.linked hfirst ?_, walked.same⟩
      intro _ hlast' next hnext
      obtain rfl := Option.mem_unique hlast hlast'
      obtain ⟨_, more, rfl, rfl⟩ := Account.exists_cons_of_route walked.route
      obtain rfl := Option.mem_some_iff.mp hnext
      have hreached := walked.reached _ List.mem_cons_self
      refine .inr ⟨awaits, choice, ?_⟩
      rw [Account.Answers, hedge]
      exact ⟨htarget, hreached.not_pathless⟩
  | pathless messages bindings hedge =>
      have hpathless : (Account.ofPathless last.step).Pathless := ⟨awaits.1, rfl⟩
      refine ⟨⟨hfirst, ?_, h.linked.append (List.isChain_singleton _) ?_, ?_⟩, rfl, rfl⟩
      · intro entry hmem
        rcases List.mem_append.mp hmem with hmem | hmem
        · exact h.fair entry hmem
        · rw [List.mem_singleton.mp hmem]
          exact Account.fair_ofPathless awaits.1
      · intro _ hlast' next hnext
        obtain rfl := Option.mem_unique hlast hlast'
        obtain rfl := Option.mem_some_iff.mp hnext
        refine .inr ⟨awaits, choice, ?_⟩
        rw [Account.Answers, hedge]
        exact ⟨rfl, hpathless⟩
      · rw [List.getLast?_concat]
        exact .inr ⟨rfl, .inl hpathless⟩

/-- An episode goes on with the walk. -/
theorem Accounted.turned (h : c.Accounted entries) (hturned : Turned c request accounts c') :
    c'.Accounted (entries ++ accounts) ∧ c'.graph = c.graph ∧ c'.routine = c.routine := by
  cases hturned with
  | quiet messages hstart hresume =>
      rw [List.append_nil]
      exact ⟨⟨h.first, h.fair, h.linked, h.stands⟩, rfl, rfl⟩
  | started idle walked =>
      obtain rfl := h.stands.eq_nil idle
      obtain ⟨first, more, rfl, hfirst⟩ := Account.exists_cons_of_route walked.route
      have hhead : ∀ entry ∈ ([] ++ first :: more).head?, entry.step = c.graph.trigger := by
        rintro entry ⟨⟩
        exact hfirst
      exact ⟨accounted_of_walked walked c.graph.trigger_mem_steps h.fair h.linked hhead nofun,
        walked.same⟩
  | refused messages bindings hears refuses =>
      rw [List.append_nil]
      exact ⟨⟨h.first, h.fair, h.linked, h.stands⟩, rfl, rfl⟩
  | answered hears accepts follows =>
      obtain ⟨last, hlast, awaits, -, rfl⟩ := h.eq_of_hears hears
      exact h.follows hlast awaits follows

/-- Every occasion is smooth. -/
def Smoothly : Conversation → List Occasion → Prop
  | _, [] => True
  | c, occasion :: rest => c.Smooth occasion ∧ (c.meet occasion).conversation.Smoothly rest

theorem smoothly_append {first rest : List Occasion} : c.Smoothly (first ++ rest) ↔
    c.Smoothly first ∧ (c.meetAll first).1.Smoothly rest := by
  induction first generalizing c with
  | nil => exact ⟨fun h => ⟨trivial, h⟩, And.right⟩
  | cons occasion first ih =>
      rw [List.cons_append, Smoothly, Smoothly, ih, and_assoc]
      rfl

/-- However smooth requests follow each other, the accounts go on with the walk. -/
theorem Accounted.meetAll {occasions : List Occasion} (h : c.Accounted entries)
    (hroutine : c.routine ≠ "") (hsmooth : c.Smoothly occasions) (said : List Message) :
    ∃ accounts left, Reads said (c.meetAll occasions).2 accounts left ∧
      (c.meetAll occasions).1.Accounted (entries ++ accounts) ∧
      (c.meetAll occasions).1.graph = c.graph ∧ (c.meetAll occasions).1.routine = c.routine := by
  induction occasions generalizing c entries said with
  | nil => exact ⟨[], said, .nil said, by rwa [List.append_nil], rfl, rfl⟩
  | cons occasion rest ih =>
      obtain ⟨hfirst, hrest⟩ := hsmooth
      obtain ⟨accounts, left, hturned, hreads⟩ := turned_meet hroutine hfirst said
      obtain ⟨haccounted, hgraph, hsame⟩ := h.turned hturned
      obtain ⟨more, left', hreads', haccounted', hgraph', hsame'⟩ :=
        ih haccounted (by rwa [hsame]) hrest left
      refine ⟨accounts ++ more, left', hreads.append hreads', ?_, hgraph'.trans hgraph,
        hsame'.trans hsame⟩
      rw [← List.append_assoc]
      exact haccounted'

theorem accounted_nil (graph : Graph) (id routine : String) (bindings : Variables) :
    Accounted { graph, id, routine, bindings } [] :=
  ⟨nofun, nofun, .nil, rfl⟩

/-- What follows an account is what it leads to, and nothing follows where it leads nowhere. -/
theorem Accounted.after (h : c.Accounted entries) {before after : List Account} {entry : Account}
    (hsplit : entries = before ++ entry :: after) :
    (entry.Pathless → after = []) ∧
      (entry.step.interactive = false →
        after.head?.map Account.step = c.graph.stepAfter? entry.step.id) ∧
      (entry.Awaits → ∀ next ∈ after.head?, ∃ choice, entry.Answers c.graph choice next) := by
  subst hsplit
  have hlinked := h.linked.right_of_append
  cases after with
  | nil =>
      refine ⟨fun _ => rfl, fun flows => ?_, fun _ => nofun⟩
      have hstands := h.stands
      rw [List.getLast?_concat] at hstands
      rcases hstands with ⟨-, awaits, -⟩ | ⟨-, pathless | ⟨-, ends⟩⟩
      · exact nomatch flows.symm.trans awaits.1
      · exact nomatch flows.symm.trans pathless.1
      · exact ends.symm
  | cons next rest =>
      have hprecedes := (List.isChain_cons_cons.mp hlinked).1
      refine ⟨fun pathless => ?_, fun flows => ?_, fun awaits next' hnext => ?_⟩
      · rcases hprecedes with ⟨flows, -⟩ | ⟨awaits, -⟩
        · exact nomatch flows.symm.trans pathless.1
        · exact absurd pathless awaits.2
      · rcases hprecedes with ⟨-, follows⟩ | ⟨awaits, -⟩
        · exact follows.symm
        · exact nomatch flows.symm.trans awaits.1
      · obtain rfl := Option.mem_some_iff.mp hnext
        rcases hprecedes with ⟨flows, -⟩ | ⟨-, hanswers⟩
        · exact nomatch flows.symm.trans awaits.1
        · exact hanswers

theorem Accounted.status (h : c.Accounted entries) {entry : Account} (hmem : entry ∈ entries) :
    entry.result.status = if entry.step.interactive ∧ ¬ entry.Pathless then .suspended
      else .completed := by
  split
  · exact (h.fair entry hmem).suspended ‹_›
  · exact (h.fair entry hmem).completed ‹_›

theorem Accounted.awaits_of_suspended (h : c.Accounted entries) {entry : Account}
    (hmem : entry ∈ entries) (hstatus : entry.result.status = .suspended) : entry.Awaits := by
  by_contra passes
  exact nomatch hstatus.symm.trans ((h.fair entry hmem).completed passes)

/-- The last account tells the state of the conversation. -/
theorem Accounted.state_iff (h : c.Accounted entries) :
    (c.state = .suspended ↔ ∃ last, entries.getLast? = some last ∧
        last.result.status = .suspended) ∧
      (c.state = .completed ↔ ∃ last, entries.getLast? = some last ∧
        last.result.status = .completed) ∧ (c.state = .idle ↔ entries = []) := by
  have hstands := h.stands
  cases hlast : entries.getLast? with
  | none =>
      rw [hlast] at hstands
      have hidle : c.state = .idle := hstands
      have hnil : entries = [] := List.getLast?_eq_none_iff.mp hlast
      exact ⟨by simp [hidle], by simp [hidle], by simp [hidle, hnil]⟩
  | some last =>
      rw [hlast] at hstands
      have hmem := List.mem_of_getLast? hlast
      have hne := List.ne_nil_of_mem hmem
      have hstatus : last.Awaits ∧ c.state = .suspended ∨
          ¬ last.Awaits ∧ c.state = .completed := by
        rcases hstands with ⟨hstate, awaits, -⟩ | ⟨hstate, pathless | ⟨flows, -⟩⟩
        · exact .inl ⟨awaits, hstate⟩
        · exact .inr ⟨fun awaits => awaits.2 pathless, hstate⟩
        · exact .inr ⟨fun awaits => absurd awaits.1 (by simp [flows]), hstate⟩
      rcases hstatus with ⟨awaits, hstate⟩ | ⟨passes, hstate⟩
      · simp [hstate, hne, (h.fair last hmem).suspended awaits]
      · simp [hstate, hne, (h.fair last hmem).completed passes]

/-- What the reply to a conversation that waits adds. -/
theorem Accounted.reply (h : c.Accounted entries) (hsuspended : c.state = .suspended) {input : Value}
    (hturned : Turned c (.resume input) accounts c') :
    ∃ waiting reply choice, entries.getLast? = some waiting ∧ c.node = some waiting.step.id ∧
      Reply.ofValue input = .ok reply ∧ reply.choiceAt waiting.step = .ok choice ∧
      (waiting.step.Refuses reply choice → accounts = [] ∧ c'.state = .suspended) ∧
      (¬ waiting.step.Refuses reply choice → ∃ following rest, accounts = following :: rest ∧
        waiting.Answers c.graph choice following ∧
        (following.Pathless → rest = [] ∧ c'.state = .completed)) := by
  cases hturned with
  | quiet messages hstart hresume => exact absurd hsuspended (hresume input rfl)
  | @refused _ choice step reply messages bindings hears refuses =>
      obtain ⟨last, hlast, -, hnode, rfl⟩ := h.eq_of_hears hears
      exact ⟨last, reply, choice, hlast, hnode, hears.sends, hears.picks,
        fun _ => ⟨rfl, hsuspended⟩, fun accepts => absurd refuses accepts⟩
  | @answered _ choice step reply _ _ hears accepts follows =>
      obtain ⟨last, hlast, awaits, hnode, rfl⟩ := h.eq_of_hears hears
      refine ⟨last, reply, choice, hlast, hnode, hears.sends, hears.picks,
        fun refuses => absurd refuses accepts, fun _ => ?_⟩
      cases follows with
      | onward hedge htarget walked =>
          obtain ⟨following, rest, rfl, rfl⟩ := Account.exists_cons_of_route walked.route
          have hpath := (walked.reached following List.mem_cons_self).not_pathless
          refine ⟨following, rest, rfl, ?_, fun pathless => absurd pathless hpath⟩
          rw [Account.Answers, hedge]
          exact ⟨htarget, hpath⟩
      | pathless messages bindings hedge =>
          refine ⟨.ofPathless last.step, [], rfl, ?_, fun _ => ⟨rfl, rfl⟩⟩
          rw [Account.Answers, hedge]
          exact ⟨rfl, awaits.1, rfl⟩

/-- The results that are kept of a run walk the graph. The first is that of the trigger. A step is
recorded as suspended when it waits for a person and as completed otherwise, in the words that were
said while it was carried out; a reply that leads nowhere is recorded as completed at the step that
waited. A completed step is followed by the step after it, and ends the run when there is none. A
step that waits is followed, for the reply that is accepted, by the target of the edge the reply
selects, or by the record that it leads nowhere, which ends the run; a reply that is refused is not
recorded. The last record tells whether the run waits or is completed. -/
theorem trail_of_meetAll (graph : Graph) (id routine : String) (bindings : Variables)
    (occasions : List Occasion) (next : Occasion) (hroutine : routine ≠ "")
    (hsmooth : Smoothly { graph, id, routine, bindings } (occasions ++ [next])) :
    let made : Conversation := { graph, id, routine, bindings }
    let c := (made.meetAll occasions).1
    let told := (made.meetAll occasions).2
    let outcome := c.meet next
    let entries := accountsOf told
    resultsOf told = entries.map (fun entry => (entry.step, entry.result)) ∧
    (∀ entry ∈ entries.head?, entry.step = graph.trigger) ∧
    (∀ entry ∈ entries,
      entry.result.status = (if entry.step.interactive ∧ ¬ entry.Pathless then .suspended
        else .completed) ∧
      entry.result.narrative = (if Turn.narrativeOf entry.said ≠ "" then Turn.narrativeOf entry.said
        else "Processed " ++ entry.step.displayName ++ ".")) ∧
    (∀ before entry after, entries = before ++ entry :: after →
      (entry.Pathless → after = []) ∧
      (entry.result.status = .completed → ¬ entry.Pathless →
        after.head?.map Account.step = graph.stepAfter? entry.step.id) ∧
      (entry.result.status = .suspended → ∀ following ∈ after.head?, ∃ choice,
        entry.Answers graph choice following)) ∧
    (∀ input, next.request = .resume input → c.state = .suspended →
      ∃ waiting reply choice, entries.getLast? = some waiting ∧ c.node = some waiting.step.id ∧
        Reply.ofValue input = .ok reply ∧ reply.choiceAt waiting.step = .ok choice ∧
        (waiting.step.Refuses reply choice →
          accountsOf (told ++ outcome.effects) = entries ∧
            outcome.conversation.state = .suspended) ∧
        (¬ waiting.step.Refuses reply choice → ∃ following rest,
          accountsOf (told ++ outcome.effects) = entries ++ following :: rest ∧
            waiting.Answers graph choice following ∧
            (following.Pathless → rest = [] ∧ outcome.conversation.state = .completed))) ∧
    (c.state = .suspended ↔ ∃ last, entries.getLast? = some last ∧
      last.result.status = .suspended) ∧
    (c.state = .completed ↔ ∃ last, entries.getLast? = some last ∧
      last.result.status = .completed) ∧
    (c.state = .idle ↔ entries = []) := by
  intro made c told outcome entries
  obtain ⟨hrun, hnext, -⟩ := smoothly_append.mp hsmooth
  obtain ⟨accounts, left, hreads, haccounted, hgraph, hsame⟩ :=
    (accounted_nil graph id routine bindings).meetAll hroutine hrun []
  obtain rfl : entries = accounts := hreads.accountsOf_eq
  rw [List.nil_append] at haccounted
  have hgraph : c.graph = graph := hgraph
  have hroutine' : c.routine ≠ "" := by rwa [show c.routine = routine from hsame]
  have haccounted : c.Accounted entries := haccounted
  refine ⟨resultsOf_eq_accountsOf told, ?first, ?each, ?after, ?reply, haccounted.state_iff⟩
  case first =>
    rw [← hgraph]
    exact haccounted.first
  case each =>
    exact fun entry hmem => ⟨haccounted.status hmem, (haccounted.fair entry hmem).narrative⟩
  case after =>
    intro before entry after hsplit
    obtain ⟨hpathless, hflows, hawaits⟩ := haccounted.after hsplit
    rw [hgraph] at hflows hawaits
    have hmem : entry ∈ entries := by simp [hsplit]
    refine ⟨hpathless, fun completed hpath => hflows ?_, fun suspended =>
      hawaits (haccounted.awaits_of_suspended hmem suspended)⟩
    by_contra waits
    have awaits : entry.Awaits := ⟨by simpa using waits, hpath⟩
    exact nomatch completed.symm.trans ((haccounted.fair entry hmem).suspended awaits)
  case reply =>
    intro input hrequest hsuspended
    obtain ⟨more, left', hturned, hreads'⟩ := turned_meet hroutine' hnext left
    have hafter : accountsOf (told ++ outcome.effects) = entries ++ more :=
      (hreads.append hreads').accountsOf_eq
    rw [hrequest] at hturned
    obtain ⟨waiting, reply, choice, hlast, hnode, hread, hchoice, hrefuses, haccepts⟩ :=
      haccounted.reply hsuspended hturned
    rw [hgraph] at haccepts
    refine ⟨waiting, reply, choice, hlast, hnode, hread, hchoice, fun refuses => ?_,
      fun accepts => ?_⟩
    · obtain ⟨rfl, hstate⟩ := hrefuses refuses
      exact ⟨hafter.trans (List.append_nil _), hstate⟩
    · obtain ⟨following, rest, rfl, hanswers⟩ := haccepts accepts
      exact ⟨following, rest, hafter, hanswers⟩

/-- A run that goes around through a question, and whose last reply leads nowhere. -/
theorem trail_of_meetAll_at_question :
    let d : Definition :=
      { steps := [{ id := "go", type := "trigger" }, { id := "ask", type := "buttons" },
          { id := "mark", type := "tag" }]
        edges := [{ source := "go", target := "ask" },
          { source := "ask", target := "mark", handle := some "again" },
          { source := "mark", target := "ask" }] }
    let graph : Graph := ⟨{}, d, by decide +kernel⟩
    let made : Conversation := { graph, id := "e", routine := "r" }
    let picking (choice : String) : Occasion :=
      ⟨.resume (.object [("choice_id", .text choice)]), .keeping, fun _ => .ok ()⟩
    let occasions := [⟨.start, .keeping, fun _ => .ok ()⟩, picking "again"]
    let told := (made.meetAll occasions).2
    let outcome := (made.meetAll occasions).1.meet (picking "no")
    "r" ≠ "" ∧ made.Smoothly (occasions ++ [picking "no"]) ∧
      (accountsOf told).map (fun entry => entry.step.id) = ["go", "ask", "mark", "ask"] ∧
      ∃ following, accountsOf (told ++ outcome.effects) = accountsOf told ++ [following] ∧
        following.Pathless ∧ outcome.conversation.state = .completed := by
  intro d graph made picking occasions told outcome
  have hsmooth : made.Smoothly (occasions ++ [picking "no"]) := by
    have hanswers {c : Conversation} {occasion : Occasion} (state : RunState)
        (hkeeping : occasion.recorder = .keeping)
        (hresponse : (c.meet occasion).response = .ok (.state state)) : c.Smooth occasion :=
      ⟨hkeeping, fun fault h => nomatch hresponse.symm.trans h⟩
    exact ⟨hanswers .suspended rfl (by decide +kernel), hanswers .suspended rfl (by decide +kernel),
      hanswers .completed rfl (by decide +kernel), trivial⟩
  obtain ⟨-, -, -, -, hreply, -⟩ :=
    trail_of_meetAll graph "e" "r" {} occasions (picking "no") (by decide) hsmooth
  obtain ⟨waiting, reply, choice, hlast, -, hread, hchoice, -, haccepts⟩ :=
    hreply _ rfl (by decide +kernel)
  have hstep : (accountsOf told).getLast?.map Account.step = some (d.steps[1]) := by decide +kernel
  rw [hlast] at hstep
  obtain rfl : reply = { choice := some "no" } :=
    Except.ok.inj (hread.symm.trans (by decide +kernel))
  have hwaiting : waiting.step = d.steps[1] := Option.some.inj hstep
  rw [hwaiting] at haccepts hchoice
  obtain rfl : choice = .text "no" := Except.ok.inj (hchoice.symm.trans (by decide +kernel))
  obtain ⟨following, rest, hentries, hanswers, hends⟩ := haccepts (by rintro ⟨-, h, -⟩; cases h)
  have hnone : graph.resumeEdge d.steps[1] (.text "no") = .error (.noPath "ask" (.text "no")) := by
    decide +kernel
  rw [Account.Answers, hwaiting, hnone] at hanswers
  obtain ⟨rfl, -⟩ := hends hanswers.2
  refine ⟨by decide, hsmooth, ?_, following, hentries, hanswers.2, ?_⟩
  · decide +kernel
  · decide +kernel

end Conversation

end Workflow
