import Workflow.Proofs.Conversation.Offered
import Workflow.Proofs.Conversation.Past

/-!
# Choices that are typed

A person picks a button by its id or types its title. What a conversation does then looks at the
choice alone and never at what was said before, so a turn in which the reply was heard in other
words ends in the same way: `Outcome.Rewords` relates the two. A typed text picks the first button
that has it for a title before placeholders are filled. People are shown the titles with
placeholders filled, so a title that is typed as it is shown is taken for the button only if filling
it changes nothing that counts.
-/

namespace Workflow

open Operation (Blind)

namespace Reply

variable {step : Step} {buttons : List Fields} {text id : String}

/-- The title of the button can be turned into text. -/
def Titled (button : Fields) : Prop :=
  ((Dict.get? button "title").getD (.text "")).writable = true

theorem pick_cons (wanted : String) {button : Fields} (h : Titled button) (rest : List Value) :
    pick wanted (.object button :: rest) =
      if titleOf button = wanted then .ok (Fields.read button "id") else pick wanted rest := by
  have hwording := Value.wording_of_writable h
  by_cases htitle : titleOf button = wanted <;>
    simp only [pick.eq_2, Value.fieldsOf, bind, Except.bind, hwording, ← titleOf.eq_1, htitle,
      if_true, if_false]

/-- The first of the buttons that is declared with a text for its title. -/
def titled? (buttons : List Fields) (text : String) : Option Fields :=
  buttons.find? fun button => titleOf button = Text.folded text

theorem pick_folded (text : String) {buttons : List Fields} (h : ∀ button ∈ buttons, Titled button) :
    pick (Text.folded text) (buttons.map Value.object) =
      .ok ((titled? buttons text).elim .null fun button => Fields.read button "id") := by
  induction buttons with
  | nil => rfl
  | cons button rest ih =>
      obtain ⟨hfirst, hrest⟩ := List.forall_mem_cons.mp h
      rw [List.map_cons, pick_cons _ hfirst]
      by_cases htitle : titleOf button = Text.folded text
      · simp [titled?, htitle]
      · simp [titled?, htitle, ih hrest]

/-- What is typed stands for the first button that is declared with such a title. -/
theorem choiceAt_typed (hoptions : step.options = .ok (buttons.map Value.object))
    (htitled : ∀ button ∈ buttons, Titled button) (htext : Text.folded text ≠ "") :
    choiceAt step { content := text } =
      .ok ((titled? buttons text).elim .null fun button => Fields.read button "id") := by
  rw [choiceAt, choiceAt.typed, if_neg htext, hoptions]
  exact pick_folded text htitled

theorem choiceAt_clicked (content : String) (hid : id ≠ "") :
    choiceAt step ⟨content, some id⟩ = .ok (.text id) := if_pos hid

/-- Where the titles differ from each other, the first button with a title is the only one. -/
theorem titled?_of_mem (hdistinct : (buttons.map titleOf).Nodup) {button : Fields}
    (hmem : button ∈ buttons) (htitle : titleOf button = Text.folded text) :
    titled? buttons text = some button := by
  obtain ⟨found, hfound⟩ : ∃ found, titled? buttons text = some found :=
    Option.isSome_iff_exists.mp (List.find?_isSome.mpr ⟨button, hmem, decide_eq_true htitle⟩)
  have htitle' : titleOf found = Text.folded text := by simpa using List.find?_some hfound
  rw [hfound, List.inj_on_of_nodup_map hdistinct (List.mem_of_find?_eq_some hfound) hmem
    (htitle'.trans htitle.symm)]

/-- Titles that are the same in a row are the same button by button. -/
theorem titleOf_eq_of_mem_zip {shown : List Fields} {button seen : Fields}
    (hsame : buttons.map titleOf = shown.map titleOf) (hpair : (button, seen) ∈ buttons.zip shown) :
    titleOf button = titleOf seen := by
  rw [← List.forall₂_eq_eq_eq, List.forall₂_map_left_iff, List.forall₂_map_right_iff] at hsame
  exact List.forall₂_zip hsame hpair

end Reply

/-- The outcomes differ in one message: the second has it as given. -/
structure Outcome.Rewords (i : Nat) (heard : Message) (first second : Outcome) : Prop where
  response : second.response = first.response
  conversation : second.conversation =
    { first.conversation with messages := first.conversation.messages.set i heard }
  results : resultsOf second.effects = resultsOf first.effects

namespace Turn

variable {recorder : Recorder}

/-- Follow a choice, and tell the state that comes of it. -/
def followed (recorder : Recorder) (step : Step) (choice : Value) : Operation Turn RunState := do
  follow recorder (walkFrom recorder) step choice
  return (← current).state

theorem blind_followed {past : Past} (step : Step) (choice : Value) :
    Blind (Recalls past) (followed recorder step choice) :=
  .bind (blind_follow step choice) fun _ => blind_current (fun _ => rfl) fun _ => .pure _

section Deliver

variable {t : Turn} {step : Step} {onward : Step → Operation Turn Unit}

/-- A reply to a step that offers buttons is heard, and then its choice is followed. -/
theorem perform_deliver_of_buttons (hsuspended : t.conversation.state = .suspended)
    (hkind : step.kind = .buttons) {reply : Reply} {choice : Value}
    (hchoice : reply.choiceAt step = .ok choice) :
    (deliver recorder onward step reply).perform t = (follow recorder onward step choice).perform
      ((t.moved .running).told ⟨.user, reply.shown, none⟩) := by
  have hmove : (moveTo .running).perform t = (.ok (), t.moved .running) :=
    perform_moveTo (by rw [hsuspended]; decide)
  rw [deliver, Operation.perform_bind_ok hmove,
    Operation.perform_bind_ok (perform_sayText _ .user reply.shown), hchoice,
    Operation.perform_bind_ok (Operation.perform_ofExcept _ _),
    if_neg (by rw [hkind]; exact fun h => absurd h.1 (by decide))]
  exact Operation.perform_bind_ok rfl

/-- A choice that no edge of the step carries leads where no choice does. -/
theorem perform_follow_of_unknown {id : String}
    (hunknown : t.conversation.graph.edgeForHandle? step.id (some id) = none) :
    (follow recorder onward step (.text id)).perform t =
      (follow recorder onward step .null).perform t := by
  have hchosen : (if (Value.text id).truthy then
      (Value.text id).text?.bind fun handle =>
        t.conversation.graph.edgeForHandle? step.id (some handle) else none) = none := by
    split
    · exact hunknown
    · rfl
  rw [follow, follow, Operation.perform_bind_ok (perform_current t),
    Operation.perform_bind_ok (perform_current t), Graph.resumeEdge, hchosen, Graph.resumeEdge]
  cases t.conversation.graph.defaultEdge? step.id <;> rfl

/-- A reply that is taken up is delivered, and then the state is given back. -/
theorem perform_resume_of_buttons (hsuspended : t.conversation.state = .suspended)
    (hwaits : t.conversation.graph.node (t.conversation.node.getD "") = .ok step)
    (hkind : step.kind = .buttons) {input : Value} {reply : Reply} {choice : Value}
    (hreply : Reply.ofValue input = .ok reply) (hchoice : reply.choiceAt step = .ok choice) :
    (resume recorder (walkFrom recorder) input).perform t = (followed recorder step choice).perform
      ((t.moved .running).told ⟨.user, reply.shown, none⟩) := by
  rw [perform_resume_of_suspended hsuspended hwaits hreply, Operation.perform_bind,
    perform_deliver_of_buttons hsuspended hkind hchoice, ← Operation.perform_bind, followed]

end Deliver

end Turn

namespace Conversation

variable {c : Conversation} {step : Step} {recorder : Recorder} {observer : Observer}

theorem meet_resume_of_buttons (hsuspended : c.state = .suspended)
    (hwaits : c.graph.node (c.node.getD "") = .ok step) (hkind : step.kind = .buttons)
    {input : Value} {reply : Reply} {choice : Value} (hreply : Reply.ofValue input = .ok reply)
    (hchoice : reply.choiceAt step = .ok choice) :
    let ended := (Turn.followed recorder step choice).perform
      (((c.opened observer).moved .running).told ⟨.user, reply.shown, none⟩)
    c.meet ⟨.resume input, recorder, observer⟩ =
      ⟨ended.1.map Response.state, ended.2.conversation, ended.2.effects⟩ := by
  refine handle_of_perform c recorder observer ?_
  rw [turn, Operation.perform_map,
    Turn.perform_resume_of_buttons (t := c.opened observer) hsuspended hwaits hkind hreply hchoice]

/-- What came to pass until a reply was heard. -/
def heard (c : Conversation) (reply : String) : Past where
  said := c.messages ++ [⟨.user, reply, none⟩]
  told := [.moved .running, .said (c.node.getD "") ⟨.user, reply, none⟩]

theorem recalls_heard (c : Conversation) (observer : Observer) (reply : String) :
    Turn.Recalls (c.heard reply)
      { conversation := { c with state := .running, messages := [] }, observer }
      (((c.opened observer).moved .running).told ⟨.user, reply, none⟩) := by
  simp [Turn.Recalls, Turn.after, after, heard, Turn.told, Turn.moved, opened]

/-- Replies whose choices lead alike differ in nothing but the words that were heard. -/
theorem rewords_meet (hsuspended : c.state = .suspended)
    (hwaits : c.graph.node (c.node.getD "") = .ok step) (hkind : step.kind = .buttons)
    {input input' : Value} {reply reply' : Reply} {choice choice' : Value}
    (hreply : Reply.ofValue input = .ok reply) (hreply' : Reply.ofValue input' = .ok reply')
    (hchoice : reply.choiceAt step = .ok choice) (hchoice' : reply'.choiceAt step = .ok choice')
    (halike : ∀ t : Turn, t.conversation.graph = c.graph →
      (Turn.followed recorder step choice').perform t =
        (Turn.followed recorder step choice).perform t) :
    (c.meet ⟨.resume input, recorder, observer⟩).Rewords c.messages.length
      ⟨.user, reply'.shown, none⟩ (c.meet ⟨.resume input', recorder, observer⟩) := by
  rw [meet_resume_of_buttons hsuspended hwaits hkind hreply hchoice,
    meet_resume_of_buttons hsuspended hwaits hkind hreply' hchoice', halike _ rfl]
  obtain ⟨ended, hended⟩ : ∃ ended, ended = (Turn.followed recorder step choice).perform
      { conversation := { c with state := .running, messages := [] }, observer } := ⟨_, rfl⟩
  -- either turn is the one that begins when nothing was said yet, after what it heard
  have hheard (words : String) : (Turn.followed recorder step choice).perform
      (((c.opened observer).moved .running).told ⟨.user, words, none⟩) =
        (ended.1, ended.2.after (c.heard words)) := by
    have hblind : Blind (Turn.Recalls (c.heard words)) (Turn.followed recorder step choice) :=
      Turn.blind_followed step choice
    obtain ⟨hsame, hafter⟩ := hblind _ _ (recalls_heard c observer words)
    rw [hended]
    exact Prod.ext hsame.symm hafter
  rw [hheard, hheard]
  refine ⟨rfl, ?_, rfl⟩
  simp [Turn.after, after, heard]

/-- A choice that no edge of the step carries leads where no choice does. -/
theorem followed_of_unknown {id : String}
    (hunknown : c.graph.edgeForHandle? step.id (some id) = none) {t : Turn}
    (hgraph : t.conversation.graph = c.graph) :
    (Turn.followed recorder step (.text id)).perform t =
      (Turn.followed recorder step .null).perform t := by
  rw [Turn.followed, Turn.followed, Operation.perform_bind, Operation.perform_bind,
    Turn.perform_follow_of_unknown (hgraph ▸ hunknown)]

/-- In every conversation that waits at a step with buttons, people have been shown the buttons with
the placeholders of their titles filled, but what they type is compared with the titles as they are
declared. A text that is such a title picks the first button that has it, and the turn then is the
one that the id of this button brings about. A text that is none picks nothing, and the turn is that
of an id without an edge, whatever titles were shown. Only where filling changes no title, blanks
and case aside, typing a title as it is shown picks its button. -/
theorem typed_picks_declared (graph : Graph) (run routine : String) (bindings : Variables)
    (occasions : List Occasion) {step : Step} (hstep : step ∈ graph.steps)
    (hkind : step.kind = .buttons) :
    let made : Conversation := { graph, id := run, routine, bindings }
    let c := (made.meetAll occasions).1
    c.state = .suspended → c.node = some step.id →
    ∃ buttons shown, step.options = .ok (buttons.map Value.object) ∧ c.Offers buttons shown ∧
      ∀ {text content id : String} {typed clicked : Value}, Text.folded text ≠ "" → id ≠ "" →
        Reply.ofValue typed = .ok { content := text } →
        Reply.ofValue clicked = .ok ⟨content, some id⟩ →
        ∀ (recorder : Recorder) (observer : Observer),
          let alike := (c.meet ⟨.resume typed, recorder, observer⟩).Rewords c.messages.length
            ⟨.user, Reply.shown ⟨content, some id⟩, none⟩
            (c.meet ⟨.resume clicked, recorder, observer⟩)
          (∀ button, Fields.read button "id" = .text id →
            Reply.titled? buttons text = some button → alike) ∧
          (Reply.titled? buttons text = none →
            graph.edgeForHandle? step.id (some id) = none → alike) ∧
          (buttons.map Reply.titleOf = shown.map Reply.titleOf →
            (shown.map Reply.titleOf).Nodup →
            ∀ button seen, (button, seen) ∈ buttons.zip shown →
              Fields.read button "id" = .text id → Reply.titleOf seen = Text.folded text →
              alike) := by
  intro made c hsuspended hnode
  have hgraph : c.graph = graph := (becomes_meetAll (c := made) nofun occasions).graph
  have hwaits := node_of_mem_steps hnode (hgraph ▸ hstep)
  have hdisplays : c.Displays := displays_meetAll (c := made) nofun occasions
  obtain ⟨waits, hmem, hat, hoffers⟩ := hdisplays hsuspended
  obtain rfl : waits = step :=
    Definition.eq_of_id_eq c.graph.wellFormed.distinct hmem (hgraph ▸ hstep)
      (Option.some.inj (hat.symm.trans hnode))
  obtain ⟨buttons, shown, hoptions, hshown⟩ := hoffers hkind
  refine ⟨buttons, shown, hoptions, hshown, ?_⟩
  intro text content id typed clicked htext hid htyped hclicked recorder observer alike
  have htitled : ∀ button ∈ buttons, Reply.Titled button := by
    have htwice : List.Forall₂
        (fun button seen => Reply.Titled button ∧ c.bindings.Shows button seen) buttons shown := by
      refine hshown.filled.imp fun button seen h => ⟨?_, h⟩
      obtain ⟨declared, -, hwording, -⟩ := h
      exact (Value.wording_eq_ok_iff.mp hwording).1
    exact ((List.forall₂_and_left buttons shown).mp htwice).1
  have hpicked := Reply.choiceAt_typed hoptions htitled htext
  have hchosen : Reply.choiceAt waits ⟨content, some id⟩ = .ok (.text id) :=
    Reply.choiceAt_clicked content hid
  have hfirst (button : Fields) (hread : Fields.read button "id" = .text id)
      (hfound : Reply.titled? buttons text = some button) : alike := by
    rw [hfound, Option.elim_some, hread] at hpicked
    exact rewords_meet hsuspended hwaits hkind htyped hclicked hpicked hchosen fun _ _ => rfl
  refine ⟨hfirst, ?none, ?same⟩
  case none =>
    intro hnone hunknown
    rw [hnone] at hpicked
    refine rewords_meet hsuspended hwaits hkind htyped hclicked hpicked hchosen fun t ht => ?_
    exact followed_of_unknown (hgraph ▸ hunknown) ht
  case same =>
    intro hsame hdistinct button seen hpair hread htitle
    have htitle' := (Reply.titleOf_eq_of_mem_zip hsame hpair).trans htitle
    exact hfirst button hread
      (Reply.titled?_of_mem (hsame ▸ hdistinct) (List.of_mem_zip hpair).1 htitle')

/-- A title without placeholders that is typed brings about the turn of its button. -/
theorem typed_picks_declared_without_placeholders :
    let ask : Step :=
      { id := "ask", type := "buttons"
        config := [("buttons", .list [.object [("id", .text "ok"), ("title", .text "Go on")]])] }
    let d : Definition :=
      { steps := [{ id := "t", type := "trigger" }, ask, { id := "b", type := "tag", label := "B" }]
        edges := [{ source := "t", target := "ask" },
          { source := "ask", target := "b", handle := some "ok" }] }
    let graph : Graph := ⟨{}, d, by decide +kernel⟩
    let observer : Observer := fun _ => .ok ()
    let made : Conversation := { graph, id := "run", routine := "r" }
    let c := (made.meetAll [⟨.start, .keeping, observer⟩]).1
    let typed : Value := .text " go ON "
    let clicked : Value := .object [("choice_id", .text "ok")]
    (ask ∈ graph.steps ∧ ask.kind = .buttons ∧ c.state = .suspended ∧ c.node = some "ask") ∧
      (c.meet ⟨.resume typed, .keeping, observer⟩).Rewords c.messages.length ⟨.user, "ok", none⟩
        (c.meet ⟨.resume clicked, .keeping, observer⟩) ∧
      (c.meet ⟨.resume typed, .keeping, observer⟩).conversation.node = some "b" := by
  intro ask d graph observer made c typed clicked
  have hstep : ask ∈ graph.steps := by decide +kernel
  have hkind : ask.kind = .buttons := by decide +kernel
  have hsuspended : c.state = .suspended := by decide +kernel
  have hnode : c.node = some "ask" := by decide +kernel
  refine ⟨⟨hstep, hkind, hsuspended, hnode⟩, ?_, by decide +kernel⟩
  obtain ⟨buttons, shown, hoptions, -, halike⟩ :=
    typed_picks_declared graph "run" "r" {} [⟨.start, .keeping, observer⟩] hstep hkind hsuspended
      hnode
  let button : Fields := [("id", .text "ok"), ("title", .text "Go on")]
  have hone : buttons.map Value.object = [button].map Value.object :=
    Except.ok.inj (hoptions.symm.trans (by decide +kernel))
  obtain rfl : buttons = [button] := by
    refine List.map_injective_iff.mpr ?_ hone
    exact fun _ _ h => Value.object.inj h
  have htext : Text.folded " go ON " ≠ "" := by decide +kernel
  have htyped : Reply.ofValue typed = .ok { content := " go ON " } := rfl
  have hclicked : Reply.ofValue clicked = .ok ⟨"", some "ok"⟩ := by decide +kernel
  refine (halike htext (by decide : "ok" ≠ "") htyped hclicked .keeping observer).1 button ?_ ?_
  · decide +kernel
  · decide +kernel

/-- A title with a placeholder is shown filled, and a person who types it as it is shown has picked
nothing: the conversation is over where a click on the button goes on. -/
theorem shown_title_picks_nothing :
    let button : Fields := [("id", .text "ok"), ("title", .text "Hi \x7b\x7bname\x7d\x7d")]
    let seen : Fields := [("id", .text "ok"), ("title", .text "Hi Ann")]
    let ask : Step :=
      { id := "ask", type := "buttons", config := [("buttons", .list [.object button])] }
    let d : Definition :=
      { steps := [{ id := "t", type := "trigger" }, ask, { id := "b", type := "tag", label := "B" }]
        edges := [{ source := "t", target := "ask" },
          { source := "ask", target := "b", handle := some "ok" }] }
    let graph : Graph := ⟨{}, d, by decide +kernel⟩
    let observer : Observer := fun _ => .ok ()
    let made : Conversation :=
      { graph, id := "run", routine := "r", bindings := .ofFields [("name", .text "Ann")] }
    let c := (made.meetAll [⟨.start, .keeping, observer⟩]).1
    let typed := c.meet ⟨.resume (.text "Hi Ann"), .keeping, observer⟩
    let clicked := c.meet ⟨.resume (.object [("choice_id", .text "ok")]), .keeping, observer⟩
    (c.state = .suspended ∧ c.node = some "ask" ∧ ask.kind = .buttons ∧
      ask.options = .ok [.object button] ∧
      c.lastMetadata = some [("type", .text "buttons"), ("buttons", .list [.object seen])] ∧
      Reply.titleOf seen = Text.folded "Hi Ann" ∧ Text.folded "Hi Ann" ≠ "") ∧
    typed.conversation.state = .completed ∧ clicked.conversation.state = .completed ∧
    typed.conversation.node = some "ask" ∧ clicked.conversation.node = some "b" ∧
    (resultsOf typed.effects).map (fun kept => kept.1.id) = ["ask"] ∧
    (resultsOf clicked.effects).map (fun kept => kept.1.id) = ["b"] := by
  decide +kernel

end Conversation

end Workflow
