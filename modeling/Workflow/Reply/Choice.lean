import Workflow.Graph.Basic
import Workflow.Reply.Basic
import Workflow.Text.Case

/-!
# Choices

A step may offer choices, each with an id and a title. A reply that names a choice picks it. A
typed reply picks the first choice whose title it repeats, blanks around it and case aside. The
choice then decides which edge the conversation follows.
-/

namespace Workflow

namespace Step

/-- The choices a step offers. -/
def options (step : Step) : Except Fault (List Value) :=
  let offered (name : String) : Except Fault (List Value) :=
    let listed := step.setting name
    if listed.truthy then listed.iterate else .ok []
  match step.kind with
  | .buttons => offered "buttons"
  | .waitInput => offered "button_options"
  | _ => .ok []

end Step

namespace Reply

/-- The id of the first option with a title. Options are looked at one by one, so only those up to
the one that is picked have to be objects. -/
def pick (wanted : String) : List Value → Except Fault Value
  | [] => .ok .null
  | option :: rest => do
    let fields ← option.fieldsOf
    let title ← ((Dict.get? fields "title").getD (.text "")).wording
    if Text.folded title = wanted then .ok (Fields.read fields "id") else pick wanted rest

/-- The id of the choice a reply picks, or nothing. -/
def choiceAt (step : Step) (reply : Reply) : Except Fault Value :=
  match reply.choice with
  | some choice => if choice ≠ "" then .ok (.text choice) else typed
  | none => typed
where
  /-- The choice whose title was typed. -/
  typed : Except Fault Value :=
    let wanted := Text.folded reply.content
    if wanted = "" then .ok .null
    else do pick wanted (← step.options)

end Reply

namespace Graph

/-- The edge a conversation follows from a step: the one that carries the choice, or else the one
that needs no choice. -/
def resumeEdge (graph : Graph) (step : Step) (choice : Value) : Except Fault Edge :=
  let chosen : Option Edge := if choice.truthy then
      choice.text?.bind fun handle => graph.edgeForHandle? step.id (some handle)
    else none
  match chosen with
  | some edge => .ok edge
  | none =>
    match graph.defaultEdge? step.id with
    | some edge => .ok edge
    | none => .error (.naming choice (.noPath step.id choice))

end Graph

end Workflow
