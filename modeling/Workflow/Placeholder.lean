import Workflow.Fault
import Workflow.Graph.Step
import Workflow.Number.Reading

/-!
# Placeholders

A text may hold placeholders, paths between double braces. A path is walked through objects by name
and through lists by index, and the placeholder is replaced by the text of what it leads to. A
placeholder whose path leads nowhere, or to nothing, stays in the text so that a reader sees what
was not filled. Replacement is a single pass from left to right: what was put in is not read again.
-/

namespace Workflow

namespace Placeholder

/-- The most digits a number may have that is read from a text. -/
def digitLimit : Nat := 4300

/-- The index a part of a path made of figures stands for. Figures without a value, such as raised
ones, do not make a number. -/
def index (part : String) : Except Fault Nat :=
  match Number.digitRun? part.toList with
  | none => .error (.unreadableNumber part)
  | some ds =>
    if digitLimit < ds.length then .error (.oversizeNumber (.read ds.length))
    else .ok (Number.ofDigits ds)

/-- What one part of a path leads to. -/
def stepInto (value : Value) (part : String) : Except Fault (Option Value) :=
  match value with
  | .object fields => .ok (Dict.get? fields part)
  | .list items => if Text.isFigures part then (index part).map (items[·]?) else .ok none
  | _ => .ok none

/-- What the parts of a path lead to. -/
def walk (value : Value) : List String → Except Fault (Option Value)
  | [] => .ok (some value)
  | part :: rest =>
    if part = "" then .ok none
    else
      match stepInto value part with
      | .error fault => .error fault
      | .ok none => .ok none
      | .ok (some next) => walk next rest

/-- The characters between the dots of a path. -/
def partsOf : List Char → List (List Char)
  | [] => [[]]
  | '.' :: rest => [] :: partsOf rest
  | c :: rest =>
    match partsOf rest with
    | part :: parts => (c :: part) :: parts
    | [] => [[c]]

/-- The parts of a path. -/
def parts (path : String) : List String := (partsOf path.toList).map String.ofList

/-- What a path leads to. -/
def resolve (context : Value) (path : String) : Except Fault (Option Value) :=
  walk context (parts path)

/-- A piece of a text: plain characters, or what stands between the braces of a placeholder. -/
inductive Piece where
  | plain (c : Char)
  | hole (inner : List Char)
  deriving DecidableEq, Repr

namespace Piece

/-- The characters a piece was read from. -/
def source : Piece → List Char
  | .plain c => [c]
  | .hole inner => '\x7b' :: '\x7b' :: inner ++ ['\x7d', '\x7d']

end Piece

/-- A brace of either direction. -/
def isBrace (c : Char) : Bool := c == '\x7b' || c == '\x7d'

/-- The inside of a placeholder at the front of a text, and what follows it. -/
def hole? : List Char → Option (List Char × List Char)
  | '\x7b' :: '\x7b' :: rest =>
    match rest.dropWhile (!isBrace ·) with
    | '\x7d' :: '\x7d' :: after => some (rest.takeWhile (!isBrace ·), after)
    | _ => none
  | _ => none

theorem length_lt_of_hole? {cs inner after : List Char} (h : hole? cs = some (inner, after)) :
    after.length < cs.length := by
  unfold hole? at h
  split at h
  · rename_i rest
    split at h
    · rename_i heq
      have hlen := (List.dropWhile_sublist (l := rest) (!isBrace ·)).length_le
      simp only [Option.some.injEq, Prod.mk.injEq] at h
      obtain ⟨-, rfl⟩ := h
      rw [heq] at hlen
      simp only [List.length_cons] at hlen ⊢
      omega
    · simp at h
  · simp at h

/-- The pieces of a text, from left to right. -/
def pieces (cs : List Char) : List Piece :=
  match h : hole? cs with
  | some (inner, after) =>
    have := length_lt_of_hole? h
    .hole inner :: pieces after
  | none =>
    match cs with
    | [] => []
    | c :: rest => .plain c :: pieces rest
termination_by cs.length

/-- What a piece is replaced by. -/
def fill (context : Value) (piece : Piece) : Except Fault (List Char) :=
  match piece with
  | .plain c => .ok [c]
  | .hole inner =>
    let path := Text.trimChars inner
    if path.isEmpty then .ok piece.source
    else
      match resolve context (String.ofList path) with
      | .error fault => .error fault
      | .ok none | .ok (some .null) => .ok piece.source
      | .ok (some value) => value.wording.map String.toList

/-- Fill every piece of a text. -/
def fillAll (context : Value) : List Piece → Except Fault (List Char)
  | [] => .ok []
  | piece :: rest =>
    match fill context piece with
    | .error fault => .error fault
    | .ok front => (fillAll context rest).map (front ++ ·)

end Placeholder

/-- A text with its placeholders filled from the context. -/
def interpolate (text : String) (context : Value) : Except Fault String :=
  (Placeholder.fillAll context (Placeholder.pieces text.toList)).map String.ofList

/-- A value that is a text is filled; any other stays as it is. -/
def interpolateText (context : Value) : Value → Except Fault Value
  | .text s => (interpolate s context).map Value.text
  | v => .ok v

mutual

/-- Every text inside a value is filled. Names of fields are left alone. -/
def interpolateDeep (context : Value) : Value → Except Fault Value
  | .text s => (interpolate s context).map Value.text
  | .list items => (interpolateItems context items).map Value.list
  | .object fields => (interpolateFields context fields).map Value.object
  | v => .ok v

/-- Every text inside the items of a list is filled. -/
def interpolateItems (context : Value) : List Value → Except Fault (List Value)
  | [] => .ok []
  | item :: rest =>
    match interpolateDeep context item with
    | .error fault => .error fault
    | .ok filled => (interpolateItems context rest).map (filled :: ·)

/-- Every text inside the fields of an object is filled. -/
def interpolateFields (context : Value) :
    List (String × Value) → Except Fault (List (String × Value))
  | [] => .ok []
  | (name, v) :: rest =>
    match interpolateDeep context v with
    | .error fault => .error fault
    | .ok filled => (interpolateFields context rest).map ((name, filled) :: ·)

end

/-- The texts at the top of an object are filled, and what is nested stays as it is. -/
def interpolateTopFields (context : Value) : Fields → Except Fault Fields
  | [] => .ok []
  | (name, v) :: rest =>
    match interpolateText context v with
    | .error fault => .error fault
    | .ok filled => (interpolateTopFields context rest).map ((name, filled) :: ·)

/-- The texts at the top of a value are filled, and what is nested stays as it is. -/
def interpolateShallow (context : Value) : Value → Except Fault Value
  | .list items => (items.mapM (interpolateText context)).map Value.list
  | .object fields => (interpolateTopFields context fields).map Value.object
  | v => interpolateText context v

/-- A definition for one routine: the texts at the top of each step's configuration are filled from
the routine's configuration, whose values are found under their own names and also under `config`.
Anything else stays for the time the routine runs. -/
def Definition.hydrate (d : Definition) (configuration : Fields) : Except Fault Definition := do
  let context := Value.object (Dict.set configuration "config" (.object configuration))
  let steps ← d.steps.mapM fun step =>
    (interpolateTopFields context step.config).map fun config => { step with config }
  .ok { d with steps }

end Workflow
