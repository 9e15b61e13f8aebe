import Workflow.Pattern.Basic

/-!
# Parts of a sequence

While a pattern is read, what has been read so far is a sequence of parts with their widths. Choices
that start with the same parts share these, and choices between single characters become one set, so
that a choice is left only where the pattern needs one.
-/

namespace Workflow.Pattern

/-- Widths at or beyond this are not told apart. -/
def widthLimit : Nat := Nat.pow 2 64

/-- The least and greatest number of characters a pattern can match. -/
structure Width where
  least : Nat
  most : Nat
  deriving DecidableEq, Repr

namespace Width

/-- No character. -/
def zero : Width := ⟨0, 0⟩

/-- One character. -/
def one : Width := ⟨1, 1⟩

/-- One after the other. -/
def plus (v w : Width) : Width := ⟨v.least + w.least, v.most + w.most⟩

/-- One or the other. -/
def join (v w : Width) : Width := ⟨min v.least w.least, max v.most w.most⟩

/-- So many times. -/
def times (w : Width) (least : Nat) (most : Option Nat) : Width :=
  ⟨w.least * least,
    match most with
    | some n => w.most * n
    | none => if w.most = 0 then 0 else widthLimit⟩

/-- The width with both ends below the limit. -/
def capped (w : Width) : Width := ⟨min w.least widthLimit, min w.most widthLimit⟩

end Width

/-- What may be done with a part. -/
inductive PartKind where
  /-- A test on one character or a reference. -/
  | leaf
  /-- A test on a place, which cannot be repeated. -/
  | anchor
  /-- A repetition, which cannot be repeated again. -/
  | loop
  | other
  deriving DecidableEq, Repr

/-- A part of a sequence. -/
structure Part where
  node : Node
  width : Width
  kind : PartKind
  deriving DecidableEq, Repr

namespace Part

/-- A test on one character. -/
def test (test : CharTest) : Part := ⟨.chars test, .one, .leaf⟩

/-- A test on a place. -/
def place (anchor : Anchor) : Part := ⟨.anchor anchor, .zero, .anchor⟩

/-- A part that passes nothing. -/
def peek (node : Node) : Part := ⟨node, .zero, .other⟩

/-- Two parts are written alike and hold no others. -/
def alike (p q : Part) : Bool :=
  (p.kind == .leaf || p.kind == .anchor) && p == q

/-- The items of a set that the part amounts to. -/
def items? (part : Part) : Option (List SetItem) :=
  match part.kind, part.node with
  | .leaf, .chars test => test.items?
  | _, _ => none

/-- The parts of a sequence put together. -/
def join : List Part → Node
  | [] => .empty
  | [part] => part.node
  | part :: rest => .seq part.node (join rest)

/-- The width of a sequence. -/
def totalWidth (parts : List Part) : Width :=
  (parts.foldl (fun width part => Width.plus width part.width) Width.zero).capped

/-- The parts that all sequences start with. -/
def sharedStart : List Part → List (List Part) → List Part
  | [], _ => []
  | part :: rest, others =>
    if others.all fun other => other.head?.any part.alike then
      part :: sharedStart rest (others.map List.tail)
    else []

/-- The single items that sequences amount to, when each is one test on one character. -/
def choiceItems : List (List Part) → Option (List SetItem)
  | [] => some []
  | [part] :: rest => do return (← part.items?) ++ (← choiceItems rest)
  | _ :: _ => none

/-- A choice between sequences. -/
def choice (sequences : List (List Part)) : Part :=
  let widths := sequences.map totalWidth
  ⟨sequences.foldr (fun parts others => .alt (join parts) others) .never,
    (widths.tail.foldl Width.join (widths.headD Width.zero)), .other⟩

/-- One sequence that matches what any of several do. -/
def either (folding : Folding) (sequences : List (List Part)) : List Part :=
  match sequences with
  | [] => []
  | [parts] => parts
  | parts :: others =>
    let shared := sharedStart parts others
    let rests := sequences.map (List.drop shared.length)
    match choiceItems rests with
    | some items => shared ++ [test (.among (.ofItems folding false items.eraseDups))]
    | none => shared ++ [choice rests]

end Part

/-- What is read as one thing: a part, or a plain group whose parts join the sequence around it. -/
inductive Item where
  | part (part : Part)
  | bare (parts : List Part)
  deriving DecidableEq, Repr

namespace Item

/-- The parts of an item. -/
def parts : Item → List Part
  | .part p => [p]
  | .bare ps => ps

/-- An item, repeated. Neither a test on a place nor a repetition can be. -/
def repeated? (item : Item) (appetite : Appetite) (least : Nat) (most : Option Nat) :
    Option Item :=
  match item with
  | .part ⟨_, _, .anchor⟩ | .part ⟨_, _, .loop⟩ => none
  | _ => some <| .part
    ⟨.loop appetite least most (Part.join item.parts),
      (Part.totalWidth item.parts).times least most, .loop⟩

end Item

end Workflow.Pattern
