import Workflow.Terminal.Color

/-!
# Styles

A style is a row of words: attributes of letters, colours, and what a text is linked to. A word in
front takes an attribute back or makes a colour the ground. Two styles are the same when they come
to the same, in whatever words they are said.
-/

namespace Workflow.Terminal

/-- An attribute of letters. -/
inductive Attribute where
  | bold
  | dim
  | italic
  | underline
  | blink
  | blinkFast
  | reverse
  | conceal
  | strike
  | underlineTwice
  | frame
  | encircle
  | overline
  deriving DecidableEq, Repr

namespace Attribute

/-- All attributes in the order in which they are told. -/
def all : List Attribute :=
  [.bold, .dim, .italic, .underline, .blink, .blinkFast, .reverse, .conceal, .strike,
   .underlineTwice, .frame, .encircle, .overline]

/-- The names of an attribute, the full one first. -/
def names : Attribute → List String
  | .bold => ["bold", "b"]
  | .dim => ["dim", "d"]
  | .italic => ["italic", "i"]
  | .underline => ["underline", "u"]
  | .blink => ["blink"]
  | .blinkFast => ["blink2"]
  | .reverse => ["reverse", "r"]
  | .conceal => ["conceal", "c"]
  | .strike => ["strike", "s"]
  | .underlineTwice => ["underline2", "uu"]
  | .frame => ["frame"]
  | .encircle => ["encircle"]
  | .overline => ["overline", "o"]

/-- The full name of an attribute. -/
def name (a : Attribute) : String := a.names.headD ""

/-- The attribute with a name. -/
def ofName? (s : String) : Option Attribute := all.find? (·.names.contains s)

end Attribute

/-- A style. -/
structure Style where
  attributes : List (Attribute × Bool) := []
  color : Option String := none
  ground : Option String := none
  link : Option String := none
  deriving DecidableEq, Repr

namespace Style

/-- A style with an attribute given or taken back. -/
def set (style : Style) (a : Attribute) (given : Bool) : Style :=
  { style with attributes := (a, given) :: style.attributes.filter (·.1 != a) }

/-- The style that words add to another, if they say one. -/
def addWords (style : Style) : List String → Except Fault (Option Style)
  | [] => .ok (some style)
  | word :: rest => do
    let small := Text.lower word
    match small, rest with
    | "on", ground :: rest =>
      let ground := Text.lower ground
      if ← isColor ground then addWords { style with ground := some ground } rest
      else return none
    | "not", name :: rest =>
      match Attribute.ofName? name with
      | some a => addWords (style.set a false) rest
      | none => return none
    | "link", target :: rest => addWords { style with link := some target } rest
    | _, rest =>
      if ["on", "not", "link"].contains small then return none
      else
        match Attribute.ofName? small with
        | some a => addWords (style.set a true) rest
        | none =>
          if ← isColor small then addWords { style with color := some small } rest
          else return none

/-- The words of a style in a fixed order. -/
def words (style : Style) : List String :=
  (Attribute.all.flatMap fun a =>
    match style.attributes.find? (·.1 = a) with
    | some (_, true) => [a.name]
    | some (_, false) => ["not", a.name]
    | none => []) ++
    style.color.toList ++ ((style.ground.map (["on", ·])).getD []) ++
    ((style.link.map (["link", ·])).getD [])

/-- The text of a style. -/
def text (style : Style) : String :=
  if style.words.isEmpty then "none" else " ".intercalate style.words

/-- The one text for all styles that come to the same. What is no style is taken without regard to
case. -/
def normal (s : String) : Except Fault String := do
  match ← addWords {} (Text.words s) with
  | some style => return style.text
  | none => return Text.lower (Text.trim s)

end Style

end Workflow.Terminal
