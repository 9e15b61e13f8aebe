import Workflow.Pattern.Matcher

/-!
# Looking for a pattern

A pattern fits a text when it matches at some place. Places are tried from left to right. Those at
which the pattern cannot start, or after which too few characters are left for it, are not tried.
-/

namespace Workflow.Pattern

/-- A pattern to look for. -/
structure Query where
  node : Node
  /-- The least number of characters it can match. -/
  least : Nat
  /-- The classes of characters are those of plain Latin, where a group does not say otherwise. -/
  plain : Bool
  deriving DecidableEq, Repr

namespace Node

/-- The number of single characters a pattern starts with, and whether it has nothing else. -/
def literals : Node → Nat × Bool
  | .empty => (0, true)
  | .chars (.literal _ .exact) => (1, true)
  | .seq first second =>
    let (m, all) := first.literals
    if all then (m + second.literals.1, second.literals.2) else (m, false)
  | .group _ body => body.literals
  | _ => (0, false)

/-- Every choice starts with a single character, written without a group. -/
def choicesAreLiteral : Node → Bool
  | .alt (.chars (.literal _ .exact)) others => others.choicesAreLiteral
  | .alt (.seq (.chars (.literal _ .exact)) _) others => others.choicesAreLiteral
  | .never => true
  | _ => false

/-- The part a pattern starts with, inside of groups. -/
def head : Node → Node
  | .group _ body => body.head
  | .seq first _ => first.head
  | node => node

end Node

/-- The part with classes of the given kind. -/
def SetItem.withPlain (plain : Bool) : SetItem → SetItem
  | .members category _ negated => .members category plain negated
  | item => item

namespace Query

/-- A set that holds the first character of whatever the pattern matches. It is formed with the
classes of the whole pattern, even where the group it comes from has its own. -/
def openingSet? (query : Query) : Option CharSet :=
  match query.node.head with
  | .chars (.among set) =>
    if set.folding = .exact then
      some { set with items := set.items.map (SetItem.withPlain query.plain) }
    else none
  | _ => none

/-- The first character is known to be one of a few. -/
def isSelective (query : Query) : Bool :=
  query.node.literals.1 == 1 || query.openingSet?.isSome || query.node.head.choicesAreLiteral

/-- The pattern is tried at the place. -/
def tries (query : Query) (text : Array Char) (place : Nat) : Bool :=
  if query.least = 0 || 1 < query.node.literals.1 then true
  else
    let last := text.size + 1 - query.least
    (if query.isSelective then place < last else place ≤ last) &&
      query.openingSet?.all fun set => text[place]?.any set.has

/-- The pattern matches somewhere in the text. -/
def foundIn (query : Query) (text : String) : Bool :=
  let cs := text.toList.toArray
  query.least ≤ cs.size && (List.range (cs.size + 1)).any fun place =>
    query.tries cs place &&
      match query.node.run cs false none place ⟨place, []⟩ finish with
      | .hit _ => true
      | .miss _ => false

end Query

end Workflow.Pattern
