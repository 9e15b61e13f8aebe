import Workflow.Pattern.Letter
import Workflow.Text.Blank
import Workflow.Text.Digit
import Workflow.Text.Word

/-!
# Patterns

A routine may ask that a reply fits a pattern. A pattern is a tree of tests on single characters and
on places between characters, put together by sequence, choice, repetition, groups and looking
around. Whether letters differ by case, and which scripts count, is settled at each leaf when the
pattern is read.
-/

namespace Workflow.Pattern

/-- A class of characters that has a short name in patterns. -/
inductive Category where
  | digit
  | space
  | word
  deriving DecidableEq, Repr

namespace Category

/-- The plain Latin members of a class. -/
def hasPlain (category : Category) (c : Char) : Bool :=
  match category with
  | .digit => c.isDigit
  | .space => c == ' ' || (9 ≤ c.toNat && c.toNat ≤ 13)
  | .word => c.isAlphanum || c == '_'

/-- The members of a class in every script. -/
def hasAny (category : Category) (c : Char) : Bool :=
  match category with
  | .digit => Text.isDecimal c
  | .space => Text.isBlank c
  | .word => Text.isWord c

/-- The members of a class, in plain Latin or in every script. -/
def has (category : Category) (plain : Bool) (c : Char) : Bool :=
  if plain then category.hasPlain c else category.hasAny c

end Category

/-- One part of a set of characters. -/
inductive SetItem where
  | single (n : Nat)
  | range (first last : Nat)
  | members (category : Category) (plain negated : Bool)
  deriving DecidableEq, Repr

/-- The last character of the basic plane. Beyond it, letters that differ by case are told apart in
a set unless they stand in a range. -/
def basicPlaneEnd : Nat := 0xFFFF

namespace SetItem

/-- The part holds the character itself. -/
def hasExact (c : Char) : SetItem → Bool
  | .single n => c.toNat == n
  | .range first last => first ≤ c.toNat && c.toNat ≤ last
  | .members category plain negated => category.has plain c != negated

/-- The part holds a letter or one taken for the same. The letter is the one that stands for all of
these. -/
def hasFolded (folding : Folding) (letter : Nat) : SetItem → Bool
  | .single n =>
    if n ≤ basicPlaneEnd then (folding.variants letter).contains n else n == letter
  | .range first last =>
    (folding.variants letter).any (fun n => first ≤ n && n ≤ last && n ≤ basicPlaneEnd) ||
      (basicPlaneEnd < last &&
        ((first ≤ letter && letter ≤ last) ||
          (first ≤ Text.upperCode letter && Text.upperCode letter ≤ last)))
  | .members category plain negated => category.has plain (Char.ofNat letter) != negated

/-- Case may matter for the part. -/
def isCased (folding : Folding) : SetItem → Bool
  | .single n => folding != .exact && (basicPlaneEnd < n || folding.hasCased n n)
  | .range first last =>
    folding != .exact && (basicPlaneEnd < last || folding.hasCased first last)
  | .members .. => false

end SetItem

/-- A set of characters, or everything outside it. -/
structure CharSet where
  negated : Bool := false
  items : List SetItem
  folding : Folding := .exact
  deriving DecidableEq, Repr

namespace CharSet

/-- A set in which letters stand for one another as `folding` says. The folding is dropped where no
part has letters. -/
def ofItems (folding : Folding) (negated : Bool) (items : List SetItem) : CharSet :=
  { negated, items, folding := if items.any (SetItem.isCased folding) then folding else .exact }

/-- The character belongs to the set. -/
def has (set : CharSet) (c : Char) : Bool :=
  let member :=
    match set.folding with
    | .exact => set.items.any (SetItem.hasExact c)
    | folding => set.items.any (SetItem.hasFolded folding (folding.apply c.toNat))
  member != set.negated

end CharSet

/-- A test on one character. -/
inductive CharTest where
  | literal (n : Nat) (folding : Folding)
  /-- Any character but one. -/
  | allBut (n : Nat) (folding : Folding)
  /-- Any character, or any but a line end. -/
  | any (lineEnds : Bool)
  | among (set : CharSet)
  deriving DecidableEq, Repr

namespace CharTest

/-- The character passes the test. -/
def has (c : Char) : CharTest → Bool
  | .literal n folding => folding.same n c.toNat
  | .allBut n folding => !folding.same n c.toNat
  | .any lineEnds => lineEnds || c != '\n'
  | .among set => set.has c

/-- The one character that passes the test. -/
def only? : CharTest → Option Nat
  | .literal n .exact => some n
  | _ => none

/-- The parts of a set that holds just what passes the test, where there is one without
negation. -/
def items? : CharTest → Option (List SetItem)
  | .literal n _ => some [.single n]
  | .among set => if set.negated then none else some set.items
  | _ => none

end CharTest

/-- A test on a place between characters. -/
inductive Anchor where
  /-- The start of the text. -/
  | textStart
  /-- The start of the text or of a line. -/
  | lineStart
  /-- The end of the text. -/
  | textEnd
  /-- The end of the text, or the place before a line end that ends the text. -/
  | finalEnd
  /-- The end of the text or of a line. -/
  | lineEnd
  /-- A place where a word starts or ends, or any place where none does. -/
  | wordEdge (plain negated : Bool)
  deriving DecidableEq, Repr

/-- What a repetition tries first, and whether it gives anything back. -/
inductive Appetite where
  | greedy
  | lazy
  | possessive
  deriving DecidableEq, Repr

/-- A pattern. -/
inductive Node where
  | empty
  | never
  | chars (test : CharTest)
  | anchor (anchor : Anchor)
  | seq (first second : Node)
  /-- The first choice and the choices after it, which end with `never`. -/
  | alt (first others : Node)
  | group (number : Nat) (body : Node)
  | sameAs (number : Nat) (folding : Folding)
  | ahead (negated : Bool) (body : Node)
  | behind (negated : Bool) (width : Nat) (body : Node)
  | atomic (body : Node)
  | loop (appetite : Appetite) (least : Nat) (most : Option Nat) (body : Node)
  /-- What to match when a group is set and when it is not. -/
  | ifGroup (number : Nat) (yes no : Node)
  deriving DecidableEq, Repr

namespace Node

/-- The character that has to come first, where there is one; `next` is the one after the pattern,
for a pattern without parts. -/
def opening (next : Option Nat) : Node → Option Nat
  | .empty => next
  | .chars test => test.only?
  | .seq first second => first.opening (second.opening next)
  | _ => none

/-- The test on the first character, where a pattern starts with one that tells letters apart by
case. -/
def openingTest? : Node → Option CharTest
  | .chars (.literal n .exact) => some (.literal n .exact)
  | .chars (.among set) => if set.folding = .exact then some (.among set) else none
  | .seq .empty second => second.openingTest?
  | .seq first _ => first.openingTest?
  | _ => none

end Node

end Workflow.Pattern
