import Workflow.Pattern.Basic

/-!
# Matching

A pattern is matched at a place in a text by going through it from left to right. What is still to
be matched is a continuation, so that a choice which fails later is taken back. A repetition goes on
only after a round that moved, beyond its least number of rounds.

Matching keeps a board with the places where groups start and stop. The board also notes the last
place at which a part of the pattern was entered. A failed attempt leaves that note behind, and a
possessive repetition goes on from there after its last round, not from where that round began. So
what the note says at each step is part of what a pattern means.
-/

namespace Workflow.Pattern

/-- What is known while a pattern is matched: the last place noted, and where each group starts and
stops. Group `n` has the entries `2 n - 2` and `2 n - 1`. -/
structure Board where
  noted : Nat
  marks : List (Option Nat)
  deriving DecidableEq, Repr

namespace Board

/-- Note a place. -/
def at_ (board : Board) (place : Nat) : Board := { board with noted := place }

/-- Set an entry. Entries that are passed over on the way are empty. -/
def mark (board : Board) (entry place : Nat) : Board :=
  let marks := board.marks ++ List.replicate (entry + 1 - board.marks.length) none
  { board with marks := marks.set entry (some place) }

/-- The start and stop of a group that is set. -/
def group? (board : Board) (number : Nat) : Option (Nat × Nat) :=
  match board.marks[2 * number - 2]?.join, board.marks[2 * number - 1]?.join with
  | some start, some stop => if start ≤ stop then some (start, stop) else none
  | _, _ => none

/-- Take back the entries made since an earlier board. Outside loops an entry is made once, so it is
enough to drop the new ones. -/
def undo (board earlier : Board) (looped : Bool) : Board :=
  { board with
    marks := if looped then earlier.marks else board.marks.take earlier.marks.length }

end Board

/-- How an attempt ends, and what is on the board then. -/
inductive Outcome where
  | hit (board : Board)
  | miss (board : Board)
  deriving DecidableEq, Repr

/-- What is still to be matched from a place on. -/
abbrev Continuation := Nat → Board → Outcome

/-- A way to go on from a place. -/
abbrev Matcher := Nat → Board → Continuation → Outcome

/-- Nothing is left to be matched. -/
def finish : Continuation := fun place board => .hit (board.at_ place)

/-- Change the board of a failed attempt. -/
def Outcome.orMiss (outcome : Outcome) (f : Board → Board) : Outcome :=
  match outcome with
  | .hit board => .hit board
  | .miss board => .miss (f board)

/-- The character belongs to a word. -/
def wordAt (text : Array Char) (plain : Bool) (place : Nat) : Bool :=
  text[place]?.any (Category.word.has plain)

/-- The place passes the test. -/
def Anchor.holds (text : Array Char) (place : Nat) : Anchor → Bool
  | .textStart => place == 0
  | .lineStart => place == 0 || text[place - 1]? == some '\n'
  | .textEnd => place == text.size
  | .finalEnd => place == text.size || (place + 1 == text.size && text[place]? == some '\n')
  | .lineEnd => place == text.size || text[place]? == some '\n'
  | .wordEdge plain negated =>
    let before := 0 < place && wordAt text plain (place - 1)
    text.size != 0 && ((before != wordAt text plain place) != negated)

/-- The number of characters from a place on, up to a limit, that pass a test. -/
def runLength (text : Array Char) (test : CharTest) (place : Nat) : Nat → Nat
  | 0 => 0
  | limit + 1 =>
    match text[place]? with
    | some c => if test.has c then runLength text test (place + 1) limit + 1 else 0
    | none => 0

/-- So many characters from one place on are the same as those from another. -/
def sameRun (text : Array Char) (folding : Folding) (start place : Nat) : Nat → Bool
  | 0 => true
  | count + 1 =>
    match text[start]?, text[place]? with
    | some c, some d =>
      folding.apply c.toNat == folding.apply d.toNat &&
        sameRun text folding (start + 1) (place + 1) count
    | _, _ => false

/-- One more round is allowed. -/
def mayRepeat (most : Option Nat) (count : Nat) : Bool :=
  match most with
  | some n => count < n
  | none => true

/-- Go on after a run of characters, giving them back one by one. `spare` more than the least number
were taken. Where `next` has to follow, the places at which it does not are passed over. -/
def giveBack (text : Array Char) (next : Option Nat) (looped : Bool) (earlier : Board)
    (place : Nat) (go : Continuation) : Nat → Board → Outcome
  | spare, board =>
    let here := place + spare
    let outcome :=
      if next.any fun n => text[here]?.all fun c => c.toNat != n then Outcome.miss board
      else (go here (board.at_ here)).orMiss (·.undo earlier looped)
    match spare, outcome with
    | spare + 1, .miss board => giveBack text next looped earlier place go spare board
    | _, outcome => outcome

/-- Go on after a run of characters, taking more one by one. -/
def takeMore (text : Array Char) (test : CharTest) (looped : Bool) (earlier : Board)
    (go : Continuation) : Nat → Nat → Board → Outcome
  | spare, place, board =>
    match (go place (board.at_ place)).orMiss fun board =>
        (board.undo earlier looped).at_ place with
    | .hit board => .hit board
    | .miss board =>
      match spare with
      | 0 => .miss board
      | spare + 1 =>
        if text[place]?.any test.has then
          takeMore text test looped earlier go spare (place + 1) board
        else .miss board

/-- Repeat a test on single characters. -/
def repeatTest (text : Array Char) (test : CharTest) (appetite : Appetite) (least : Nat)
    (most : Option Nat) (looped : Bool) (next : Option Nat) : Matcher := fun place board go =>
  let room := text.size - place
  if room < least then .miss board
  else
    let limit := (most.getD room).min room
    let board := board.at_ place
    match appetite with
    | .greedy =>
      let count := runLength text test place limit
      if count < least then .miss board
      else giveBack text next looped board (place + least) go (count - least) board
    | .lazy =>
      if runLength text test place least < least then .miss board
      else
        let spare := (most.getD text.size) - least
        takeMore text test looped board go (spare.min text.size) (place + least) board
    | .possessive =>
      let count := runLength text test place limit
      if count < least then .miss board else go (place + count) board

/-- As many rounds as possible first. `last` is where the latest round beyond the least number
began. -/
def greedily (body : Matcher) (least : Nat) (most : Option Nat) :
    Nat → Nat → Option Nat → Matcher
  | 0, _, _, _, board, _ => .miss board
  | fuel + 1, count, last, place, board, go =>
    let board := board.at_ place
    let leave (board : Board) := (go place board).orMiss (·.at_ place)
    if count < least then
      (body place board fun place board =>
        greedily body least most fuel (count + 1) last place board go).orMiss (·.at_ place)
    else if mayRepeat most count && last != some place then
      match body place board fun later board =>
          greedily body least most fuel (count + 1) (some place) later board go with
      | .hit board => .hit board
      | .miss _ => leave board
    else leave board

/-- As few rounds as possible first. -/
def lazily (body : Matcher) (least : Nat) (most : Option Nat) (looped : Bool) :
    Nat → Nat → Option Nat → Matcher
  | 0, _, _, _, board, _ => .miss board
  | fuel + 1, count, last, place, board, go =>
    let board := board.at_ place
    if count < least then
      (body place board fun place board =>
        lazily body least most looped fuel (count + 1) last place board go).orMiss (·.at_ place)
    else
      match (go place board).orMiss fun later => (later.undo board looped).at_ place with
      | .hit board => .hit board
      | .miss board =>
        if mayRepeat most count && last != some place then
          (body place board fun later board =>
            lazily body least most looped fuel (count + 1) (some place) later board go).orMiss
            (·.at_ place)
        else .miss board

/-- As many rounds as possible, none of which is taken back. The result is the board after the last
round, with the place from which to go on noted. -/
def possessively (body : Matcher) (least : Nat) (most : Option Nat) :
    Nat → Nat → Option Nat → Board → Outcome
  | 0, _, _, board => .miss board
  | fuel + 1, count, last, board =>
    if count < least then
      match body board.noted board finish with
      | .hit board => possessively body least most fuel (count + 1) last board
      | .miss board => .miss board
    else if mayRepeat most count && last != some board.noted then
      match body board.noted board finish with
      | .hit later => possessively body least most fuel (count + 1) (some board.noted) later
      | .miss later => .hit (board.at_ later.noted)
    else .hit board

/-- Match a pattern at a place and go on from where it ends. `looped` says that the pattern stands
in a loop, and `next` is the character that has to follow, where that is known. -/
def Node.run (text : Array Char) : Node → Bool → Option Nat → Matcher
  | .empty, _, _, place, board, go => go place board
  | .never, _, _, _, board, _ => .miss board
  | .chars test, _, _, place, board, go =>
    if text[place]?.any test.has then go (place + 1) board else .miss board
  | .anchor test, _, _, place, board, go =>
    if test.holds text place then go place board else .miss board
  | .seq first second, looped, next, place, board, go =>
    first.run text looped (second.opening next) place board fun place board =>
      second.run text looped next place board go
  | .alt first others, looped, next, place, board, go =>
    let attempt :=
      if first.openingTest?.any fun test => !text[place]?.any test.has then Outcome.miss board
      else (first.run text looped none place (board.at_ place) go).orMiss (·.undo board looped)
    match attempt with
    | .hit board => .hit board
    | .miss board => others.run text looped next place board go
  | .group number body, looped, _, place, board, go =>
    body.run text looped none place (board.mark (2 * number - 2) place) fun place board =>
      go place (board.mark (2 * number - 1) place)
  | .sameAs number folding, _, _, place, board, go =>
    match board.group? number with
    | some (start, stop) =>
      if sameRun text folding start place (stop - start) then go (place + (stop - start)) board
      else .miss board
    | none => .miss board
  | .ahead false body, looped, _, place, board, go =>
    match body.run text looped none place (board.at_ place) finish with
    | .hit board => go place board
    | .miss board => .miss board
  | .ahead true body, looped, _, place, board, go =>
    match body.run text looped none place (board.at_ place) finish with
    | .hit board => .miss board
    | .miss later => go place (later.undo board looped)
  | .behind negated width body, looped, _, place, board, go =>
    if place < width then (if negated then go place board else .miss board)
    else
      match negated,
          body.run text looped none (place - width) (board.at_ (place - width)) finish with
      | false, .hit board => go place board
      | false, .miss board => .miss board
      | true, .hit board => .miss board
      | true, .miss later => go place (later.undo board looped)
  | .atomic body, looped, _, place, board, go =>
    match body.run text looped none place (board.at_ place) finish with
    | .hit board => go board.noted board
    | .miss board => .miss (board.at_ place)
  | .loop appetite least most (.chars test), looped, next, place, board, go =>
    repeatTest text test appetite least most looped next place board go
  | .loop .greedy least most body, _, _, place, board, go =>
    greedily (fun place board go => body.run text true none place board go) least most
      (least + text.size + 2) 0 none place (board.at_ place) go
  | .loop .lazy least most body, looped, _, place, board, go =>
    lazily (fun place board go => body.run text true none place board go) least most looped
      (least + text.size + 2) 0 none place (board.at_ place) go
  | .loop .possessive least most body, looped, _, place, board, go =>
    match possessively (fun place board go => body.run text looped none place board go) least most
        (least + text.size + 2) 0 none (board.at_ place) with
    | .hit board => go board.noted board
    | .miss board => .miss (board.at_ place)
  | .ifGroup number yes no, looped, next, place, board, go =>
    match board.group? number with
    | some _ => yes.run text looped (if no = .empty then next else none) place board go
    | none => no.run text looped next place board go

end Workflow.Pattern
