import Workflow.Terminal.Cell
import Workflow.Terminal.Emoji
import Workflow.Terminal.Literal
import Workflow.Terminal.Style
import Workflow.Text.Word

/-!
# Markup of terminal lines

What is printed is written with tags in square brackets, as in `[bold]Done[/bold]`. A tag starts
with a small letter, a number sign, a slash or an at sign right after the bracket. Backslashes
before a tag come in pairs that stand for one; one more takes the tag as text. `escape` writes a
text so that nothing in it is a tag. Names between colons stand for emoji, escaped or not.

Terminals differ in what styles they show, so rendering drops the styles. A closing tag still has to
close a tag that is open with the same style, in whatever words, and a tag with an at sign hands a
literal to an action.
-/

namespace Workflow.Markup

/-- What a written line consists of. -/
inductive Token where
  | char (c : Char)
  /-- A tag and the number of backslashes right before it. -/
  | tag (slashes : Nat) (content : List Char)
  deriving DecidableEq, Repr

/-- A character that a tag may start with. -/
def isTagStart (c : Char) : Bool :=
  ('a' ≤ c && c ≤ 'z') || c == '#' || c == '/' || c == '@'

/-- A character inside a tag. -/
def isTagBody (c : Char) : Bool := c != '[' && c != ']'

/-- The content of the tag that comes first, and what follows it. -/
def tag? : List Char → Option (List Char × List Char)
  | '[' :: c :: rest =>
    if isTagStart c then
      match rest.dropWhile isTagBody with
      | ']' :: following => some (c :: rest.takeWhile isTagBody, following)
      | _ => none
    else none
  | _ => none

theorem length_lt_of_tag? {cs content following : List Char}
    (h : tag? cs = some (content, following)) : following.length < cs.length := by
  unfold tag? at h
  split at h
  · rename_i c rest
    split at h
    · split at h
      · rename_i tail heq
        have shorter := (List.dropWhile_suffix isTagBody (l := rest)).length_le
        simp only [Option.some.injEq, Prod.mk.injEq] at h
        obtain ⟨-, rfl⟩ := h
        rw [heq] at shorter
        simp only [List.length_cons] at shorter ⊢
        omega
      · simp at h
    · simp at h
  · simp at h

/-- A backslash. -/
def isSlash (c : Char) : Bool := c == '\\'

/-- The parts of a written line. -/
def tokens (cs : List Char) : List Token :=
  match h : tag? (cs.dropWhile isSlash) with
  | some (content, following) =>
    have : following.length < cs.length :=
      Nat.lt_of_lt_of_le (length_lt_of_tag? h) (List.dropWhile_suffix isSlash).length_le
    .tag (cs.takeWhile isSlash).length content :: tokens following
  | none =>
    match cs with
    | [] => []
    | c :: rest => .char c :: tokens rest
  termination_by cs.length

/-- A tag as it is written, without the backslashes before it. -/
def bracketed (content : List Char) : List Char := '[' :: content ++ [']']

/-- A part written so that it is taken as text. -/
def Token.escaped : Token → List Char
  | .char c => [c]
  | .tag slashes content => List.replicate (2 * slashes + 1) '\\' ++ bracketed content

/-- A backslash at the very end is doubled, so that it does not touch a tag after it. Two or more
are left alone. -/
def guardEnd (cs : List Char) : List Char :=
  match cs.reverse with
  | '\\' :: '\\' :: _ => cs
  | '\\' :: _ => cs ++ ['\\']
  | _ => cs

/-- A text written so that nothing in it is a tag. -/
def escape (s : String) : String :=
  String.ofList (guardEnd ((tokens s.toList).flatMap Token.escaped))

/-- A tag that is open. -/
structure Opened where
  /-- The style it gives, in its one text. -/
  style : String
  /-- What follows the equals sign of the tag. -/
  parameters : List Char
  deriving DecidableEq, Repr

/-- What an action is handed: the part in parentheses behind its name, if there is one. -/
def handed (parameters : List Char) : List Char :=
  let cs := Text.trimChars parameters
  let behind := cs.dropWhile fun c => Text.isWord c || c == '.'
  if behind.isEmpty then ['(', ')']
  else if behind.head? = some '(' && behind.getLast? = some ')' && !behind.contains '\n' then behind
  else cs

/-- The tag can be closed: what it hands to an action is a literal. -/
def Opened.isClosable (tag : Opened) : Bool :=
  tag.style.toList.head? != some '@' || tag.parameters.isEmpty ||
    Terminal.Literal.isLiteral (handed tag.parameters)

/-- The tags that are open after one more tag, the latest first. A tag that closes nothing is a
fault. -/
def follow (opened : List Opened) (content : List Char) : Except Fault (List Opened) := do
  let name := content.takeWhile (· != '=')
  match name with
  | '/' :: name =>
    let name := Text.trim (String.ofList name)
    let closed ← if name = "" then .ok opened.head? else do
      let style ← Terminal.Style.normal name
      .ok (opened.find? (·.style = style))
    match closed with
    | none => .error (.strayTag (String.ofList content))
    | some tag =>
      if tag.isClosable then .ok (opened.erase tag)
      else .error (.badParameters (String.ofList tag.parameters))
  | name =>
    let style ← Terminal.Style.normal (String.ofList name)
    .ok ({ style, parameters := content.drop (name.length + 1) } :: opened)

/-- A text without the backslashes before its brackets. -/
def withoutSlashes : List Char → List Char
  | '\\' :: '[' :: rest => '[' :: withoutSlashes rest
  | c :: rest => c :: withoutSlashes rest
  | [] => []

/-- What is shown of a text between two tags. -/
def plain (cs : List Char) : List Char := Emoji.place (withoutSlashes cs)

/-- The text of a written line, given the tags that are open. `passed` holds the characters since
the last tag, last one first. -/
def text (opened : List Opened) (passed : List Char) : List Token → Except Fault (List Char)
  | [] => .ok (plain passed.reverse)
  | .char c :: rest => text opened (c :: passed) rest
  | .tag slashes content :: rest => do
    let before := plain passed.reverse ++ List.replicate (slashes / 2) '\\'
    if slashes % 2 = 1 then
      return before ++ Emoji.place (bracketed content) ++ (← text opened [] rest)
    else return before ++ (← text (← follow opened content) [] rest)

/-- The characters that move a terminal instead of showing anything: bell, backspace, vertical tab,
form feed and carriage return. -/
def isMove (c : Char) : Bool := [7, 8, 11, 12, 13].contains c.toNat

/-- The text of a written line, in which tabs are left. -/
def plainText (s : String) : Except Fault (List Char) := do
  let shown ← text [] [] (tokens s.toList)
  return shown.filter fun c => !isMove c

/-- What a terminal shows for a written line. -/
def render (s : String) : Except Fault String := do
  return String.ofList (Terminal.widenTabs 0 (← plainText s))

end Workflow.Markup
