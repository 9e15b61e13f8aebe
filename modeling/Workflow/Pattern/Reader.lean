import Workflow.Dict
import Workflow.Number.Reading
import Workflow.Pattern.Flaw
import Workflow.Pattern.Part
import Workflow.Pattern.Query
import Workflow.Text.CharacterName
import Workflow.Text.Name

/-!
# Reading patterns

A pattern is written as text. Characters stand for themselves, except the ones that build sets,
groups, choices and repetitions, and a backslash gives a character or a class another meaning. A
text that is no pattern is refused. Reading goes over tokens, a token being a character alone or
with a backslash before it; every nested construct spends one unit of a fuel that the number of
tokens provides.
-/

namespace Workflow.Pattern

/-- A character, with or without a backslash before it. -/
inductive Token where
  | plain (c : Char)
  | escaped (c : Char)
  /-- A backslash with nothing after it. -/
  | cut
  deriving DecidableEq, Repr

namespace Token

/-- The tokens of a pattern. -/
def all : List Char → List Token
  | [] => []
  | ['\\'] => [.cut]
  | '\\' :: c :: rest => .escaped c :: all rest
  | c :: rest => .plain c :: all rest

/-- The characters a token was read from. -/
def source : Token → List Char
  | .plain c => [c]
  | .escaped c => ['\\', c]
  | .cut => ['\\']

end Token

/-- What letters in front of a group switch on. -/
structure Flags where
  ignoreCase : Bool := false
  multiline : Bool := false
  dotAll : Bool := false
  verbose : Bool := false
  plain : Bool := false
  /-- Every script is asked for, which is so without asking. -/
  everyScript : Bool := false
  /-- The pattern may not repeat anything. -/
  template : Bool := false
  deriving DecidableEq, Repr

/-- How letters are compared. -/
def Flags.folding (flags : Flags) : Folding :=
  if flags.ignoreCase then (if flags.plain then .plain else .full) else .exact

/-- What is known while a pattern is read. -/
structure Reading where
  rest : List Token
  /-- The letters given for the whole pattern. -/
  flags : Flags := {}
  /-- The number of the next group. -/
  next : Nat := 1
  /-- The widths of the groups that are closed. -/
  closed : List (Nat × Width) := []
  names : Dict Nat := []
  /-- Inside a look behind: the first group that may not be referred to. -/
  horizon : Option Nat := none
  /-- Groups that were asked for by number and must turn up. -/
  asked : List Nat := []
  /-- Some look behind has no fixed width. -/
  unfixed : Bool := false
  /-- How many groups are open. -/
  depth : Nat := 0

/-- Reading a part of a pattern. -/
abbrev Read (α : Type) := StateT Reading (Except Flaw) α

namespace Read

/-- The text is no pattern. -/
def refuse {α : Type} : Read α := throw .malformed

/-- Go on with other tokens. A backslash with nothing after it is noticed as soon as it is next. -/
def proceed (rest : List Token) : Read Unit := do
  if rest.head? = some .cut then refuse
  modify fun s => { s with rest }

/-- The next token, which stays. -/
def peek : Read (Option Token) := return (← get).rest.head?

/-- The next token. -/
def take? : Read (Option Token) := do
  let rest := (← get).rest
  proceed rest.tail
  return rest.head?

/-- The next token, which must be there. -/
def take : Read Token := do
  match ← take? with
  | some t => pure t
  | none => refuse

/-- Pass a character if it is next. -/
def accept (c : Char) : Read Bool := do
  let rest := (← get).rest
  if rest.head? = some (.plain c) then
    proceed rest.tail
    return true
  else return false

/-- Pass a character that must be next. -/
def expect (c : Char) : Read Unit := do
  unless ← accept c do refuse

/-- At most so many of the characters that are next. -/
def takeWhile (limit : Nat) (test : Char → Bool) : Read (List Char) := do
  let rest := (← get).rest
  let run := (rest.take limit).takeWhile fun t =>
    match t with
    | .plain c => test c
    | _ => false
  proceed (rest.drop run.length)
  return run.flatMap Token.source

/-- The characters up to a closing one, at least one. -/
def until_ (close : Char) : Read (List Char) := do
  let rest := (← get).rest
  let run := rest.takeWhile (· != .plain close)
  if run.isEmpty || run.length = rest.length then refuse
  proceed (rest.drop (run.length + 1))
  return run.flatMap Token.source

/-- Pass everything up to and with a character. -/
def skipPast (c : Char) : Read Unit := do
  let rest := (← get).rest
  let left := rest.dropWhile (· != .plain c)
  if left.isEmpty && rest.getLast? = some .cut then refuse
  proceed left.tail

end Read

open Read

/-- A digit of base eight. -/
def isOctal (c : Char) : Bool := '0' ≤ c && c ≤ '7'

/-- A digit of base sixteen. -/
def isHex (c : Char) : Bool := c.isDigit || ('a' ≤ c && c ≤ 'f') || ('A' ≤ c && c ≤ 'F')

/-- The number written with digits of a base up to sixteen. -/
def baseValue (base : Nat) (ds : List Char) : Nat :=
  ds.foldl (fun n c =>
    base * n + (if c.isDigit then c.toNat - '0'.toNat else c.toLower.toNat - 'a'.toNat + 10)) 0

/-- The characters of the controls that have a letter. -/
def controlLetters : List (Char × Nat) :=
  [('a', 7), ('b', 8), ('f', 12), ('n', 10), ('r', 13), ('t', 9), ('v', 11), ('\\', 92)]

/-- The code of a letter for a control. -/
def control? (c : Char) : Option Nat :=
  (controlLetters.find? fun entry => entry.1 = c).map (·.2)

/-- The class of a letter, and whether it means everything outside the class. -/
def category? : Char → Option (Category × Bool)
  | 'd' => some (.digit, false)
  | 'D' => some (.digit, true)
  | 's' => some (.space, false)
  | 'S' => some (.space, true)
  | 'w' => some (.word, false)
  | 'W' => some (.word, true)
  | _ => none

/-- A character given by exactly so many digits of base sixteen. -/
def readHex (digits : Nat) : Read Nat := do
  let ds ← takeWhile digits isHex
  if ds.length = digits ∧ baseValue 16 ds < 0x110000 then pure (baseValue 16 ds) else refuse

/-- A character given by its name in braces. -/
def readNamed : Read Nat := do
  expect '\x7b'
  let name ← until_ '\x7d'
  match Text.characterNamed? name with
  | some n => pure n
  | none => refuse

/-- A character given by a letter, by its code, by its name, or by itself when it is no letter. -/
def readPlainEscape (c : Char) : Read Nat := do
  if c = 'N' then readNamed
  else if c = 'x' then readHex 2
  else if c = 'u' then readHex 4
  else if c = 'U' then readHex 8
  else if c.isAlpha || c.isDigit then refuse
  else pure c.toNat

/-- What an escape inside a set stands for. -/
def readSetEscape (flags : Flags) (c : Char) : Read SetItem := do
  match control? c, category? c with
  | some n, _ => pure (.single n)
  | none, some (category, negated) => pure (.members category flags.plain negated)
  | none, none =>
    if isOctal c then
      let ds ← takeWhile 2 isOctal
      let n := baseValue 8 (c :: ds)
      if n > 0o377 then refuse else pure (.single n)
    else return .single (← readPlainEscape c)

/-- The single character of a set item. -/
def SetItem.single? : SetItem → Option Nat
  | .single n => some n
  | _ => none

/-- One member of a set, given the token it starts with. -/
def readMember (flags : Flags) : Token → Read SetItem
  | .plain c => pure (.single c.toNat)
  | .escaped c => readSetEscape flags c
  | .cut => refuse

/-- The members of a set up to the closing bracket. -/
def readMembers (flags : Flags) : Nat → List SetItem → Read (List SetItem)
  | 0, _ => refuse
  | fuel + 1, items => do
    let t ← take
    if t = .plain ']' && !items.isEmpty then pure items
    else
      let first ← readMember flags t
      if ← accept '-' then
        let t ← take
        if t = .plain ']' then pure (items ++ [first, .single 45])
        else
          let last ← readMember flags t
          match first.single?, last.single? with
          | some a, some b =>
            if b < a then refuse else readMembers flags fuel (items ++ [.range a b])
          | _, _ => refuse
      else readMembers flags fuel (items ++ [first])

/-- A single character. -/
def literal (flags : Flags) (n : Nat) : CharTest :=
  .literal n (if flags.folding.hasCased n n then flags.folding else .exact)

/-- A set of characters, after its opening bracket. -/
def readSet (flags : Flags) : Read CharTest := do
  let negated ← accept '^'
  let items ← readMembers flags ((← get).rest.length + 1) []
  match items.eraseDups, literal flags with
  | [.single n], single =>
    match negated, single n with
    | true, .literal n folding => pure (.allBut n folding)
    | _, test => pure test
  | items, _ => pure (.among (.ofItems flags.folding negated items))

/-- A class of characters. -/
def ofCategory (flags : Flags) (category : Category) (negated : Bool) : CharTest :=
  .among { items := [.members category flags.plain negated] }

/-- The text of an earlier group once more. -/
def readReference (flags : Flags) (number : Nat) : Read Part := do
  let s ← get
  match s.closed.find? fun entry => entry.1 = number with
  | none => refuse
  | some (_, width) =>
    if s.horizon.any (· ≤ number) then refuse
    else pure ⟨.sameAs number flags.folding, width, .leaf⟩

/-- What an escape outside a set stands for. -/
def readEscape (flags : Flags) (c : Char) : Read Part := do
  match category? c with
  | some (category, negated) => pure (.test (ofCategory flags category negated))
  | none =>
    if c = 'A' then pure (.place .textStart)
    else if c = 'Z' then pure (.place .textEnd)
    else if c = 'b' then pure (.place (.wordEdge flags.plain false))
    else if c = 'B' then pure (.place (.wordEdge flags.plain true))
    else
      match control? c with
      | some n => pure (.test (literal flags n))
      | none =>
        if c = '0' then
          let ds ← takeWhile 2 isOctal
          pure (.test (literal flags (baseValue 8 ds)))
        else if c.isDigit then
          let more ← takeWhile 1 Char.isDigit
          match more with
          | [d] =>
            if isOctal c && isOctal d then
              match ← takeWhile 1 isOctal with
              | [e] =>
                let n := baseValue 8 [c, d, e]
                if n > 0o377 then refuse else pure (.test (literal flags n))
              | _ => readReference flags (baseValue 10 [c, d])
            else readReference flags (baseValue 10 [c, d])
          | _ => readReference flags (baseValue 10 [c])
        else
          let n ← readPlainEscape c
          pure (.test (literal flags n))

/-- The largest count a repetition may name. -/
def countLimit : Nat := 4294967295

/-- The most digits a count may have. -/
def countDigits : Nat := 4300

/-- A count written with digits. -/
def countOf (digits : List Char) : Except Flaw Nat :=
  if countDigits < digits.length then .error (.oversizeNumber digits.length)
  else if baseValue 10 digits ≥ countLimit then .error .oversizeCount
  else .ok (baseValue 10 digits)

/-- The counts between braces, or nothing when the brace stands for itself. -/
def readCounts : Read (Option (Nat × Option Nat)) := do
  let before ← get
  if before.rest.head? = some (.plain '\x7d') then return none
  let low ← takeWhile before.rest.length Char.isDigit
  let ranged ← accept ','
  let high ← if ranged then takeWhile before.rest.length Char.isDigit else pure low
  if ← accept '\x7d' then
    let least ← if low.isEmpty then pure 0 else liftM (countOf low)
    let most ← if high.isEmpty then pure none else some <$> liftM (countOf high)
    if most.any (· < least) then refuse
    return some (least, most)
  else
    set before
    return none

/-- The counts of a repetition sign, or nothing when it stands for itself. -/
def repetition? (c : Char) : Read (Option (Nat × Option Nat)) :=
  match c with
  | '*' => pure (some (0, none))
  | '+' => pure (some (1, none))
  | '?' => pure (some (0, some 1))
  | _ => readCounts

/-- The sign after a repetition that changes what it tries first. -/
def readAppetite : Read Appetite := do
  if ← accept '?' then pure .lazy
  else if ← accept '+' then pure .possessive
  else pure .greedy

/-- The last item of a sequence, repeated. The items stand last one first. -/
def repeatLast (counts : Nat × Option Nat) (items : List Item) : Read (List Item) :=
  match items with
  | [] => refuse
  | last :: earlier => do
    if (last.repeated? .greedy 0 none).isNone then refuse
    let appetite ← readAppetite
    match last.repeated? appetite counts.1 counts.2 with
    | some item => pure (item :: earlier)
    | none => refuse

/-- The parts of a sequence whose items stand last one first. -/
def sequenceOf (items : List Item) : List Part := items.reverse.flatMap Item.parts

/-- A letter that switches something on. -/
def setFlag (flags : Flags) (on : Bool) : Char → Option Flags
  | 'i' => some { flags with ignoreCase := on }
  | 'm' => some { flags with multiline := on }
  | 's' => some { flags with dotAll := on }
  | 'x' => some { flags with verbose := on }
  | _ => none

/-- Switch on what the letters say. At most one of the letters for the scripts may be among them.
For a group alone, that letter replaces what held before; the letter for templates is for whole
patterns only. -/
def addFlags (flags : Flags) (whole : Bool) (letters : List Char) : Option Flags :=
  if letters.contains 'a' && letters.contains 'u' then none
  else
    letters.foldlM (fun flags c =>
      if c = 'a' then some { flags with plain := true }
      else if c = 'u' then
        some (if whole then { flags with everyScript := true } else { flags with plain := false })
      else if c = 't' then if whole then some { flags with template := true } else none
      else setFlag flags true c) flags

/-- Switch off what the letters say. -/
def dropFlags (flags : Flags) (letters : List Char) : Option Flags :=
  letters.foldlM (fun flags c => setFlag flags false c) flags

/-- What the letters at the front of a group do. -/
inductive FlagScope where
  | whole (flags : Flags)
  | group (flags : Flags)

/-- The letters at the front of a group, up to the character that ends them. -/
def readFlags (flags : Flags) : Read FlagScope := do
  let on ← takeWhile (← get).rest.length Char.isAlpha
  match ← take with
  | .plain ')' =>
    match addFlags flags true on with
    | some flags => if on.isEmpty then refuse else pure (.whole flags)
    | none => refuse
  | .plain ':' =>
    match addFlags flags false on with
    | some flags => if on.isEmpty then refuse else pure (.group flags)
    | none => refuse
  | .plain '-' =>
    let off ← takeWhile (← get).rest.length Char.isAlpha
    expect ':'
    if off.isEmpty || on.any off.contains then refuse
    else
      match (addFlags flags false on).bind (dropFlags · off) with
      | some flags => pure (.group flags)
      | none => refuse
  | _ => refuse

/-- The number of the group a condition asks about. -/
def readCondition : Read Nat := do
  let name ← until_ ')'
  if Text.isName name then
    match (← get).names.get? (String.ofList name) with
    | some number => pure number
    | none => refuse
  else
    match Number.integer? (String.ofList name) with
    | some (.ofNat (number + 1)) =>
      modify fun s => { s with asked := (number + 1) :: s.asked }
      pure (number + 1)
    | _ => refuse

/-- Give a number, and perhaps a name, to a group that opens. -/
def openGroup (name : Option (List Char)) : Read Nat := do
  let s ← get
  match name with
  | none => set { s with next := s.next + 1 }
  | some name =>
    let name := String.ofList name
    if s.names.has name then refuse
    else set { s with next := s.next + 1, names := s.names.set name s.next }
  pure s.next

/-- Remember the width of a group that closes. -/
def closeGroup (number : Nat) (width : Width) : Read Unit :=
  modify fun s => { s with closed := (number, width) :: s.closed }

/-- A character that is skipped between others when a pattern is laid out over lines. -/
def isLayout (c : Char) : Bool := c == ' ' || (9 ≤ c.toNat && c.toNat ≤ 13)

/-- How deep groups may stand in one another. -/
def depthLimit : Nat := 490

/-- Go into a group. -/
def enter : Read Unit := do
  if depthLimit ≤ (← get).depth then throw .tooDeep
  modify fun s => { s with depth := s.depth + 1 }

/-- Come out of a group, past its closing parenthesis. -/
def leave : Read Unit := do
  expect ')'
  modify fun s => { s with depth := s.depth - 1 }

/-- A condition may be asked inside a look behind only of groups that are closed before it. -/
def checkHorizon (number : Nat) : Read Unit := do
  let s ← get
  if let some horizon := s.horizon then
    if horizon ≤ number || !s.closed.any (·.1 == number) then refuse

mutual

/-- Choices with bars between them. Without `inner`, what stands outside every group is read. -/
def readChoices : Nat → Option Flags → Read (List Part)
  | 0, _ => refuse
  | fuel + 1, inner => do
    let first ← readSequence fuel inner inner.isNone []
    let others ← readMoreChoices fuel inner
    return Part.either (inner.getD (← get).flags).folding (first :: others)

/-- The choices after the first. -/
def readMoreChoices : Nat → Option Flags → Read (List (List Part))
  | 0, _ => refuse
  | fuel + 1, inner => do
    if ← accept '|' then
      let next ← readSequence fuel inner false []
      return next :: (← readMoreChoices fuel inner)
    else return []

/-- A sequence up to a bar, a closing parenthesis or the end. `items` holds what is read, last one
first. -/
def readSequence : Nat → Option Flags → Bool → List Item → Read (List Part)
  | 0, _, _, _ => refuse
  | fuel + 1, inner, first, items => do
    let flags := inner.getD (← get).flags
    let goOn (part : Part) := readSequence fuel inner first (.part part :: items)
    match ← peek with
    | none => pure (sequenceOf items)
    | some .cut => refuse
    | some (.escaped c) =>
      let _ ← take?
      goOn (← readEscape flags c)
    | some (.plain c) =>
      if c = '|' || c = ')' then pure (sequenceOf items)
      else
        let _ ← take?
        if flags.verbose && isLayout c then readSequence fuel inner first items
        else if flags.verbose && c = '#' then
          skipPast '\n'
          readSequence fuel inner first items
        else if c = '[' then goOn (.test (← readSet flags))
        else if c = '.' then goOn (.test (.any flags.dotAll))
        else if c = '^' then goOn (.place (if flags.multiline then .lineStart else .textStart))
        else if c = '$' then goOn (.place (if flags.multiline then .lineEnd else .finalEnd))
        else if c = '(' then
          match ← readGroup fuel inner (first && items.isEmpty) with
          | some item => readSequence fuel inner first (item :: items)
          | none => readSequence fuel inner first items
        else if c = '*' || c = '+' || c = '?' || c = '\x7b' then
          match ← repetition? c with
          | some counts =>
            let items ← repeatLast counts items
            readSequence fuel inner first items
          | none => goOn (.test (literal flags c.toNat))
        else goOn (.test (literal flags c.toNat))

/-- A group, after its opening parenthesis. Comments and letters for the whole pattern leave
nothing. `atStart` says that nothing stands before the group. -/
def readGroup : Nat → Option Flags → Bool → Read (Option Item)
  | 0, _, _ => refuse
  | fuel + 1, inner, atStart => do
    let flags := inner.getD (← get).flags
    if !(← accept '?') then
      some <$> readCapture fuel flags none
    else
      match ← peek with
      | some (.plain 'P') =>
        let _ ← take?
        if ← accept '<' then
          let name ← until_ '>'
          if Text.isName name then some <$> readCapture fuel flags (some name) else refuse
        else if ← accept '=' then
          let name ← until_ ')'
          match (← get).names.get? (String.ofList name) with
          | some number => some <$> .part <$> readReference flags number
          | none => refuse
        else refuse
      | some (.plain ':') =>
        let _ ← take?
        some <$> .bare <$> readInside fuel flags
      | some (.plain '#') =>
        if (← get).rest.contains (.plain ')') then
          skipPast ')'
          pure none
        else refuse
      | some (.plain '=') =>
        let _ ← take?
        let body ← readInside fuel flags
        return some (.part (.peek (.ahead false (Part.join body))))
      | some (.plain '!') =>
        let _ ← take?
        let body ← readInside fuel flags
        return some (.part (.peek (.ahead true (Part.join body))))
      | some (.plain '<') =>
        let _ ← take?
        let negated ← accept '!'
        unless negated do expect '='
        let before ← get
        set { before with horizon := some (before.horizon.getD before.next) }
        enter
        let body ← readChoices fuel (some flags)
        modify fun s => { s with horizon := before.horizon }
        leave
        let width := Part.totalWidth body
        unless width.least = width.most && width.least ≤ countLimit do
          modify fun s => { s with unfixed := true }
        return some (.part (.peek (.behind negated width.least (Part.join body))))
      | some (.plain '(') =>
        let _ ← take?
        let number ← readCondition
        checkHorizon number
        enter
        let yes ← readSequence fuel (some flags) false []
        let no ← if ← accept '|' then readSequence fuel (some flags) false [] else pure []
        leave
        let width := (Part.totalWidth yes).join (Part.totalWidth no)
        return some (.part ⟨.ifGroup number (Part.join yes) (Part.join no), width, .other⟩)
      | some (.plain '>') =>
        let _ ← take?
        let body ← readInside fuel flags
        return some (.part ⟨.atomic (Part.join body), Part.totalWidth body, .other⟩)
      | _ =>
        match ← readFlags flags with
        | .whole flags =>
          if inner.isNone && atStart then
            modify fun s => { s with flags }
            pure none
          else refuse
        | .group flags =>
          let body ← readInside fuel flags
          return some (.part ⟨Part.join body, Part.totalWidth body, .other⟩)

/-- The inside of a group and its closing parenthesis. -/
def readInside : Nat → Flags → Read (List Part)
  | 0, _ => refuse
  | fuel + 1, flags => do
    enter
    let body ← readChoices fuel (some flags)
    leave
    return body

/-- The inside of a numbered group. -/
def readCapture : Nat → Flags → Option (List Char) → Read Item
  | 0, _, _ => refuse
  | fuel + 1, flags, name => do
    let number ← openGroup name
    let body ← readInside fuel flags
    let width := Part.totalWidth body
    closeGroup number width
    return .part ⟨.group number (Part.join body), width, .other⟩

end

/-- Something is repeated in a pattern. -/
def Node.hasLoop : Node → Bool
  | .loop .. => true
  | .seq first second | .alt first second => first.hasLoop || second.hasLoop
  | .group _ body | .ahead _ body | .behind _ _ body | .atomic body => body.hasLoop
  | .ifGroup _ yes no => yes.hasLoop || no.hasLoop
  | _ => false

namespace Query

/-- The pattern a text stands for. -/
def ofText (text : String) : Except Flaw Query := do
  let tokens := Token.all text.toList
  if tokens.head? = some .cut then throw .malformed
  let (parts, s) ← readChoices (5 * tokens.length + 5) none { rest := tokens }
  if s.flags.plain && s.flags.everyScript then throw .clashingScripts
  let node := Part.join parts
  if !s.rest.isEmpty || s.asked.any (s.next ≤ ·) || s.unfixed ||
      (s.flags.template && node.hasLoop) then throw .malformed
  return { node, least := (Part.totalWidth parts).least, plain := s.flags.plain }

end Query

end Workflow.Pattern
