import Workflow.Http.Domain.Label
import Workflow.Http.Host
import Workflow.Number.Display
import Workflow.Number.Reading
import Workflow.Text.Bytes
import Workflow.Text.Case

/-!
# Addresses

An address has a scheme, an authority, a path, a query and a fragment, and may lack any of them. The
authority names a host, with a user in front and a port behind. Parts are kept as they are sent: in
plain characters, with percent signs for all others, and without what goes without saying. An
address that lacks the scheme or the host is taken as a place on a server that is known otherwise.
-/

namespace Workflow.Http

open Text

/-- An address. -/
structure Address where
  scheme : String := ""
  user : String := ""
  host : String := ""
  port : Option Int := none
  path : String := ""
  query : Option String := none
  fragment : Option String := none
  deriving DecidableEq, Repr

namespace Address

/-! ## The parts of a written address -/

/-- The parts of an address as they are written. -/
structure Written where
  scheme : List Char := []
  authority : List Char := []
  path : List Char
  query : Option (List Char) := none
  fragment : Option (List Char) := none

/-- A scheme in front of a colon, which may be empty, and what follows it. -/
def schemeOf (cs : List Char) : List Char × List Char :=
  let scheme := cs.takeWhile fun c => c.isAlphanum || c = '+' || c = '.' || c = '-'
  match cs.drop scheme.length with
  | ':' :: rest =>
    match scheme with
    | [] => ([], rest)
    | c :: _ => if c.isAlpha then (scheme, rest) else ([], cs)
  | _ => ([], cs)

/-- What follows a mark, if it comes first, up to one of some characters. -/
def behind (mark : Char) (ends : List Char) (cs : List Char) : Option (List Char) × List Char :=
  match cs with
  | c :: rest =>
    if c = mark then (rest.takeWhile (!ends.contains ·), rest.dropWhile (!ends.contains ·))
    else (none, cs)
  | [] => (none, [])

/-- Take an address apart. -/
def Written.ofText (s : String) : Written :=
  let (scheme, rest) := schemeOf s.toList
  let (authority, rest) := match rest with
    | '/' :: '/' :: rest => rest.span (!List.contains ['/', '?', '#'] ·)
    | rest => ([], rest)
  let (path, rest) := rest.span (!List.contains ['?', '#'] ·)
  let (query, rest) := behind '?' ['#'] rest
  let (fragment, _) := behind '#' [] rest
  { scheme, authority, path, query, fragment }

/-- The part up to the last of a character, without it, and what follows it. -/
def cutLast (c : Char) (cs : List Char) : Option (List Char × List Char) :=
  let after := (cs.reverse.takeWhile (· != c)).reverse
  if after.length = cs.length then none
  else some (cs.take (cs.length - after.length - 1), after)

/-- An authority as a user, a host and a port. A host in brackets goes up to the last bracket. -/
def splitAuthority (cs : List Char) : List Char × List Char × List Char :=
  let (user, rest) := (cutLast '@' cs).getD ([], cs)
  let bracketed : Option (List Char × List Char) := match rest with
    | '[' :: _ => (cutLast ']' rest).map fun (front, after) => (front ++ [']'], after)
    | _ => none
  let (host, after) := bracketed.getD (rest.span (· != ':'))
  let port := match after with
    | ':' :: port => port
    | port => port
  (user, host, port)

/-! ## The parts as they are sent -/

/-- A character that stands for itself in the name of a user. -/
def keepsInUser : Char → Bool := Percent.isVisibleBut "\"#<>?`\x7b\x7d/;=@[\\]^|"

/-- A character that stands for itself in the name of a host. -/
def keepsInHost (c : Char) : Bool :=
  Percent.isPlain c || "!$&'()*+,;=\"`\x7b\x7d%|\\".toList.contains c

/-- A character that stands for itself in a path. -/
def keepsInPath : Char → Bool := Percent.isVisibleBut "\"#<>?`\x7b\x7d"

/-- A character that stands for itself in a query. -/
def keepsInQuery : Char → Bool := Percent.isVisibleBut "\"#<>"

/-- A character that stands for itself in a fragment. -/
def keepsInFragment : Char → Bool := Percent.isVisibleBut "\"<>`"

/-- A host as it is sent, when it is one. -/
def sentHost? (cs : List Char) : Option String :=
  let name := lower (String.ofList cs)
  if cs.isEmpty then some ""
  else if Host.looksShort cs then if Host.isShort cs then some (String.ofList cs) else none
  else if cs.head? = some '[' && cs.getLast? = some ']' then
    let number := (cs.drop 1).dropLast
    if Host.isLong number then some (String.ofList number) else none
  else if cs.all (·.toNat < 0x80) then some (Percent.encode keepsInHost name)
  else Domain.encode? name

/-- The port of a scheme that goes without saying. -/
def usualPort? : String → Option Int
  | "ftp" => some 21
  | "http" | "ws" => some 80
  | "https" | "wss" => some 443
  | _ => none

/-- A port as it is sent, when it is a number. -/
def sentPort? (scheme : String) (cs : List Char) : Option (Option Int) :=
  if cs.isEmpty then some none
  else
    match Number.integerDigits? (String.ofList cs) with
    | none => none
    | some (negative, ds) =>
      if Json.digitLimit < ds.length then none
      else
        let n : Int := if negative then -(Number.ofDigits ds) else Number.ofDigits ds
        some (if usualPort? scheme = some n then none else some n)

/-- The parts of a path without those that stay where they are or go back. -/
def walk (passed : List (List Char)) : List (List Char) → List (List Char)
  | [] => passed.reverse
  | part :: rest =>
    if part = ['.'] then walk passed rest
    else if part = ['.', '.'] then
      walk (if passed = [[]] then passed else passed.drop 1) rest
    else walk (part :: passed) rest

/-- A path without the parts that stay where they are or go back. -/
def straight (path : List Char) : List Char :=
  ['/'].intercalate (walk [] (splitChars '/' path))

/-- The path of an address has a form that its other parts allow. -/
def allowsPath (hasScheme hasAuthority : Bool) (path : List Char) : Bool :=
  if hasAuthority then path.isEmpty || path.head? = some '/'
  else hasScheme || !(path.take 2 = ['/', '/'] || path.head? = some ':')

/-- The longest address that is read. -/
def mostChars : Nat := 65536

/-- A plain character that cannot be seen, other than the space. -/
def isControl (c : Char) : Bool := c.toNat < 0x20 || c.toNat = 0x7F

/-- Read an address. -/
def ofText? (s : String) : Option Address := do
  if mostChars < s.length || s.toList.any isControl then failure
  let written := Written.ofText s
  let (user, host, port) := splitAuthority written.authority
  let scheme := String.ofList written.scheme
  let user := Percent.encode keepsInUser (String.ofList user)
  let host ← sentHost? host
  let port ← sentPort? scheme port
  let hasScheme := scheme != ""
  let hasAuthority := user != "" || host != "" || port.isSome
  if !allowsPath hasScheme hasAuthority written.path then failure
  let path := if hasScheme || hasAuthority then straight written.path else written.path
  let sent (keeps : Char → Bool) (cs : List Char) := Percent.encode keeps (String.ofList cs)
  return { scheme := lower scheme, user, host, port, path := sent keepsInPath path
           query := written.query.map (sent keepsInQuery)
           fragment := written.fragment.map (sent keepsInFragment) }

/-! ## What is done with an address -/

/-- The user, the host and the port. -/
def authority (a : Address) : String :=
  (if a.user = "" then "" else a.user ++ "@") ++
    (if a.host.toList.contains ':' then "[" ++ a.host ++ "]" else a.host) ++
    (match a.port with
    | some n => ":" ++ integerText n
    | none => "")

/-- An address as it is written. -/
def text (a : Address) : String :=
  (if a.scheme = "" then "" else a.scheme ++ ":") ++
    (if a.authority = "" then "" else "//" ++ a.authority) ++ a.path ++
    ((a.query.map ("?" ++ ·)).getD "") ++ ((a.fragment.map ("#" ++ ·)).getD "")

/-- The address says where to go. -/
def isWhole (a : Address) : Bool := a.scheme != "" && a.host != ""

/-- The address of a place on a server. What says where to go is taken as it is; of anything else,
the path and the query count. -/
def on (server a : Address) : Address :=
  if a.isWhole then a
  else
    let path := '/' :: a.path.toList.dropWhile (· == '/')
    let isServer := server.scheme != "" || server.authority != ""
    { server with
      path := String.ofList (if isServer then straight path else path)
      query := a.query, fragment := none }

/-- The name and the password of the user, if the address gives any. -/
def credentials? (a : Address) : Option (String × String) :=
  let (name, password) := cut ':' a.user
  let (name, password) := (Percent.decode name, Percent.decode password)
  if name = "" ∧ password = "" then none else some (name, password)

end Address

end Workflow.Http
