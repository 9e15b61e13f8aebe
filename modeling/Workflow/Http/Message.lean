import Workflow.Fault
import Workflow.Http.Address
import Workflow.Json.Received
import Workflow.Json.Writer
import Workflow.Text.Blank

/-!
# Requests and answers

A request names a method and a target and may carry headers and a body. An answer has a status and a
document. Requests that are turned away get a document with the detail.

The target of a request is a path and a query. Signs in the path are read twice, as a part of the
address and once more by the service. A query is a list of names and values, and a plus sign in it
stands for a blank.
-/

namespace Workflow.Http

/-! ## Targets -/

/-- A name or a value of a query. -/
def queryText (s : String) : String :=
  Percent.decode (String.ofList (s.toList.map fun c => if c = '+' then ' ' else c))

/-- The names and values of a query. -/
def queryOf (s : String) : List (String × String) :=
  ((Text.split '&' s).filter (· ≠ "")).map fun part =>
    let (name, value) := Text.cut '=' part
    (queryText name, queryText value)

/-- The target of a request. -/
structure Target where
  path : String
  query : List (String × String) := []
  deriving DecidableEq, Repr

namespace Target

/-- The server that requests are for. -/
def server : Address := { scheme := "http", host := "localhost", path := "/" }

/-- What an address asks for. -/
def ofAddress (a : Address) : Target :=
  { path := Percent.decode (Percent.decode (if a.path = "" then "/" else a.path))
    query := queryOf (a.query.getD "") }

/-- Read a target, which is an address or what follows the server in one. -/
def ofText? (s : String) : Option Target :=
  (Address.ofText? s).map fun a => ofAddress (server.on a)

end Target

/-! ## What is sent -/

/-- A request. -/
structure Request where
  method : String
  target : String
  headers : List (String × String) := []
  body : String := ""
  deriving DecidableEq, Repr

/-- An answer. -/
structure Answer where
  status : Nat
  body : Value
  deriving DecidableEq, Repr

namespace Answer

/-- An answer that turns a request away. -/
def refusal (status : Nat) (detail : Value) : Answer :=
  { status, body := .object [("detail", detail)] }

/-- An answer that turns a request away with a sentence. -/
def sentence (status : Nat) (text : String) : Answer := refusal status (.text text)

/-- The answer to a request whose parts do not have the expected shape. -/
def ofIssues (issues : List Issue) : Answer := refusal 422 (.list (issues.map Issue.encode))

/-- The answer to a request for something that is not there. -/
def notFound : Answer := sentence 404 "Not Found"

/-- The answer to a method that a target does not know. -/
def notAllowed : Answer := sentence 405 "Method Not Allowed"

/-- The answer to a target with slashes too many at its end. -/
def elsewhere : Answer := { status := 307, body := .null }

/-- The answer that is a page to look at. -/
def page : Answer := { status := 200, body := .null }

/-- The answer to a body that cannot be read. -/
def unreadable : Answer := sentence 400 "There was an error parsing the body"

/-- The answer when there is no engine. -/
def noEngine : Answer := sentence 503 "Routine engine not initialised."

/-- The answer to a request without a scope. -/
def noScope : Answer := sentence 400 "X-Scope-Id header is required."

/-- The answer that a fault asks for. Faults that are no refusals have none. -/
def ofFault? (fault : Fault) : Option Answer :=
  match fault with
  | .noRoutine _ | .noTemplate _ | .noVersion _ _ => some (sentence 404 fault.message)
  | .invalidGraph violations =>
    some (refusal 422 (.object [("message", .text Fault.invalidGraphSummary),
      ("violations", .list (violations.map fun v => .text v.message))]))
  | .unknownStep _ =>
    some (refusal 422 (.object [("message", .text fault.message), ("violations", .list [])]))
  | .heldInput _ _ _ | .refusedStart _ _ _ | .archived _ | .forbiddenMove _ _ _
  | .alreadyStarted _ _ | .notSuspended _ _ => some (sentence 409 fault.message)
  | .handler _ | .noPath _ _ | .alreadyPublished _ => some (sentence 400 fault.message)
  | _ => none

end Answer

namespace Request

/-- The value of a header. Case does not matter in its name. -/
def header? (request : Request) (name : String) : Option String :=
  (request.headers.find? fun header => Text.lower header.1 = Text.lower name).map Prod.snd

/-- The scope a request is for. -/
def scope? (request : Request) : Option String :=
  let scope := Text.trim ((request.header? "X-Scope-Id").getD "")
  if scope = "" then none else some scope

/-- The kind of the content, without its parameters. What is no kind at all counts as plain text. -/
def contentKind (request : Request) : Option (String × String) :=
  match request.header? "Content-Type" with
  | none | some "" => none
  | some kind =>
    match Text.split '/' (Text.lower (Text.trim (Text.cut ';' kind).1)) with
    | [main, sub] => some (main, sub)
    | _ => some ("text", "plain")

/-- The body is a document: the kind of its content says so, or there is none. -/
def carriesDocument (request : Request) : Bool :=
  match request.contentKind with
  | none => true
  | some (main, sub) => main = "application" && (sub = "json" || sub.endsWith "+json")

/-- The document in the body of a request, or the answer to what is none. An empty body has no
document, and a body of another kind is taken as it is. -/
def document (request : Request) : Except Answer Value :=
  if request.body = "" then .ok .null
  else if request.carriesDocument then
    match Json.readReceived request.body with
    | .ok v => .ok v
    | .error (.broken position) =>
      .error (.ofIssues [⟨[.field "body", .item position], .brokenDocument⟩])
    | .error _ => .error .unreadable
  else .ok (.text request.body)

/-- The request can be sent: its headers are in plain characters. -/
def isSendable (request : Request) : Bool :=
  let isPlain (s : String) := s.toList.all (·.toNat < 0x80)
  request.headers.all fun (name, value) => isPlain name && isPlain value

end Request

end Workflow.Http
