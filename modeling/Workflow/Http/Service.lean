import Workflow.Engine.Catalog
import Workflow.Engine.Conversations
import Workflow.Engine.Dispatch
import Workflow.Http.Endpoint

/-!
# The service

The service answers requests with the help of an engine. Whatever belongs to a routine is asked for
in a scope, and what belongs to another scope is not there. A request is checked in a fixed order:
its document, its scope, the engine, and then the shape of its parts.
-/

namespace Workflow.Http

/-- The version of the service. -/
def serviceVersion : String := "0.3.0"

/-- The addresses of databases that mean that nothing is stored outside the memory. -/
def memoryAddresses : List String := ["", "memory", "memory://"]

/-- The service. It may be asked before it has an engine. -/
structure Service where
  settings : Settings
  engine : Option (Engine Empty) := none

/-- Work on the engine of a service. -/
abbrev Work (α : Type) := Engine.Work Empty α

namespace Service

/-- The settings ask for a database. -/
def wantsDatabase (settings : Settings) : Bool := !memoryAddresses.contains settings.databaseUrl

/-- The engine that settings ask for, with the templates that come with the library. -/
def engineOf (settings : Settings) : Engine Empty :=
  let store := if wantsDatabase settings then Store.onTables else Store.inMemory
  ((Engine.seed : Work _).perform (Engine.ofSettings settings store)).2

/-- The service at work. -/
def launched (settings : Settings) : Service := { settings, engine := some (engineOf settings) }

/-- How the service is. -/
def health (service : Service) : Value :=
  let database :=
    if service.engine.isSome && wantsDatabase service.settings then [("database", Value.bool true)]
    else []
  let channel :=
    if service.engine.isSome then (ChannelKind.ofSettings service.settings).name else ""
  .object [("status", .text (if service.engine.isSome then "ok" else "degraded")),
    ("version", .text serviceVersion),
    ("services",
      .object ([("api", .bool true), ("engine", .bool service.engine.isSome)] ++ database)),
    ("channel", .text channel)]

end Service

namespace Call

/-- The message of a conversation at a position, with an id made from both. -/
def encodeMessage (conversation : String) (position : Nat) (message : Message) : Value :=
  .object [("id", .text (Identifier.ofPart conversation position)),
    ("role", .text message.role.name), ("content", .text message.content),
    ("metadata", Workflow.Answer.encodeFields? message.metadata)]

/-- The place of a variable whose name is no text. -/
def placeOf (name : Value) : List Place :=
  let own : Place :=
    match name with
    | .int n => if Number.IsWord n then .number n else .field name.display
    | .bool b => .number (if b then 1 else 0)
    | _ => .field name.display
  [.field "variables", own, .field "[key]"]

/-- A conversation as it is written in an answer, where the names of all variables have to be
texts. -/
def encodeConversation (c : Conversation) : Except Fault Value :=
  let document : Value :=
    .object [("execution_id", .text c.id), ("routine_id", .text c.routine),
      ("state", .text c.state.name), ("current_node_id", Value.ofText? c.node),
      ("messages", .list (c.messages.zipIdx.map fun (message, position) =>
        encodeMessage c.id position message)),
      ("variables", .object c.bindings.shown)]
  match c.bindings.unnamed with
  | [] => .ok document
  | names =>
    .error (.malformed "ConversationResponse" document
      (names.map fun name => ⟨placeOf name, .notText⟩))

/-- A list as a value. -/
def encodeAll {α : Type} (encode : α → Value) (items : List α) : Value := .list (items.map encode)

/-- A document, or the answer that turns the request away. -/
abbrev Granted := Except Answer Value

/-- Work that ends with a document or a refusal. -/
def grant (work : Work Value) : Work Granted := do
  match ← work.attempt with
  | .ok v => pure (.ok v)
  | .error fault =>
    match Answer.ofFault? fault with
    | some answer => pure (.error answer)
    | none => Operation.fail fault

/-- Go on when a routine belongs to the scope. -/
def owned (id scope : String) (work : Work Value) : Work Granted :=
  grant do
    let _ ← Engine.routine id (some scope)
    work

/-- There is no conversation with the id in the scope. -/
def noConversation (id : String) : Answer :=
  .sentence 404 ("Conversation '" ++ id ++ "' not found.")

/-- Go on when a conversation belongs to a routine of the scope. -/
def tracked (id scope : String) (work : Conversation → Work Value) : Work Granted := do
  match (← get).table.find? id with
  | none => pure (.error (noConversation id))
  | some c =>
    match ← (Engine.routine c.routine (some scope)).attempt with
    | .error _ => pure (.error (noConversation id))
    | .ok _ => grant (work c)

/-- Carry out a call in a scope. -/
def run (scope : String) : Call → Work Granted
  | .templates => do return .ok (encodeAll Template.encode (← Engine.templates))
  | .dispatch key payload follow => do
    let (results, skipped) ← Operation.ofFunction
      (Engine.dispatchCounted Engine.performNone key payload scope follow).run
    return .ok (.object [("results", encodeAll StepResult.encode results),
      ("skipped", .int skipped)])
  | .instantiate key configuration name createdBy =>
    grant do
      let template ← Engine.template key
      return (← Engine.instantiate template scope configuration (name.getD "") createdBy).encode
  | .listRoutines status => do
    return .ok (encodeAll Routine.encode (← Engine.routines scope status))
  | .routine id => grant do return (← Engine.routine id (some scope)).encode
  | .setStatus id status => owned id scope do return (← Engine.setStatus id status).encode
  | .setDefinition id definition createdBy =>
    owned id scope do return (← Engine.updateDefinition id definition createdBy).encode
  | .rollback id version createdBy =>
    owned id scope do return (← Engine.rollback id version createdBy).encode
  | .versions id => owned id scope do return encodeAll Snapshot.encode (← Engine.history id)
  | .audit id page =>
    owned id scope do
      return encodeAll Entry.encode (← Engine.stored (Store.entriesOf id page))
  | .start id bindings =>
    owned id scope do Operation.ofExcept (encodeConversation (← Engine.start id bindings))
  | .conversation id => tracked id scope fun c => Operation.ofExcept (encodeConversation c)
  | .resume id reply =>
    tracked id scope fun _ => do
      Operation.ofExcept (encodeConversation (← Engine.resume id reply.encode))

/-- The status of the answer to a call that was granted. -/
def status : Call → Nat
  | .instantiate .. | .start .. => 201
  | _ => 200

end Call

namespace Service

/-- Carry out a call that passed all checks. -/
def carryOut (service : Service) (engine : Engine Empty) (scope : String) (call : Call) :
    Except Fault Answer × Service :=
  let (outcome, engine) := (call.run scope).perform engine
  let answer := outcome.map fun
    | .ok body => ⟨call.status, body.finite⟩
    | .error refused => refused
  (answer, { service with engine := some engine })

/-- The answer to a request whose parts do not have the expected shape. It quotes those parts, which
is not possible for numbers that are not finite. -/
def turnAway (body : Value) (issues : List Issue) : Except Fault Answer :=
  let input : Value := .object [("body", body)]
  if issues.all fun issue => (issue.part input).isFinite then .ok (.ofIssues issues)
  else .error .unwritableNumber

/-- Ask an endpoint. -/
def ask (service : Service) (endpoint : Endpoint) (request : Request)
    (query : List (String × String)) : Except Fault Answer × Service :=
  match if endpoint.takesBody then request.document else .ok .null with
  | .error refused => (.ok refused, service)
  | .ok body =>
    match request.scope?, endpoint.needsScope with
    | none, true => (.ok .noScope, service)
    | scope, _ =>
      match service.engine with
      | none => (.ok .noEngine, service)
      | some engine =>
        match Call.read query body endpoint with
        | .bad issues => (turnAway body issues, service)
        | .good call => service.carryOut engine (scope.getD "") call

/-- The answer to a method on a target. -/
def reply (service : Service) (method : String) (target : Target) (request : Request) :
    Except Fault Answer × Service :=
  match Endpoint.find method target.path with
  | .error refused => (.ok refused, service)
  | .ok .page => (.ok .page, service)
  | .ok .health => (.ok ⟨200, service.health⟩, service)
  | .ok endpoint => service.ask endpoint request target.query

/-- The answer to a request, or the fault nobody expected. Small letters do in a method, and one of
them asks for an answer without its body. -/
def respond (service : Service) (request : Request) : Except Fault Answer × Service :=
  let method := request.method.map Char.toUpper
  match Target.ofText? request.target with
  | none => (.error .badAddress, service)
  | some target =>
    if request.isSendable then
      let (answer, service) := service.reply method target request
      (if method = "HEAD" then answer.map fun a => { a with body := .null } else answer, service)
    else (.error .unsendableText, service)

end Service

end Workflow.Http
