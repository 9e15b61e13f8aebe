import Workflow.Audit.Trail
import Workflow.Graph.Step
import Workflow.Http.Message
import Workflow.Reply.Basic
import Workflow.Status

/-!
# Endpoints

An endpoint is a method on a path. What it is asked for is read from the path, the query and the
body into a call.
-/

namespace Workflow.Http

/-- What a client may ask for, as far as the method and the path say. -/
inductive Endpoint where
  /-- A page that describes the service. -/
  | page
  | health
  | templates
  | dispatch
  | instantiate
  | listRoutines
  | routine (id : String)
  | setStatus (id : String)
  | setDefinition (id : String)
  | rollback (id : String)
  | versions (id : String)
  | audit (id : String)
  | start
  | conversation (id : String)
  | resume (id : String)
  deriving DecidableEq, Repr

namespace Endpoint

/-- The methods on a path below the front of all paths, each with its endpoint. -/
def onPath : List String → List (String × Endpoint)
  | ["health"] => [("GET", .health)]
  | ["templates"] => [("GET", .templates)]
  | ["dispatch"] => [("POST", .dispatch)]
  | ["routines"] => [("POST", .instantiate), ("GET", .listRoutines)]
  | ["routines", id] => if id = "" then [] else [("GET", .routine id)]
  | ["routines", id, part] =>
    if id = "" then []
    else
      match part with
      | "status" => [("POST", .setStatus id)]
      | "definition" => [("PUT", .setDefinition id)]
      | "rollback" => [("POST", .rollback id)]
      | "versions" => [("GET", .versions id)]
      | "audit" => [("GET", .audit id)]
      | _ => []
  | ["conversations"] => [("POST", .start)]
  | ["conversations", id] => if id = "" then [] else [("GET", .conversation id)]
  | ["conversations", id, "resume"] => if id = "" then [] else [("POST", .resume id)]
  | _ => []

/-- The pages that describe the service. -/
def pages : List (List String) :=
  [["docs"], ["docs", "oauth2-redirect"], ["redoc"], ["openapi.json"]]

/-- The methods on the parts of a path. -/
def onSegments : List String → List (String × Endpoint)
  | "" :: "v1" :: rest => onPath rest
  | "" :: rest => if pages.contains rest then [("GET", .page), ("HEAD", .page)] else []
  | _ => []

/-- A path without the line break that may end it. -/
def withoutBreak (path : String) : String :=
  match path.toList.reverse with
  | '\n' :: rest => String.ofList rest.reverse
  | _ => path

/-- The methods on a path. -/
def methodsOn (path : String) : List (String × Endpoint) :=
  match onSegments (Text.split '/' path) with
  | [] => onSegments (Text.split '/' (withoutBreak path))
  | found => found

/-- The answer to a path that nothing is on. It may have slashes too many at its end. -/
def missing (path : String) : Answer :=
  let shorter := Text.trimEndOf '/' path
  if shorter != path && !(methodsOn shorter).isEmpty then .elsewhere else .notFound

/-- The endpoint of a method on a path. -/
def find (method path : String) : Except Answer Endpoint :=
  match methodsOn path with
  | [] => .error (missing path)
  | methods =>
    match methods.find? fun entry => entry.1 = method with
    | some (_, endpoint) => .ok endpoint
    | none => .error .notAllowed

/-- The endpoint reads the body of a request. -/
def takesBody : Endpoint → Bool
  | .dispatch | .instantiate | .setStatus _ | .setDefinition _ | .rollback _ | .start
  | .resume _ => true
  | _ => false

/-- The endpoint belongs to a scope. -/
def needsScope : Endpoint → Bool
  | .page | .health | .templates => false
  | _ => true

end Endpoint

/-- What a client asks for. -/
inductive Call where
  | templates
  | dispatch (key : String) (payload : Fields) (follow : Bool)
  | instantiate (template : String) (configuration : Fields) (name : Option String)
      (createdBy : String)
  | listRoutines (status : Option RoutineStatus)
  | routine (id : String)
  | setStatus (id : String) (status : RoutineStatus)
  | setDefinition (id : String) (definition : Definition) (createdBy : String)
  | rollback (id : String) (version : Int) (createdBy : String)
  | versions (id : String)
  | audit (id : String) (page : Page)
  | start (routine : String) (bindings : Fields)
  | conversation (id : String)
  | resume (id : String) (reply : Reply)
  deriving DecidableEq, Repr

namespace Call

/-- Shapes in a body are told apart by what they are and not by how they were made. -/
def bodyMismatch : Mismatch → Mismatch
  | .notRecord _ => .notAttributes
  | mismatch => mismatch

/-- Read a body, which has to be there. -/
def ofBody {α : Type} (read : Fields → Checked α) (body : Value) : Checked α :=
  match body with
  | .null => .bad [⟨[.field "body"], .missing⟩]
  | body =>
    match Shape.record "" read body with
    | .good a => .good a
    | .bad issues =>
      .bad (issues.map fun issue =>
        ⟨.field "body" :: issue.path, bodyMismatch issue.mismatch⟩)

/-- Read a part of a query. The last of several parts of one name counts. -/
def ofQuery {α : Type} (query : List (String × String)) (name : String) (decode : Decoder α)
    (missing : α) : Checked α :=
  match (query.filter fun part => part.1 = name).getLast? with
  | some (_, value) => (decode (.text value)).within (.field name) |>.within (.field "query")
  | none => .good missing

/-- What a request asks an endpoint for. -/
def read (query : List (String × String)) (body : Value) : Endpoint → Checked Call
  | .page | .health | .templates => .good .templates
  | .dispatch =>
    ofBody (fun fields =>
      Call.dispatch <$> Shape.required "trigger_key" Shape.someText fields
        <*> Shape.withDefault "payload" Shape.object [] fields
        <*> Shape.withDefault "follow" Shape.boolean false fields) body
  | .instantiate =>
    ofBody (fun fields =>
      Call.instantiate <$> Shape.required "template_key" Shape.someText fields
        <*> Shape.withDefault "configuration" Shape.object [] fields
        <*> Shape.withDefault "name" (Shape.optional Shape.text) none fields
        <*> Shape.withDefault "created_by" Shape.text "" fields) body
  | .listRoutines =>
    Call.listRoutines <$> ofQuery query "status" (Shape.optional RoutineStatus.decode) none
  | .routine id => .good (.routine id)
  | .setStatus id =>
    ofBody (fun fields =>
      Call.setStatus id <$> Shape.required "status" RoutineStatus.decode fields) body
  | .setDefinition id =>
    ofBody (fun fields =>
      Call.setDefinition id <$> Shape.required "definition" Definition.decode fields
        <*> Shape.withDefault "created_by" Shape.text "" fields) body
  | .rollback id =>
    ofBody (fun fields =>
      Call.rollback id <$> Shape.required "version" (Shape.integerFrom 1) fields
        <*> Shape.withDefault "created_by" Shape.text "" fields) body
  | .versions id => .good (.versions id)
  | .audit id =>
    (fun limit offset => Call.audit id { limit, offset })
      <$> ofQuery query "limit" (Shape.integerBetween 1 1000) 100
      <*> ofQuery query "offset" (Shape.integerFrom 0) 0
  | .start =>
    ofBody (fun fields =>
      Call.start <$> Shape.required "routine_id" Shape.text fields
        <*> Shape.withDefault "variables" Shape.object [] fields) body
  | .conversation id => .good (.conversation id)
  | .resume id =>
    ofBody (fun fields =>
      (fun content choice => Call.resume id { content, choice })
        <$> Shape.withDefault "content" Shape.text "" fields
        <*> Shape.withDefault "choice_id" (Shape.optional Shape.text) none fields) body

end Call

end Workflow.Http
