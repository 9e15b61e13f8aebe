import Workflow.Http.Service

/-!
# Requests in a row

The things that a request makes get identifiers and moments from a number that goes on. In an
`Arrival` the number is given with the request, so the same request can make the same things at
another point of another sequence: the identifiers of two sequences are then the same, and need not
be renamed. `Service.visits` gives each request of a sequence the number at which the service stands
when the request comes.
-/

namespace Workflow.Http

/-- A request, with the number from which the things it makes are counted. -/
structure Arrival where
  number : Nat
  request : Request
  deriving DecidableEq, Repr

/-- The arrival is for the scope, or for no scope at all. -/
def Arrival.concerns (scope : String) (arrival : Arrival) : Bool :=
  arrival.request.scope?.all (· = scope)

namespace Service

variable {service : Service} {engine : Engine Empty} {request : Request} {settings : Settings}

/-- The service, which counts on from a number. -/
def countingFrom (service : Service) (n : Nat) : Service :=
  { service with engine := service.engine.map fun engine => { engine with made := n } }

/-- The answer to an arrival, and the service afterwards. -/
def meet (service : Service) (arrival : Arrival) : Except Fault Answer × Service :=
  (service.countingFrom arrival.number).respond arrival.request

/-- The service after arrivals. -/
def after (service : Service) (arrivals : List Arrival) : Service :=
  arrivals.foldl (fun service arrival => (service.meet arrival).2) service

/-- Arrivals, each with its answer. -/
def answers (service : Service) : List Arrival → List (Arrival × Except Fault Answer)
  | [] => []
  | arrival :: rest => (arrival, (service.meet arrival).1) :: (service.meet arrival).2.answers rest

/-- No number is given that was used before. -/
def CountsOn (service : Service) : List Arrival → Prop
  | [] => True
  | arrival :: rest => (∀ engine, service.engine = some engine → engine.made ≤ arrival.number) ∧
      (service.meet arrival).2.CountsOn rest

/-- The conversations at hand that are completed. -/
def finished (service : Service) : List String :=
  match service.engine with
  | none => []
  | some engine =>
    (engine.table.conversations.filter fun c => c.state = .completed).map Conversation.id

/-- The conversations that stand completed at some time during the arrivals. -/
def finishedDuring (service : Service) : List Arrival → List String
  | [] => service.finished
  | arrival :: rest => service.finished ++ (service.meet arrival).2.finishedDuring rest

/-- The answers to requests that come one after the other. -/
def respondEach (service : Service) : List Request → List (Except Fault Answer)
  | [] => []
  | request :: rest => (service.respond request).1 :: (service.respond request).2.respondEach rest

/-- Requests as they come one after the other. -/
def visits (service : Service) : List Request → List Arrival
  | [] => []
  | request :: rest =>
    let number := (service.engine.map Engine.made).getD 0
    ⟨number, request⟩ :: (service.respond request).2.visits rest

theorem countingFrom_made (service : Service) :
    service.countingFrom ((service.engine.map Engine.made).getD 0) = service := by
  rcases service with ⟨settings, _ | engine⟩ <;> rfl

/-- The requests of a row are answered one after the other. -/
theorem answers_visits (service : Service) (requests : List Request) :
    (service.answers (service.visits requests)).map (·.2) = service.respondEach requests := by
  induction requests generalizing service with
  | nil => rfl
  | cons request rest ih =>
      rw [visits, answers, List.map_cons, meet, countingFrom_made, ih, respondEach]

/-- The numbers at which a service stands go on. -/
theorem countsOn_visits (service : Service) (requests : List Request) :
    service.CountsOn (service.visits requests) := by
  induction requests generalizing service with
  | nil => trivial
  | cons request rest ih =>
      refine ⟨fun engine hengine => ?_, ?_⟩
      · rw [hengine]
        exact Nat.le_refl _
      · rw [meet, countingFrom_made]
        exact ih _

section Reaction

/-- What a client gets to hear of the end of a call. -/
def answerTo (call : Call) (outcome : Except Fault Call.Granted) : Except Fault Answer :=
  outcome.map fun
    | .ok body => ⟨call.status, body.finite⟩
    | .error refused => refused

theorem carryOut_eq (service : Service) (engine : Engine Empty) (scope : String) (call : Call) :
    service.carryOut engine scope call = (answerTo call ((call.run scope).perform engine).1,
      { service with engine := some ((call.run scope).perform engine).2 }) := rfl

/-- How a service with the settings reacts, whatever its engine is. -/
inductive Reacts (settings : Settings) (scope : Option String)
    (react : Service → Except Fault Answer × Service) : Prop
  /-- It gives an answer that does not depend on the engine. -/
  | stands (answer : Except Fault Answer)
      (same : ∀ engine, react ⟨settings, some engine⟩ = (answer, ⟨settings, some engine⟩))
  /-- It carries out a call in the scope, or asks for the catalogue when there is no scope. -/
  | carries (call : Call) (finish : Except Fault Call.Granted → Except Fault Answer)
      (common : scope = none → call = .templates)
      (same : ∀ engine, react ⟨settings, some engine⟩ =
        (finish ((call.run (scope.getD "")).perform engine).1,
          ⟨settings, some ((call.run (scope.getD "")).perform engine).2⟩))

theorem Reacts.mapped {scope : Option String} {react : Service → Except Fault Answer × Service}
    (h : Reacts settings scope react) (f : Except Fault Answer → Except Fault Answer) :
    Reacts settings scope fun service => (f (react service).1, (react service).2) := by
  cases h with
  | stands answer same => exact .stands (f answer) fun engine => by rw [same engine]
  | carries call finish common same =>
      exact .carries call (f ∘ finish) common fun engine => by rw [same engine]; rfl

/-- Without a scope the service reacts as it does in any scope. -/
theorem Reacts.of_all {given : Option String} {react : Service → Except Fault Answer × Service}
    (h : Reacts settings given react) {scope : String} (hall : given.all (· = scope)) :
    Reacts settings (some scope) react := by
  cases given with
  | none =>
      cases h with
      | stands answer same => exact .stands answer same
      | carries call finish common same =>
          obtain rfl := common rfl
          exact .carries .templates finish nofun same
  | some given =>
      obtain rfl : given = scope := by simpa using hall
      exact h

theorem read_of_not_needsScope {endpoint : Endpoint} (h : endpoint.needsScope = false)
    (query : List (String × String)) (body : Value) :
    Call.read query body endpoint = .good .templates := by
  cases endpoint with
  | page | health | templates => rfl
  | _ => cases h

theorem reacts_ask (endpoint : Endpoint) (request : Request) (query : List (String × String)) :
    Reacts settings request.scope? fun service => service.ask endpoint request query := by
  cases hbody : (if endpoint.takesBody then request.document else .ok .null) with
  | error refused => exact .stands (.ok refused) fun engine => by rw [ask, hbody]
  | ok body =>
      cases hscope : request.scope? with
      | none =>
          cases hneeds : endpoint.needsScope with
          | true =>
              exact .stands (.ok .noScope) fun engine => by simp only [ask, hbody, hscope, hneeds]
          | false =>
              refine .carries .templates (answerTo .templates) (fun _ => rfl) fun engine => ?_
              simp only [ask, hbody, hscope, hneeds, read_of_not_needsScope hneeds, carryOut_eq]
      | some scope =>
          cases hcall : Call.read query body endpoint with
          | bad issues =>
              exact .stands (turnAway body issues) fun engine => by
                simp only [ask, hbody, hscope, hcall]
          | good call =>
              refine .carries call (answerTo call) nofun fun engine => ?_
              simp only [ask, hbody, hscope, hcall, carryOut_eq]

theorem reacts_respond (settings : Settings) (request : Request) :
    Reacts settings request.scope? fun service => service.respond request := by
  unfold respond
  cases htarget : Target.ofText? request.target with
  | none => exact .stands (.error .badAddress) fun engine => rfl
  | some target =>
      cases hsendable : request.isSendable with
      | false => exact .stands (.error .unsendableText) fun engine => rfl
      | true =>
          have hreply : Reacts settings request.scope? fun service =>
              service.reply (request.method.map Char.toUpper) target request := by
            unfold reply
            cases hfind : Endpoint.find (request.method.map Char.toUpper) target.path with
            | error refused => exact .stands (.ok refused) fun engine => rfl
            | ok endpoint =>
                cases endpoint with
                | page => exact .stands (.ok .page) fun engine => rfl
                | health => exact .stands (.ok ⟨200, (launched settings).health⟩) fun engine => rfl
                | _ => exact reacts_ask _ request target.query
          exact hreply.mapped fun answer =>
            if request.method.map Char.toUpper = "HEAD" then answer.map fun a => { a with body := .null }
            else answer

end Reaction

end Service

end Workflow.Http
