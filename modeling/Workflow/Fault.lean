import Workflow.Graph.Violation
import Workflow.Pattern.Flaw
import Workflow.Shape
import Workflow.Status
import Workflow.Value.Display

/-!
# Faults

An operation that cannot be carried out ends with its cause. Causes that belong to the domain, such
as a routine that is not active, are told apart from values of the wrong kind inside a free-form
configuration, which are only found when the part is used. The text of each fault is given once, in
its `message`; `wording` asks for it and may meet with another fault.
-/

namespace Workflow

/-- A value of the wrong kind, found where it is used. Kinds are given by name. -/
inductive Misuse where
  /-- Fields are asked of something that has none. -/
  | noFields (kind : String)
  /-- Items are asked of something that has none. -/
  | noItems (kind : String)
  /-- Fields are copied from something that has none. -/
  | notFields (kind : String)
  /-- A list or an object stands where a name is looked up. -/
  | unusableName (kind : String)
  /-- A list or an object stands where a count is read. -/
  | notCount (kind : String)
  /-- Something other than a text is checked against a rule for texts. -/
  | notContent (kind : String)
  /-- An infinite number stands where a count is read. -/
  | infiniteCount
  /-- A handler answers with something that is no answer. -/
  | notAnswer (kind : String)
  /-- Something that cannot be run is registered as a handler. -/
  | notHandler (key : String)
  /-- Moments with and without an offset are compared. -/
  | mixedMoments
  deriving DecidableEq, Repr

/-- Why a handler gave up. Most causes name the handler. -/
inductive HandlerFault where
  /-- Nothing is registered under the key. -/
  | unregistered (key : Value)
  /-- A part of the configuration is missing. -/
  | missingSetting (setting handler : String)
  /-- A part of the configuration still holds a placeholder. -/
  | unresolvedSetting (setting text handler : String)
  /-- Nobody to send to. -/
  | noRecipient (handler : String)
  /-- The delivery service turned the message down. -/
  | refusedDelivery (status : Int) (recipient : String)
  /-- The delivery service could not be reached. -/
  | unreachableDelivery (reason : String)
  /-- The handler's own words. -/
  | reported (text : String)
  /-- The handler's own fault, which has no words: who asks for them meets another fault. -/
  | speechless (raised : HandlerFault)
  deriving DecidableEq, Repr

/-- Which way an integer with too many digits was to go. -/
inductive Oversize where
  /-- It was to be read from a text of so many digits. -/
  | read (digits : Nat)
  /-- It was to be turned into text. -/
  | written
  deriving DecidableEq, Repr

/-- How a document is written. -/
inductive DocumentFormat where
  | json
  | yaml
  deriving DecidableEq, Repr

/-- Why an operation was not carried out. -/
inductive Fault where
  /-- The definition is not a graph. -/
  | invalidGraph (violations : List Violation)
  /-- The graph has no such step. -/
  | unknownStep (id : String)
  /-- A handler gave up. -/
  | handler (cause : HandlerFault)
  /-- No edge fits the choice. -/
  | noPath (step : String) (choice : Value)
  /-- The answer is held back while the routine is not active. -/
  | heldInput (routine name : String) (status : RoutineStatus)
  /-- A conversation may start only on an active routine. -/
  | refusedStart (routine name : String) (status : RoutineStatus)
  /-- The run has already started. -/
  | alreadyStarted (run : String) (state : RunState)
  /-- The run is not waiting for an answer. -/
  | notSuspended (run : String) (state : RunState)
  | noRoutine (id : String)
  | noTemplate (key : String)
  | noVersion (routine : String) (version : Int)
  /-- The routine is archived and so never changes. -/
  | archived (routine : String)
  /-- The routine may not go from the one status to the other. -/
  | forbiddenMove (routine : String) (source target : RoutineStatus)
  /-- A template with the key has been published before. -/
  | alreadyPublished (key : String)
  | noConversation (id : String)
  /-- A value does not have the shape it is read with. -/
  | malformed (subject : String) (input : Value) (issues : List Issue)
  | misuse (cause : Misuse)
  /-- A text stands where a number is read. -/
  | unreadableNumber (text : String)
  /-- An integer with too many digits. -/
  | oversizeNumber (size : Oversize)
  /-- Parts of a text stand too deep in one another to be read. -/
  | tooDeep
  /-- The undefined number stands where a count is read. -/
  | undefinedCount
  | unknownStatus (name : String)
  /-- The pattern of a rule cannot be read. -/
  | badPattern (flaw : Pattern.Flaw)
  /-- A handler is registered without a key. -/
  | namelessHandler
  /-- Messages are to be delivered to no address. -/
  | noDeliveryAddress
  /-- What stands for an address is none. -/
  | badAddress
  /-- An address does not say where to go. -/
  | aimlessAddress (address : String)
  /-- A text that is sent along has other than plain characters. -/
  | unsendableText
  /-- An infinite or undefined number stands in an answer. -/
  | unwritableNumber
  /-- The version of the routine is already recorded. -/
  | snapshotTaken (routine : String) (version : Int)
  /-- A row with the same key is already stored. -/
  | duplicateRow
  /-- The store does not take the entry. -/
  | failedWrite (reason : String)
  /-- The allowance for one run was used up. -/
  | exhausted
  /-- A document cannot be read. -/
  | unreadableDocument (format : DocumentFormat)
  /-- A folder stands where a document is read. -/
  | folder (path : String)
  /-- A tag of a printed line closes nothing. -/
  | strayTag (content : String)
  /-- What a tag hands to an action is no literal. -/
  | badParameters (parameters : String)
  /-- A number that does not fit the columns of a table. -/
  | oversizeColumn (n : Int)
  deriving DecidableEq, Repr

namespace Misuse

/-- The text of a misuse. -/
def message : Misuse → String
  | .noFields kind => "'" ++ kind ++ "' object has no attribute 'get'"
  | .noItems kind => "'" ++ kind ++ "' object is not iterable"
  | .notFields kind => "'" ++ kind ++ "' object is not a mapping"
  | .unusableName kind => "unhashable type: '" ++ kind ++ "'"
  | .notCount kind =>
    "int() argument must be a string, a bytes-like object or a real number, not '" ++ kind ++ "'"
  | .notContent kind => "expected string or bytes-like object, got '" ++ kind ++ "'"
  | .infiniteCount => "cannot convert float infinity to integer"
  | .notAnswer kind => "Handler returned " ++ kind ++ "; expected HandlerOutput, dict or str"
  | .notHandler key => "Handler for '" ++ key ++ "' is not callable"
  | .mixedMoments => "can't compare offset-naive and offset-aware datetimes"

end Misuse

namespace HandlerFault

/-- The text of a handler's fault. -/
def message : HandlerFault → String
  | .unregistered key => "No handler registered for action '" ++ key.display ++ "'"
  | .missingSetting setting _ => "'" ++ setting ++ "' is required"
  | .unresolvedSetting setting text _ => "'" ++ setting ++ "' could not be resolved: " ++ text
  | .noRecipient _ => "No recipient: set 'to' on the step or send 'from' in the payload"
  | .refusedDelivery status recipient =>
    "Channel webhook returned HTTP " ++ integerText status ++ " for " ++ recipient
  | .unreachableDelivery reason => "Channel webhook unreachable: " ++ reason
  | .reported text => text
  | .speechless _ => ""

/-- The key of the handler that gave up, where it is known. -/
def handlerKey : HandlerFault → Value
  | .unregistered key => key.orElse (.text "")
  | .missingSetting _ handler | .unresolvedSetting _ _ handler | .noRecipient handler =>
    .text handler
  | .refusedDelivery _ _ | .unreachableDelivery _ | .reported _ | .speechless _ => .text ""

end HandlerFault

namespace Oversize

/-- The text about an integer with too many digits. -/
def message : Oversize → String
  | .read digits =>
    "Exceeds the limit (4300 digits) for integer string conversion: value has " ++
      countText digits ++ " digits; use sys.set_int_max_str_digits() to increase the limit"
  | .written =>
    "Exceeds the limit (4300 digits) for integer string conversion; " ++
      "use sys.set_int_max_str_digits() to increase the limit"

end Oversize

namespace Fault

/-- What is said first about an invalid graph. -/
def invalidGraphSummary : String := "Routine graph is invalid"

/-- The text of a fault. -/
def message : Fault → String
  | .invalidGraph violations =>
    invalidGraphSummary ++ ": " ++ "; ".intercalate (violations.map Violation.message)
  | .unknownStep id => "Step '" ++ id ++ "' is not part of this graph."
  | .handler cause => cause.message
  | .noPath step choice =>
    "No path from step '" ++ step ++ "' for choice '" ++ choice.display ++ "'"
  | .heldInput _ name status =>
    "Routine '" ++ name ++ "' is " ++ status.name ++ "; input was not delivered."
  | .refusedStart _ name status =>
    "Routine '" ++ name ++ "' is " ++ status.name ++
      "; conversations start only on active routines."
  | .alreadyStarted run state => "Run " ++ run ++ " already started (state: " ++ state.name ++ ")"
  | .notSuspended run state => "Cannot resume run " ++ run ++ ": state is " ++ state.name
  | .noRoutine id => "Routine '" ++ id ++ "' not found."
  | .noTemplate key => "Template '" ++ key ++ "' not found."
  | .noVersion routine version =>
    "Version " ++ integerText version ++ " not found for routine '" ++ routine ++ "'."
  | .archived routine => "Routine '" ++ routine ++ "' is archived and can no longer change."
  | .forbiddenMove routine source target =>
    "Routine '" ++ routine ++ "' cannot move from " ++ source.name ++ " to " ++ target.name ++ "."
  | .alreadyPublished key => "Template '" ++ key ++ "' is already published."
  | .noConversation id => Text.quoted id
  | .malformed subject input issues => Issue.reportAll subject input issues
  | .misuse cause => cause.message
  | .unreadableNumber text =>
    "invalid literal for int() with base 10: " ++
      String.ofList ((Text.quoted text).toList.take 200)
  | .oversizeNumber size => size.message
  | .tooDeep => "maximum recursion depth exceeded"
  | .undefinedCount => "cannot convert float NaN to integer"
  | .unknownStatus name => Text.quoted name ++ " is not a valid RoutineStatus"
  | .badPattern .clashingScripts => "ASCII and UNICODE flags are incompatible"
  | .badPattern _ => "bad pattern"
  | .namelessHandler => "action_key must be a non-empty string"
  | .noDeliveryAddress => "WebhookChannelProvider requires a url"
  | .badAddress => "The address cannot be read."
  | .aimlessAddress address => "unknown url type: " ++ Text.quoted address
  | .unsendableText => "The text cannot be sent."
  | .unwritableNumber => "Out of range float values are not JSON compliant"
  | .snapshotTaken routine version =>
    "Snapshot " ++ integerText version ++ " already exists for routine '" ++ routine ++ "'."
  | .duplicateRow => "UNIQUE constraint failed"
  | .failedWrite reason => reason
  | .exhausted => "allowance used up"
  | .unreadableDocument _ => "The document cannot be read."
  | .folder path => "Is a directory: " ++ Text.quoted path
  | .strayTag content => "closing tag '[" ++ content ++ "]' doesn't match any open tag"
  | .badParameters parameters => "error parsing " ++ Text.quoted parameters
  | .oversizeColumn _ => "integer too large for a column"

/-- The fault is a refusal of the domain: what was asked for is understood and not done. The others
come from values of the wrong kind and from the outside. -/
def isRefusal : Fault → Bool
  | .invalidGraph _ | .unknownStep _ | .handler _ | .noPath _ _ | .heldInput _ _ _
  | .refusedStart _ _ _ | .alreadyStarted _ _ | .notSuspended _ _ | .noRoutine _ | .noTemplate _
  | .noVersion _ _ | .archived _ | .forbiddenMove _ _ _ | .alreadyPublished _ => true
  | _ => false

/-- What is said about a fault. Of a fault without words it is another one that comes up. -/
def wording : Fault → Except Fault String
  | .handler (.speechless raised) => .error (.handler raised)
  | fault => .ok fault.message

/-- The fault whose words name a value. A value that has no text lets it come to no such fault. -/
def naming (named : Value) (fault : Fault) : Fault :=
  if named.writable then fault else .oversizeNumber .written

/-- The status with a name, which must be one. -/
def statusNamed (name : String) : Except Fault RoutineStatus :=
  match RoutineStatus.ofName? name with
  | some status => .ok status
  | none => .error (.unknownStatus name)

/-- Read an input as something, which is a fault when the input does not have its shape. -/
def check {α : Type} (subject : String) (decode : Decoder α) (input : Value) : Except Fault α :=
  match decode input with
  | .good a => .ok a
  | .bad issues => .error (.malformed subject input issues)

end Fault

/-- The text of a value, if it has one. -/
def Value.wording (v : Value) : Except Fault String :=
  if v.writable then .ok v.display else .error (.oversizeNumber .written)

theorem Value.wording_of_writable {v : Value} (h : v.writable = true) : v.wording = .ok v.display :=
  if_pos h

theorem Value.wording_of_not_writable {v : Value} (h : v.writable = false) :
    v.wording = .error (.oversizeNumber .written) := by
  rw [wording, h, if_neg Bool.false_ne_true]

theorem Value.wording_eq_ok_iff {v : Value} {text : String} :
    v.wording = .ok text ↔ v.writable = true ∧ v.display = text := by
  cases hwritable : v.writable with
  | true => simp [wording_of_writable hwritable]
  | false => simp [wording_of_not_writable hwritable]

end Workflow
