import Workflow.Execution.Result
import Workflow.Handler.Registry
import Workflow.Operation
import Workflow.Text.Blank
import Workflow.Text.Search

/-!
# Built-in handlers

These handlers deliver messages or say what would be done elsewhere. A part of the configuration
that a handler needs must be there and hold no open placeholder. Messages go out through the channel
that is passed in, so a routine behaves the same whatever channel is used.
-/

namespace Workflow

/-- A message on its way out. -/
structure Mail where
  recipient : String
  subject : String
  body : String
  deriving DecidableEq, Repr

/-- A message as a value. -/
def Mail.encode (mail : Mail) : Value :=
  .object [("to", .text mail.recipient), ("subject", .text mail.subject), ("body", .text mail.body)]

/-- What a channel gives back for a message. -/
structure Receipt where
  message : String
  provider : String
  deriving DecidableEq, Repr

namespace Receipt

/-- Read a receipt. -/
def decode : Decoder Receipt :=
  Shape.record "ChannelReceipt" fun fields =>
    Receipt.mk <$> Shape.required "message_id" Shape.text fields
      <*> Shape.required "provider_name" Shape.text fields

/-- The parts of a receipt. -/
def fields (receipt : Receipt) : Fields :=
  [("message_id", .text receipt.message), ("provider_name", .text receipt.provider)]

end Receipt

namespace Builtin

/-- The text still holds something like a placeholder. -/
def isOpen (s : String) : Bool := Text.contains s "\x7b\x7b" && Text.contains s "\x7d\x7d"

/-- A part of the configuration that the handler needs, without blanks around it. -/
def needed (b : Builtin) (config : Fields) (setting : String) : Except Fault String := do
  let text := Text.trim (← ((Fields.read config setting).orElse (.text "")).wording)
  if text = "" then .error (.handler (.missingSetting setting b.key))
  else if isOpen text then .error (.handler (.unresolvedSetting setting text b.key))
  else .ok text

/-- A part of the configuration that has something to fall back on. -/
def optional (config : Fields) (setting fallback : String) : Except Fault String :=
  ((Fields.read config setting).orElse (.text fallback)).wording

/-- Whom to send to: the configuration says so, or else the payload says who sent it. -/
def recipient (b : Builtin) (context : Context) (config : Fields) : Except Fault String :=
  if (Fields.read config "to").truthy then b.needed config "to"
  else
    let sender := (Fields.read context.payload "from").orElse (Fields.read context.payload "email")
    if sender.truthy then sender.wording else .error (.handler (.noRecipient b.key))

/-- The part of an address before the at sign. -/
def localPart (address : String) : String :=
  String.ofList (address.toList.takeWhile (· != '@'))

/-- The welcome for a name. -/
def welcome (name : String) : String :=
  "Hi " ++ name ++ ", welcome! We are glad to have you with us."

/-- The words of a welcome: those of the configuration, or else the welcome for the client. -/
def welcomeBody (context : Context) (config : Fields) (recipient : String) :
    Except Fault String := do
  if (Fields.read config "body").truthy then (Fields.read config "body").wording
  else
    let client := (Fields.read context.payload "clientName").orElse (.text (localPart recipient))
    .ok (welcome (← client.wording))

/-- A folder inside another. -/
def folderPath (parent name : String) : String :=
  let parent := String.ofList (parent.toList.reverse.dropWhile (· == '/')).reverse
  if parent = "" then name else parent ++ "/" ++ name

/-- What a handler does: it may send a message, and then it tells what it did. -/
structure Plan where
  mail : Option Mail := none
  narrative : String
  output : Fields
  deriving DecidableEq, Repr

/-- The plan of a handler. All that can go wrong before a message is sent goes wrong here. -/
def plan (b : Builtin) (context : Context) (config : Fields) : Except Fault Plan := do
  match b with
  | .sendMessage =>
    let to_ ← b.recipient context config
    let body ← b.needed config "message"
    let subject ← optional config "subject" ""
    .ok { mail := some ⟨to_, subject, body⟩,
          narrative := "Sent message to " ++ to_ ++ ".", output := [("to", .text to_)] }
  | .sendEmail =>
    let to_ ← b.recipient context config
    let subject ← b.needed config "subject"
    let body ← optional config "body" ""
    .ok { mail := some ⟨to_, subject, body⟩,
          narrative := "Sent email \"" ++ subject ++ "\" to " ++ to_ ++ ".",
          output := [("to", .text to_), ("subject", .text subject)] }
  | .sendWelcome =>
    let to_ ← b.recipient context config
    let subject ← optional config "subject" "Welcome aboard"
    let body ← welcomeBody context config to_
    .ok { mail := some ⟨to_, subject, body⟩,
          narrative := "Sent welcome email to " ++ to_ ++ ".",
          output := [("to", .text to_), ("subject", .text subject)] }
  | .notifyChannel =>
    let channel ← b.needed config "channel"
    let message ← b.needed config "message"
    let subject ← optional config "subject" "Notification"
    .ok { mail := some ⟨channel, subject, message⟩,
          narrative := "Notified " ++ channel ++ ": " ++ message,
          output := [("channel", .text channel)] }
  | .createFolder =>
    let name ← b.needed config "folder_name"
    let path := folderPath (← optional config "parent" "") name
    .ok { narrative := "Created folder \"" ++ name ++ "\" at " ++ path ++ ".",
          output := [("folder_name", .text name), ("folder_path", .text path)] }
  | .addTag =>
    let tag ← b.needed config "tag_name"
    .ok { narrative := "Tag added: " ++ tag ++ ".", output := [("tag", .text tag)] }
  | .setStage =>
    let stage ← b.needed config "stage"
    .ok { narrative := "Stage changed to: " ++ stage ++ ".", output := [("stage", .text stage)] }

/-- Carry out a handler, with a way to send messages. -/
def run {σ : Type} (send : Mail → Operation σ Receipt) (b : Builtin) (context : Context)
    (config : Fields) : Operation σ Answer := do
  let plan ← Operation.ofExcept (b.plan context config)
  match plan.mail with
  | some mail =>
    let receipt ← send mail
    pure { narrative := plan.narrative, output := some (receipt.fields ++ plan.output) }
  | none => pure { narrative := plan.narrative, output := some plan.output }

end Builtin

end Workflow
