import Workflow.Handler.Builtin
import Workflow.Http.Address
import Workflow.Json.Received
import Workflow.Settings

/-!
# Channels

Messages leave through a channel. The simulated channel keeps them; the webhook channel posts each
one as a document to an address and takes the id of the message from the response. Either gives back
a receipt of the same form. Whoever posts is known by the key of the webhook, or by the user that
the address names.
-/

namespace Workflow

/-- The channel an engine uses. -/
inductive ChannelKind where
  | simulated
  | webhook
  deriving DecidableEq, Repr

namespace ChannelKind

/-- The name of a channel. -/
def name : ChannelKind → String
  | .simulated => "simulated"
  | .webhook => "webhook"

/-- The channel settings ask for: a webhook when there is an address for it. -/
def ofSettings (settings : Settings) : ChannelKind :=
  if settings.webhookUrl = "" then .simulated else .webhook

end ChannelKind

/-- A webhook and the key sent with each message. -/
structure Webhook where
  url : String
  apiKey : String := ""
  deriving DecidableEq, Repr

/-- A message as it is posted. -/
structure Posting where
  method : String
  address : Http.Address
  authorization : Option String
  contentType : String
  body : Value
  deriving DecidableEq, Repr

/-- A posted message as a value. -/
def Posting.encode (posting : Posting) : Value :=
  .object [("method", .text posting.method), ("url", .text posting.address.text),
    ("authorization", Value.ofText? posting.authorization),
    ("content_type", .text posting.contentType), ("body", posting.body)]

/-- What comes back for a posted message. -/
inductive PostReply where
  | answered (status : Int) (body : String)
  | unreachable (reason : String)
  deriving DecidableEq, Repr

namespace Webhook

/-- A webhook at an address. -/
def make (url apiKey : String) : Except Fault Webhook :=
  if url = "" then .error .noDeliveryAddress else .ok { url, apiKey }

/-- How whoever posts to an address is made known. -/
def authorization (webhook : Webhook) (address : Http.Address) : Option String :=
  match address.credentials? with
  | some (name, password) => some ("Basic " ++ Text.base64 (name ++ ":" ++ password))
  | none => if webhook.apiKey = "" then none else some ("Bearer " ++ webhook.apiKey)

/-- What is posted for a message. The address has to be one, and the key is sent as it is. -/
def posting (webhook : Webhook) (mail : Mail) : Except Fault Posting :=
  match Http.Address.ofText? webhook.url with
  | none => .error .badAddress
  | some address =>
    if webhook.apiKey.toList.any (0x80 ≤ ·.toNat) then .error .unsendableText
    else
      let address := Http.Address.on {} address
      .ok { method := "POST", address, contentType := "application/json"
            authorization := webhook.authorization address, body := mail.encode }

/-- The id a response gives to the message; empty when it gives none. -/
def messageId (body : String) : Except Fault String :=
  match Json.readReceived body with
  | .ok (.object fields) =>
    .ok ((Fields.read fields "message_id").orElse
      ((Fields.read fields "id").orElse (.text ""))).display
  | .error (.beyond .tooDeep) => .error .tooDeep
  | _ => .ok ""

/-- The receipt for a message, given what came back for it. Nothing can come back from an address
that does not say where to go. A message without an id in the response gets the fresh one. -/
def receipt (fresh : String) (mail : Mail) (posting : Posting) :
    PostReply → Except Fault Receipt
  | .unreachable reason => .error (.handler (.unreachableDelivery reason))
  | .answered status body =>
    if !posting.address.isWhole then .error (.aimlessAddress posting.address.text)
    else if 200 ≤ status ∧ status < 300 then do
      let id ← messageId body
      .ok { message := if id = "" then fresh else id, provider := ChannelKind.webhook.name }
    else .error (.handler (.refusedDelivery status mail.recipient))

end Webhook

end Workflow
