import Workflow.Fault

/-!
# The registry of handlers

Steps are carried out by handlers, which are found by key. A handler is one of those this library
brings along or one of another kind, given by the user of the library.
-/

namespace Workflow

/-- The handlers this library brings along. -/
inductive Builtin where
  | sendMessage
  | sendEmail
  | sendWelcome
  | notifyChannel
  | createFolder
  | addTag
  | setStage
  deriving DecidableEq, Repr

namespace Builtin

/-- The key of a handler. -/
def key : Builtin → String
  | .sendMessage => "send_message"
  | .sendEmail => "send_email"
  | .sendWelcome => "send_welcome"
  | .notifyChannel => "notify_channel"
  | .createFolder => "create_folder"
  | .addTag => "add_tag"
  | .setStage => "set_stage"

/-- What a handler does. -/
def description : Builtin → String
  | .sendMessage => "Send a plain message to a contact."
  | .sendEmail => "Send an email with subject and body."
  | .sendWelcome => "Send the welcome email to a new client."
  | .notifyChannel => "Post a notification to a team channel."
  | .createFolder => "Create a shared folder for the client."
  | .addTag => "Tag the contact that triggered the routine."
  | .setStage => "Move the contact to a pipeline stage."

/-- Every handler. -/
def all : List Builtin :=
  [.sendMessage, .sendEmail, .sendWelcome, .notifyChannel, .createFolder, .addTag, .setStage]

/-- The handler delivers a message. -/
def delivers : Builtin → Bool
  | .sendMessage | .sendEmail | .sendWelcome | .notifyChannel => true
  | .createFolder | .addTag | .setStage => false

end Builtin

/-- A handler. Those that do not come with the library are of type `X`. -/
inductive Handler (X : Type) where
  | builtin (handler : Builtin)
  | custom (handler : X)
  deriving Repr

/-- A handler with its description. -/
structure Registered (X : Type) where
  description : String := ""
  handler : Handler X
  deriving Repr

/-- Handlers by key. -/
abbrev Registry (X : Type) := Dict (Registered X)

namespace Registry

variable {X : Type}

/-- The handlers this library brings along. -/
def standard : Registry X :=
  Builtin.all.map fun b => (b.key, { description := b.description, handler := .builtin b })

/-- Put a handler under a key, in the place of an earlier one. Without a handler there is nothing to
put there. -/
def register (registry : Registry X) (key : String) (handler : Option (Handler X))
    (description : String) : Except Fault (Registry X) :=
  if key = "" then .error .namelessHandler
  else
    match handler with
    | none => .error (.misuse (.notHandler key))
    | some handler => .ok (Dict.set registry key { description, handler })

/-- A handler is registered under the key. A list or an object cannot be looked up. -/
def contains (registry : Registry X) (key : Value) : Except Fault Bool :=
  match key with
  | .text s => .ok (Dict.has registry s)
  | .list _ | .object _ => .error (.misuse (.unusableName key.kindName))
  | _ => .ok false

/-- The handler under a key. -/
def find (registry : Registry X) (key : Value) : Except Fault (Handler X) :=
  let unregistered : Except Fault (Handler X) :=
    .error (.naming key (.handler (.unregistered key)))
  if !key.truthy then unregistered
  else
    match key with
    | .text s =>
      match Dict.get? registry s with
      | some entry => .ok entry.handler
      | none => unregistered
    | .list _ | .object _ => .error (.misuse (.unusableName key.kindName))
    | _ => unregistered

/-- The keys in order, each with its description. -/
def listing (registry : Registry X) : List (String × String) :=
  (registry.map fun (key, entry) => (key, entry.description)).mergeSort fun a b => !(b.1 < a.1)

/-- Read a key with its description. -/
def decodeEntry : Decoder (String × String) :=
  Shape.record "HandlerDefinition" fun fields =>
    Prod.mk <$> Shape.required "key" Shape.text fields
      <*> Shape.withDefault "description" Shape.text "" fields

/-- A key with its description as a value. -/
def encodeEntry (entry : String × String) : Value :=
  .object [("key", .text entry.1), ("description", .text entry.2)]

end Registry

end Workflow
