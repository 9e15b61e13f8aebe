import Workflow.Template

/-!
# Bundled templates

Three templates come with the library: one that works in the background and two that talk.
-/

namespace Workflow.Template

/-- The configuration of a step that says something. -/
def saying (message : String) : Fields :=
  [("action_type", .text "send_message"), ("message", .text message)]

/-- Welcome a new client and set up the client's folder. -/
def clientOnboarding : Template :=
  { id := "", key := "client_onboarding", name := "Client Onboarding"
    description := "Welcome a newly signed client and set up their shared folder."
    category := "operations", tags := ["onboarding", "email"]
    definition :=
      { steps :=
          [ { id := "trigger", type := "trigger", key := some "new_client_signed"
              label := "New client signed" },
            { id := "welcome", type := "action", key := some "send_welcome"
              label := "Send Welcome"
              config :=
                [("to", .text "\x7b\x7bclientEmail\x7d\x7d"),
                  ("subject", .text "Welcome to \x7b\x7bcompanyName\x7d\x7d"),
                  ("body", .text
                    "Hi \x7b\x7bclientName\x7d\x7d, we are glad to have you on board.")] },
            { id := "folder", type := "action", key := some "create_folder"
              label := "Create Folder"
              config :=
                [("folder_name", .text "\x7b\x7bclientName\x7d\x7d"),
                   ("parent", .text "/clients")] },
            { id := "notify", type := "action", key := some "notify_channel", label := "Notify Team"
              config :=
                [("channel", .text "#onboarding"),
                  ("message", .text ("New client \x7b\x7bclientName\x7d\x7d " ++
                    "(\x7b\x7bclientEmail\x7d\x7d) is being onboarded."))] }]
        edges := [⟨"trigger", "welcome", none⟩, ⟨"welcome", "folder", none⟩,
          ⟨"folder", "notify", none⟩] } }

/-- Greet a new contact and lead on to one of two replies. -/
def welcomeChat : Template :=
  { id := "", key := "welcome_chat", name := "Welcome Chat"
    description := "Greets a new contact and routes them to sales or support."
    category := "conversations", tags := ["chat", "buttons"]
    definition :=
      { steps :=
          [ { id := "trigger", type := "trigger", key := some "conversation_started"
              label := "Conversation started" },
            { id := "greet", type := "action", label := "Greeting"
              config := saying
                "Hi \x7b\x7bcontactName\x7d\x7d! Welcome to \x7b\x7bcompanyName\x7d\x7d." },
            { id := "menu", type := "buttons", label := "Main menu"
              config :=
                [("body", .text "How can we help you today?"),
                  ("buttons", .list
                    [.object [("id", .text "sales"), ("title", .text "Pricing")],
                      .object [("id", .text "support"), ("title", .text "Support")]])] },
            { id := "sales_tag", type := "tag", label := "Tag lead"
              config := [("tag_name", .text "interested-in-pricing")] },
            { id := "sales_stage", type := "stage", label := "Move to qualified"
              config := [("stage", .text "qualified")] },
            { id := "sales_reply", type := "action", label := "Pricing reply"
              config := saying "A sales specialist will reach out shortly." },
            { id := "support_reply", type := "action", label := "Support reply"
              config := saying "Please describe your issue and we will get back to you." }]
        edges := [⟨"trigger", "greet", none⟩, ⟨"greet", "menu", none⟩,
          ⟨"menu", "sales_tag", some "sales"⟩, ⟨"menu", "support_reply", some "support"⟩,
          ⟨"sales_tag", "sales_stage", none⟩, ⟨"sales_stage", "sales_reply", none⟩] } }

/-- Ask for an address, check it and confirm. -/
def leadCapture : Template :=
  { id := "", key := "lead_capture", name := "Lead Capture"
    description := "Asks for an email address, validates it and confirms."
    category := "conversations", tags := ["chat", "forms"]
    definition :=
      { steps :=
          [ { id := "trigger", type := "trigger", key := some "message_received"
              label := "Inbound message"
              config := [("keyword", .text "newsletter"), ("match_type", .text "contains")] },
            { id := "ask", type := "action", label := "Ask for email"
              config := saying "Great! What email should we use?" },
            { id := "capture", type := "wait_input", label := "Capture email"
              config :=
                [("timeout", .text "24h"), ("store_as", .text "email"),
                  ("validation", .object [("type", .text "email")]),
                  ("error_message", .text
                    "That does not look like an email address, please try again.")] },
            { id := "confirm", type := "action", label := "Confirm"
              config := saying "Thanks, we will send the newsletter to \x7b\x7bemail\x7d\x7d." },
            { id := "tag", type := "tag", label := "Tag subscriber"
              config := [("tag_name", .text "newsletter")] }]
        edges := [⟨"trigger", "ask", none⟩, ⟨"ask", "capture", none⟩,
          ⟨"capture", "confirm", none⟩, ⟨"confirm", "tag", none⟩] } }

/-- The templates that come with the library. -/
def bundled : List Template := [clientOnboarding, welcomeChat, leadCapture]

end Workflow.Template
