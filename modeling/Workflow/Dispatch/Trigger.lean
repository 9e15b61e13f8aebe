import Workflow.Graph.Step
import Workflow.Text.Case
import Workflow.Text.Search
import Workflow.Value.Display

/-!
# When a trigger fires

An event has a key and a payload. A trigger fires for events with its own key. A trigger with a
keyword asks besides that the message of the payload holds the keyword, or is the keyword when the
match has to be exact. Case and the blanks around a message do not matter.
-/

namespace Workflow

/-- The key of the events that inbound messages are. -/
def messageKey : String := "message_received"

namespace Step

/-- The keyword of a trigger, folded; empty when it has none. -/
def keyword (trigger : Step) : String :=
  Text.folded ((trigger.setting "keyword").orElse (.text "")).display

/-- The trigger asks for the keyword itself and not only for a message that holds it. -/
def wantsExactly (trigger : Step) : Bool := trigger.setting "match_type" = .text "exact"

/-- A message is one the trigger asks for. -/
def accepts (trigger : Step) (message : String) : Bool :=
  let message := Text.folded message
  if trigger.wantsExactly then message = trigger.keyword
  else Text.contains message trigger.keyword

/-- The trigger is asked about an event with its own key and has a keyword that cannot be turned into
text. -/
def wordless (trigger : Step) (key : Option String) : Bool :=
  trigger.key = key && !((trigger.setting "keyword").orElse (.text "")).writable

/-- The trigger fires for an event, if it is not wordless. One without a key fires for events without
one. -/
def fires (trigger : Step) (key : Option String) (payload : Fields) : Bool :=
  trigger.key = key &&
    (trigger.keyword = "" ||
      match Fields.read payload "message" with
      | .text message => trigger.accepts message
      | _ => false)

end Step

end Workflow
