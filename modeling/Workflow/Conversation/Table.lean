import Workflow.Conversation.Basic
import Workflow.Store.Keyed

/-!
# The table of conversations

Conversations that were started are found by the id of their run. Those that are completed stay for
a while: when a further one is completed and the table holds as many completed ones as it may, the
one that was completed first goes. Conversations that still wait are never dropped.
-/

namespace Workflow

/-- The conversations at hand, in the order in which they were started. -/
structure ConversationTable where
  /-- How many completed conversations are kept. -/
  limit : Nat
  conversations : List Conversation := []
  /-- The ids of the completed conversations that are kept, in the order of their completion. -/
  finished : List String := []

namespace ConversationTable

/-- The conversation with an id. -/
def find? (table : ConversationTable) (id : String) : Option Conversation :=
  Keyed.find? Conversation.id id table.conversations

/-- Put a conversation in the place of the one with its id, or at the end. -/
def put (table : ConversationTable) (c : Conversation) : ConversationTable :=
  { table with conversations := Keyed.put Conversation.id c table.conversations }

/-- Drop a conversation. -/
def erase (table : ConversationTable) (id : String) : ConversationTable :=
  { table with conversations := table.conversations.filter fun c => c.id ≠ id }

/-- Make room for one more completed conversation. -/
def makeRoom (table : ConversationTable) : ConversationTable :=
  match table.finished with
  | oldest :: rest =>
    if table.limit ≤ table.finished.length then { table.erase oldest with finished := rest }
    else table
  | [] => table

/-- Take in a conversation as it stands after a request. -/
def track (table : ConversationTable) (c : Conversation) : ConversationTable :=
  let table := table.put c
  if c.state = .completed ∧ c.id ∉ table.finished then
    let table := table.makeRoom
    { table with finished := table.finished ++ [c.id] }
  else table

end ConversationTable

end Workflow
