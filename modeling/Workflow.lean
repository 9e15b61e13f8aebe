import Workflow.Activity
import Workflow.Audit.Trail
import Workflow.Catalog.Bundled
import Workflow.Catalog.Document
import Workflow.Channel
import Workflow.CommandLine.Arguments
import Workflow.CommandLine.Authoring
import Workflow.CommandLine.Command
import Workflow.CommandLine.Program
import Workflow.CommandLine.Report
import Workflow.CommandLine.Running
import Workflow.Conversation.Basic
import Workflow.Conversation.Table
import Workflow.Conversation.Turn
import Workflow.Conversation.Variables
import Workflow.Dict
import Workflow.Dispatch.Trigger
import Workflow.Engine.Basic
import Workflow.Engine.Catalog
import Workflow.Engine.Conversations
import Workflow.Engine.Dispatch
import Workflow.Engine.Lifecycle
import Workflow.Execution.Context
import Workflow.Execution.Result
import Workflow.Fault
import Workflow.Graph.Basic
import Workflow.Graph.Cache
import Workflow.Graph.Check
import Workflow.Graph.Cycle
import Workflow.Graph.Step
import Workflow.Graph.Violation
import Workflow.Handler.Builtin
import Workflow.Handler.Executor
import Workflow.Handler.Registry
import Workflow.Http.Address
import Workflow.Http.Domain.Composition
import Workflow.Http.Domain.Direction
import Workflow.Http.Domain.Joining
import Workflow.Http.Domain.Label
import Workflow.Http.Domain.Letter
import Workflow.Http.Domain.Mark
import Workflow.Http.Domain.Punycode
import Workflow.Http.Endpoint
import Workflow.Http.Host
import Workflow.Http.Message
import Workflow.Http.Percent
import Workflow.Http.Service
import Workflow.Identifier
import Workflow.Json.Reader
import Workflow.Json.Received
import Workflow.Json.Writer
import Workflow.Main
import Workflow.Moment
import Workflow.Notice
import Workflow.Number.Binary64
import Workflow.Number.Display
import Workflow.Number.Reading
import Workflow.Number.Shortest
import Workflow.Operation
import Workflow.Pattern.Basic
import Workflow.Pattern.Flaw
import Workflow.Pattern.Letter
import Workflow.Pattern.Matcher
import Workflow.Pattern.Part
import Workflow.Pattern.Query
import Workflow.Pattern.Reader
import Workflow.Placeholder
import Workflow.Proofs.Accord
import Workflow.Proofs.Activity
import Workflow.Proofs.Audit
import Workflow.Proofs.Beside
import Workflow.Proofs.Blind
import Workflow.Proofs.Catalog
import Workflow.Proofs.Conversation.Account
import Workflow.Proofs.Conversation.Belonging
import Workflow.Proofs.Conversation.Episode
import Workflow.Proofs.Conversation.Offered
import Workflow.Proofs.Conversation.Past
import Workflow.Proofs.Conversation.Path
import Workflow.Proofs.Conversation.Picked
import Workflow.Proofs.Conversation.Progress
import Workflow.Proofs.Conversation.Ruled
import Workflow.Proofs.Conversation.Run
import Workflow.Proofs.Conversation.Stuck
import Workflow.Proofs.Conversation.Talk
import Workflow.Proofs.Conversation.Timely
import Workflow.Proofs.Conversation.Trail
import Workflow.Proofs.Conversation.Walk
import Workflow.Proofs.Conversation.Written
import Workflow.Proofs.Dispatch.Abiding
import Workflow.Proofs.Dispatch.Accounted
import Workflow.Proofs.Dispatch.Archived
import Workflow.Proofs.Dispatch.AtHand
import Workflow.Proofs.Dispatch.Audited
import Workflow.Proofs.Dispatch.Chain
import Workflow.Proofs.Dispatch.Company
import Workflow.Proofs.Dispatch.Discreet
import Workflow.Proofs.Dispatch.Errand
import Workflow.Proofs.Dispatch.First
import Workflow.Proofs.Dispatch.Independent
import Workflow.Proofs.Dispatch.Matching
import Workflow.Proofs.Dispatch.Memory
import Workflow.Proofs.Dispatch.Pursuit
import Workflow.Proofs.Dispatch.Rebuilt
import Workflow.Proofs.Dispatch.Serving
import Workflow.Proofs.Dispatch.Steady
import Workflow.Proofs.Dispatch.Tally
import Workflow.Proofs.Dispatch.Transparent
import Workflow.Proofs.Engine
import Workflow.Proofs.Entry
import Workflow.Proofs.Graph.Cycle
import Workflow.Proofs.Graph.Reach
import Workflow.Proofs.Graph.Route
import Workflow.Proofs.Graph.WellFormed
import Workflow.Proofs.Handler.Barrier
import Workflow.Proofs.Handler.Delivery
import Workflow.Proofs.Handler.Parity
import Workflow.Proofs.Http.Apart
import Workflow.Proofs.Http.AtHand
import Workflow.Proofs.Http.Scoped
import Workflow.Proofs.Identifier
import Workflow.Proofs.Lifecycle.Accepted
import Workflow.Proofs.Lifecycle.Call
import Workflow.Proofs.Lifecycle.Change
import Workflow.Proofs.Lifecycle.Chronicle
import Workflow.Proofs.Lifecycle.History
import Workflow.Proofs.Lifecycle.Log
import Workflow.Proofs.Lifecycle.Published
import Workflow.Proofs.Operation
import Workflow.Proofs.Placeholder.Filled
import Workflow.Proofs.Placeholder.Split
import Workflow.Proofs.Placeholder.Staged
import Workflow.Proofs.Refused
import Workflow.Proofs.Scope.Lookup
import Workflow.Proofs.Scope.Share
import Workflow.Proofs.Scope.Stance
import Workflow.Proofs.Scope.Turnover
import Workflow.Proofs.Session.Kept
import Workflow.Proofs.Session.Order
import Workflow.Proofs.Session.Pinned
import Workflow.Proofs.Session.View
import Workflow.Proofs.Store.Holding
import Workflow.Proofs.Store.Interchange
import Workflow.Proofs.Store.Row
import Workflow.Proofs.Termination
import Workflow.Reply.Basic
import Workflow.Reply.Choice
import Workflow.Reply.Validation
import Workflow.Routine
import Workflow.Settings
import Workflow.Shape
import Workflow.Shape.Checked
import Workflow.Shape.Issue
import Workflow.Shape.Scalar
import Workflow.Status
import Workflow.Store.Basic
import Workflow.Store.Keyed
import Workflow.Store.Memory
import Workflow.Store.Relational
import Workflow.Template
import Workflow.Terminal.Cell
import Workflow.Terminal.Color
import Workflow.Terminal.Emoji
import Workflow.Terminal.Emoji.Name
import Workflow.Terminal.Literal
import Workflow.Terminal.Markup
import Workflow.Terminal.Style
import Workflow.Terminal.Table
import Workflow.Terminal.Wrap
import Workflow.Text.Blank
import Workflow.Text.Bytes
import Workflow.Text.Case
import Workflow.Text.CharacterName
import Workflow.Text.CharacterName.Ancient
import Workflow.Text.CharacterName.Asian
import Workflow.Text.CharacterName.European
import Workflow.Text.CharacterName.Picture
import Workflow.Text.CharacterName.Presentation
import Workflow.Text.CharacterName.Score
import Workflow.Text.CharacterName.Syllable
import Workflow.Text.CharacterName.Symbol
import Workflow.Text.CodeRange
import Workflow.Text.Digit
import Workflow.Text.Name
import Workflow.Text.Printable
import Workflow.Text.Quoted
import Workflow.Text.Search
import Workflow.Text.Word
import Workflow.Value.Basic
import Workflow.Value.Display
import Workflow.Proofs.Graph.Caught
import Workflow.Proofs.Conversation.Address
import Workflow.Proofs.Document
import Workflow.Proofs.Graph.Order
