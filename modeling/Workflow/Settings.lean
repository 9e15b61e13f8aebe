import Workflow.Fault
import Workflow.Text.Case
import Workflow.Value.Display

/-!
# Settings

An engine is set up by a list of settings, each with a value of its own when nothing is said. They
are read from the environment, where a setting has the name of its field in capitals after a fixed
front, and from explicit values, which win over the environment.
-/

namespace Workflow

/-- The settings of an engine. -/
structure Settings where
  appName : String := "routines"
  debug : Bool := false
  logLevel : String := "INFO"
  databaseUrl : String := "sqlite+aiosqlite:///./routines.db"
  /-- Where messages are delivered; nowhere when it is empty. -/
  webhookUrl : String := ""
  apiKey : String := ""
  timeoutSeconds : Binary64 := .ofInt 10
  resumePolicy : ResumePolicy := .block
  strictDefaultEdges : Bool := true
  maxGraphSteps : Int := 100
  /-- How many routines of one dispatch may run at the same time. It is shown and used for nothing
  else: routines that go side by side are not held back. -/
  dispatchConcurrency : Int := 8
  /-- How many checked graphs are kept. -/
  graphCacheSize : Int := 256
  /-- How many finished conversations are kept. -/
  finishedLimit : Int := 1000
  host : String := "0.0.0.0"
  port : Int := 8000
  deriving DecidableEq, Repr

namespace Settings

/-- Read settings. -/
def decode : Decoder Settings :=
  Shape.record "RoutinesConfig" fun fields =>
    Settings.mk <$> Shape.withDefault "app_name" Shape.text "routines" fields
      <*> Shape.withDefault "debug" Shape.boolean false fields
      <*> Shape.withDefault "log_level" Shape.text "INFO" fields
      <*> Shape.withDefault "database_url" Shape.text "sqlite+aiosqlite:///./routines.db" fields
      <*> Shape.withDefault "channel_webhook_url" Shape.text "" fields
      <*> Shape.withDefault "channel_api_key" Shape.text "" fields
      <*> Shape.withDefault "channel_timeout_seconds" Shape.real (.ofInt 10) fields
      <*> Shape.withDefault "resume_policy" ResumePolicy.decode .block fields
      <*> Shape.withDefault "strict_default_edges" Shape.boolean true fields
      <*> Shape.withDefault "max_graph_steps" Shape.integer 100 fields
      <*> Shape.withDefault "dispatch_concurrency" Shape.integer 8 fields
      <*> Shape.withDefault "graph_cache_size" Shape.integer 256 fields
      <*> Shape.withDefault "completed_conversation_limit" Shape.integer 1000 fields
      <*> Shape.withDefault "host" Shape.text "0.0.0.0" fields
      <*> Shape.withDefault "port" Shape.integer 8000 fields

/-- Settings by name. -/
def fields (settings : Settings) : Fields :=
  [("app_name", .text settings.appName), ("debug", .bool settings.debug),
    ("log_level", .text settings.logLevel), ("database_url", .text settings.databaseUrl),
    ("channel_webhook_url", .text settings.webhookUrl),
    ("channel_api_key", .text settings.apiKey),
    ("channel_timeout_seconds", .float settings.timeoutSeconds),
    ("resume_policy", .text settings.resumePolicy.name),
    ("strict_default_edges", .bool settings.strictDefaultEdges),
    ("max_graph_steps", .int settings.maxGraphSteps),
    ("dispatch_concurrency", .int settings.dispatchConcurrency),
    ("graph_cache_size", .int settings.graphCacheSize),
    ("completed_conversation_limit", .int settings.finishedLimit), ("host", .text settings.host),
    ("port", .int settings.port)]

/-- The names of the settings. -/
def names : List String := (fields {}).map (·.1)

/-- The name of a setting in the environment. -/
def environmentName (name : String) : String := "ROUTINES_" ++ name.map Char.toUpper

/-- What the environment says about the settings. Case does not matter in a name, and the last of
several entries for one setting counts. -/
def ofEnvironment (environment : List (String × String)) : Fields :=
  names.filterMap fun name =>
    let entries := environment.filter fun entry =>
      Text.lower entry.1 = Text.lower (environmentName name)
    entries.getLast?.map fun entry => (name, .text entry.2)

/-- What is said outright about the settings. Case does not matter in a name here either, and the
first of several entries for one setting counts, unless one of them has the very name. -/
def ofExplicit (explicit : Fields) : Fields :=
  names.filterMap fun name =>
    let entry := (explicit.find? fun entry => entry.1 = name).or
      (explicit.find? fun entry => Text.lower entry.1 = name)
    entry.map fun entry => (name, entry.2)

/-- The settings that an environment and explicit values give. -/
def ofSources (environment : List (String × String)) (explicit : Fields) :
    Except Fault Settings :=
  Fault.check "RoutinesConfig" decode
    (.object (Dict.merge (ofEnvironment environment) (ofExplicit explicit)))

/-- How many checked graphs are kept: at least one. -/
def cacheLimit (settings : Settings) : Nat := max 1 settings.graphCacheSize.toNat

/-- How many finished conversations are kept: at least one. -/
def finishedKept (settings : Settings) : Nat := max 1 settings.finishedLimit.toNat

end Settings

end Workflow
