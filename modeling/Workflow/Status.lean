import Workflow.Shape

/-!
# Statuses

A routine is active, paused or archived, and archived is final. A run and the outcome of a step have
statuses of their own. Each status has one name, which is what requests and answers carry.
-/

namespace Workflow

/-- Whether a routine runs. -/
inductive RoutineStatus where
  | active
  | paused
  | archived
  deriving DecidableEq, Repr

namespace RoutineStatus

/-- The name of a status. -/
def name : RoutineStatus → String
  | .active => "active"
  | .paused => "paused"
  | .archived => "archived"

/-- Every status. -/
def all : List RoutineStatus := [.active, .paused, .archived]

/-- The status with a name. -/
def ofName? (s : String) : Option RoutineStatus := all.find? fun status => status.name = s

/-- Read a status. -/
def decode : Decoder RoutineStatus := Shape.choice (all.map fun status => (status.name, status))

/-- A routine may move between active and paused and into archived, and never out of it. -/
def mayBecome : RoutineStatus → RoutineStatus → Bool
  | .active, .paused | .active, .archived | .paused, .active | .paused, .archived => true
  | _, _ => false

@[simp] theorem ofName?_name (status : RoutineStatus) : ofName? status.name = some status := by
  cases status <;> decide

@[simp] theorem mayBecome_archived (status : RoutineStatus) :
    mayBecome .archived status = false := by
  cases status <;> rfl

end RoutineStatus

/-- Where a conversation stands. -/
inductive RunState where
  | idle
  | running
  | suspended
  | completed
  deriving DecidableEq, Repr

/-- The name of a state. -/
def RunState.name : RunState → String
  | .idle => "idle"
  | .running => "running"
  | .suspended => "suspended"
  | .completed => "completed"

/-- How a step ended. -/
inductive ResultStatus where
  | running
  | completed
  | failed
  | suspended
  deriving DecidableEq, Repr

namespace ResultStatus

/-- The name of a status. -/
def name : ResultStatus → String
  | .running => "running"
  | .completed => "completed"
  | .failed => "failed"
  | .suspended => "suspended"

/-- Every status. -/
def all : List ResultStatus := [.running, .completed, .failed, .suspended]

/-- Read a status. -/
def decode : Decoder ResultStatus := Shape.choice (all.map fun status => (status.name, status))

end ResultStatus

/-- Who a message of a conversation comes from. -/
inductive Role where
  | system
  | assistant
  | user
  deriving DecidableEq, Repr

namespace Role

/-- The name of a role. -/
def name : Role → String
  | .system => "system"
  | .assistant => "assistant"
  | .user => "user"

/-- Every role. -/
def all : List Role := [.system, .assistant, .user]

/-- Read a role. -/
def decode : Decoder Role := Shape.choice (all.map fun role => (role.name, role))

end Role

/-- What happens to an answer for a routine that is not active: it is held back, or delivered all
the same. -/
inductive ResumePolicy where
  | block
  | allow
  deriving DecidableEq, Repr

namespace ResumePolicy

/-- The name of a policy. -/
def name : ResumePolicy → String
  | .block => "block"
  | .allow => "allow"

/-- Every policy. -/
def all : List ResumePolicy := [.block, .allow]

/-- Read a policy. -/
def decode : Decoder ResumePolicy := Shape.choice (all.map fun policy => (policy.name, policy))

end ResumePolicy

end Workflow
