import LeaseQueue.Text.Quoted

/-!
# The status of a job

The status of a job and the kinds of failure have names.  Status moves from pending through
processing to one of three terminal statuses; a retry moves it back to pending.
-/

namespace LeaseQueue

/-- Where a job is in its life. -/
inductive Status where
  | pending
  | processing
  | completed
  | failed
  | cancelled
  deriving DecidableEq

namespace Status

/-- All statuses. -/
def all : List Status := [.pending, .processing, .completed, .failed, .cancelled]

/-- The name of a status. -/
def name : Status → String
  | .pending => "pending"
  | .processing => "processing"
  | .completed => "completed"
  | .failed => "failed"
  | .cancelled => "cancelled"

/-- The status of a name. -/
def ofName? (s : String) : Option Status := all.find? fun status => status.name = s

/-- Whether a job of this status is finished for good. -/
def isTerminal : Status → Bool
  | .completed | .failed | .cancelled => true
  | .pending | .processing => false

theorem ofName?_name (status : Status) : ofName? status.name = some status := by
  cases status <;> decide

end Status

/-- Why a job failed. -/
inductive FailureKind where
  | validation
  | noHandler
  | handler
  | panic
  | infrastructure
  deriving DecidableEq

namespace FailureKind

/-- All kinds. -/
def all : List FailureKind := [.validation, .noHandler, .handler, .panic, .infrastructure]

/-- The name of a kind. -/
def name : FailureKind → String
  | .validation => "validation"
  | .noHandler => "no_handler"
  | .handler => "handler"
  | .panic => "panic"
  | .infrastructure => "infrastructure"

/-- The kind of a name. -/
def ofName? (s : String) : Option FailureKind := all.find? fun kind => kind.name = s

/-- Whether running the job again may help: only what its handler did can come out
differently. -/
def isRetryable : FailureKind → Bool
  | .handler | .panic => true
  | .validation | .noHandler | .infrastructure => false

theorem ofName?_name (kind : FailureKind) : ofName? kind.name = some kind := by
  cases kind <;> decide

end FailureKind

/-- A name that stands for nothing of the wanted sort. -/
structure UnknownName where
  /-- What the name should have been the name of. -/
  sort : String
  name : String
  deriving DecidableEq

/-- The message about an unknown name. -/
def UnknownName.message (e : UnknownName) : String :=
  "unknown " ++ e.sort ++ ": " ++ Quoted.quote e.name

/-- Reads the name of a status. -/
def Status.parse (s : String) : Except UnknownName Status :=
  match Status.ofName? s with
  | some status => .ok status
  | none => .error ⟨"job status", s⟩

/-- Reads the name of a kind of failure. -/
def FailureKind.parse (s : String) : Except UnknownName FailureKind :=
  match FailureKind.ofName? s with
  | some kind => .ok kind
  | none => .error ⟨"failure kind", s⟩

end LeaseQueue
