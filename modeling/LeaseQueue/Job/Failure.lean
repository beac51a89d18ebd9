import LeaseQueue.Job.Status

/-!
# Failures of jobs

The run of a handler ends in a success or in a failure of its job.  A failure has a kind and a
message, and some may go away when the job is tried again.
-/

namespace LeaseQueue

/-- Why a job failed, in a word and in a sentence. -/
structure Failure where
  kind : FailureKind
  message : String
  deriving DecidableEq

namespace Failure

/-- Nothing is registered for the type of the job. -/
def noHandler (type : String) : Failure :=
  ⟨.noHandler, "no handler registered for job type: " ++ type⟩

/-- The handler returned an error. -/
def handler (message : String) : Failure := ⟨.handler, message⟩

/-- The surroundings of the handler failed. -/
def infrastructure (message : String) : Failure := ⟨.infrastructure, message⟩

/-- Whether the job may be run again. -/
def isRetryable (f : Failure) : Bool := f.kind.isRetryable

end Failure

/-- How the run of a handler ended. -/
inductive Ending where
  /-- There was no handler for the type of the job. -/
  | unhandled (type : String)
  /-- It returned normally. -/
  | success
  /-- It returned an error. -/
  | error (message : String)
  /-- It panicked with a text. -/
  | panic (message : String)
  /-- It panicked with something that is no text; the task that ran it has a label. -/
  | panicOf (task : String)
  /-- The task that ran it was stopped from outside. -/
  | aborted (task : String)
  deriving DecidableEq

namespace Ending

/-- The failure an ending stands for; none for a success. -/
def failure? : Ending → Option Failure
  | .unhandled type => some (.noHandler type)
  | .success => none
  | .error message => some (.handler message)
  | .panic message => some ⟨.panic, message⟩
  | .panicOf task => some ⟨.panic, "task " ++ task ++ " panicked"⟩
  | .aborted task => some (.infrastructure ("task " ++ task ++ " was cancelled"))

end Ending

end LeaseQueue
