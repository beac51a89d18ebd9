import LeaseQueue.Job.Basic

/-!
# Submissions

A submission is a job as a producer hands it in.  It is checked and becomes a pending job.
-/

namespace LeaseQueue

/-- Why a request is refused. -/
inductive Invalid where
  | missingQueue
  | missingType
  | malformedPayload (kind : String)
  | malformedMetadata (kind : String)
  | noAttempts
  | conflictingSchedule
  | negativeDelay
  | noWorkers
  deriving DecidableEq

/-- The reason in a sentence. -/
def Invalid.message : Invalid → String
  | .missingQueue => "queue name is required"
  | .missingType => "job type is required"
  | .malformedPayload kind => "payload must be a JSON object, got " ++ kind
  | .malformedMetadata kind => "metadata must be a JSON object, got " ++ kind
  | .noAttempts => "max attempts must be at least 1"
  | .conflictingSchedule => "delay and scheduled_at are mutually exclusive"
  | .negativeDelay => "delay must not be negative"
  | .noWorkers => "worker count must be at least 1"

/-- A job as it is handed in. The payload has to be an object; the metadata may also be null. -/
structure Submission where
  id : Option Ident
  queue : String
  type : String
  payload : Value
  metadata : Value
  priority : Int32
  maxAttempts : UInt32
  scheduledAt : Instant
  organization : Option Ident
  user : Option Ident
  timeoutSeconds : Option UInt32

namespace Submission

/-- The number of attempts of a submission that does not say otherwise. -/
def defaultMaxAttempts : UInt32 := 3

/-- A submission with nothing out of the ordinary, to be run from `now` on. -/
def plain (queue type : String) (payload : Value) (now : Instant) : Submission where
  id := none
  queue := queue
  type := type
  payload := payload
  metadata := .null
  priority := 0
  maxAttempts := defaultMaxAttempts
  scheduledAt := now
  organization := none
  user := none
  timeoutSeconds := none

/-- Whether a value can serve as metadata. -/
def isMetadata : Value → Bool
  | .object _ | .null => true
  | _ => false

/-- The first check that a submission fails, if any. -/
def validate (s : Submission) : Except Invalid Unit :=
  if isBlank s.queue then .error .missingQueue
  else if isBlank s.type then .error .missingType
  else if s.payload.asDocument?.isNone then .error (.malformedPayload s.payload.kind)
  else if !isMetadata s.metadata then .error (.malformedMetadata s.metadata.kind)
  else if s.maxAttempts = 0 then .error .noAttempts
  else .ok ()

/-- The pending job of a submission, without a look at its validity: a payload or metadata that
is no object counts as empty. -/
def pendingJob (s : Submission) (fresh : Ident) (now : Instant) : Job where
  id := s.id.getD fresh
  queue := s.queue
  type := s.type
  payload := s.payload.asDocument?.getD []
  result := none
  errorMessage := none
  errorKind := none
  priority := s.priority
  status := .pending
  attempts := 0
  maxAttempts := s.maxAttempts
  worker := none
  lockedAt := none
  lockedUntil := none
  scheduledAt := s.scheduledAt
  createdAt := now
  startedAt := none
  completedAt := none
  updatedAt := now
  organization := s.organization
  user := s.user
  timeoutSeconds := s.timeoutSeconds
  metadata := s.metadata.asDocument?.getD []

/-- The pending job of a valid submission; `fresh` becomes its identifier if it brings none. -/
def toJob (s : Submission) (fresh : Ident) (now : Instant) : Except Invalid Job := do
  s.validate
  return s.pendingJob fresh now

end Submission

end LeaseQueue
