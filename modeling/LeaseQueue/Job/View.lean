import LeaseQueue.Job.Basic

/-!
# Views of jobs

A view is what callers outside the queue see of a job.  The lease, the timeout and the metadata are
left out.
-/

namespace LeaseQueue

/-- The outside view of a job. -/
structure JobView where
  id : Ident
  queue : String
  type : String
  status : Status
  payload : Document
  result : Option Document
  errorMessage : Option String
  errorKind : Option FailureKind
  attempts : UInt32
  maxAttempts : UInt32
  priority : Int32
  organization : Option Ident
  user : Option Ident
  scheduledAt : Instant
  createdAt : Instant
  startedAt : Option Instant
  completedAt : Option Instant
  updatedAt : Instant

/-- The view of a job. -/
def Job.view (j : Job) : JobView where
  id := j.id
  queue := j.queue
  type := j.type
  status := j.status
  payload := j.payload
  result := j.result
  errorMessage := j.errorMessage
  errorKind := j.errorKind
  attempts := j.attempts
  maxAttempts := j.maxAttempts
  priority := j.priority
  organization := j.organization
  user := j.user
  scheduledAt := j.scheduledAt
  createdAt := j.createdAt
  startedAt := j.startedAt
  completedAt := j.completedAt
  updatedAt := j.updatedAt

end LeaseQueue
