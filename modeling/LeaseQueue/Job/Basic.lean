import LeaseQueue.Document.Decode
import LeaseQueue.Document.Writer
import LeaseQueue.Job.Failure

/-!
# Jobs

A job is what a queue stores about a piece of work.  It is plain data, so that every record that can
be decoded is one; `Job.WellFormed` says which of them a store holds.
-/

namespace LeaseQueue

/-- A piece of work with its history. -/
structure Job where
  id : Ident
  queue : String
  type : String
  payload : Document
  result : Option Document
  errorMessage : Option String
  errorKind : Option FailureKind
  priority : Int32
  status : Status
  /-- The number of attempts that were given up for a retry. -/
  attempts : UInt32
  maxAttempts : UInt32
  worker : Option String
  lockedAt : Option Instant
  lockedUntil : Option Instant
  scheduledAt : Instant
  createdAt : Instant
  startedAt : Option Instant
  completedAt : Option Instant
  updatedAt : Instant
  organization : Option Ident
  user : Option Ident
  timeoutSeconds : Option UInt32
  metadata : Document

namespace Job

/-! ### What a job is ready for -/

/-- Whether an attempt that fails now is the last one. -/
def isFinalAttempt (j : Job) : Bool := decide (j.maxAttempts.toNat ≤ j.attempts.toNat + 1)

/-- Whether the time for which a job is scheduled has come. -/
def isDue (j : Job) (now : Instant) : Bool := decide (j.scheduledAt ≤ now)

/-- Whether the worker that holds a job has let its lease run out. -/
def leaseExpired (j : Job) (now : Instant) : Bool :=
  decide (j.status = .processing) && j.lockedUntil.any fun limit => decide (limit < now)

/-- Whether a worker may take a job: it is due, and it is waiting or its lease has run out. -/
def isClaimable (j : Job) (now : Instant) : Bool :=
  j.isDue now && (decide (j.status = .pending) || j.leaseExpired now)

/-- The time from the last start of a finished job to its end. -/
def processingTime (j : Job) : Option Span := do
  let completed ← j.completedAt
  let started ← j.startedAt
  return completed.since started

/-- The payload as its handler receives it. -/
def payloadText (j : Job) : String := Document.text j.payload

/-! ### The shape of stored jobs -/

/-- What holds of every job in a store: the attempts stay within their limit, a lease is there
exactly while the job is processed, a result exactly when it is completed, an error exactly when
it failed, and it has an end exactly when it is completed or failed. -/
structure WellFormed (j : Job) : Prop where
  one_le_maxAttempts : 1 ≤ j.maxAttempts.toNat
  attempts_le : j.attempts.toNat ≤ j.maxAttempts.toNat
  worker_iff : j.worker.isSome ↔ j.status = .processing
  lockedAt_iff : j.lockedAt.isSome ↔ j.status = .processing
  lockedUntil_iff : j.lockedUntil.isSome ↔ j.status = .processing
  result_iff : j.result.isSome ↔ j.status = .completed
  errorMessage_iff : j.errorMessage.isSome ↔ j.status = .failed
  errorKind_iff : j.errorKind.isSome ↔ j.status = .failed
  completedAt_iff : j.completedAt.isSome ↔ j.status = .completed ∨ j.status = .failed
  startedAt_isSome :
    j.status = .processing ∨ j.status = .completed ∨ 0 < j.attempts.toNat → j.startedAt.isSome

end Job

end LeaseQueue
