import LeaseQueue.Conformance.Trial
import LeaseQueue.Filter.Builder

/-!
# The conformance suite

The suite consists of trials that every backend should pass on an empty state.
-/

namespace LeaseQueue.Suite

open Trial

variable {σ : Type}

/-! ### Common steps -/

/-- The queue that trials use. -/
def queue : String := "default"

/-- The type of the jobs that trials use. -/
def type : String := "email.send"

/-- The lease under which trials claim. -/
def lease : Span := .ofSeconds 300

/-- How far two instants may be apart and still count as the same. -/
def tolerance : Span := .ofMillis 1

/-- An hour. -/
def hour : Span := .ofSeconds 3600

/-- A submission to start from. -/
def submission : Trial σ Submission := do
  let s := Submission.plain queue type (.object [("to", .string "a@b.com")]) (← now)
  return { s with maxAttempts := 5 }

/-- Puts a job in, whatever the answer. -/
def offer (b : Backend σ) (s : Submission) : Trial σ (Except Fault Ident) := do
  attempt (b.enqueue (← clock) (← freshIdent) s)

/-- Puts a job in. -/
def enqueue (b : Backend σ) (s : Submission) : Trial σ Ident := do
  ask (b.enqueue (← clock) (← freshIdent) s)

/-- Puts the job of the plain submission in. -/
def enqueuePlain (b : Backend σ) : Trial σ Ident := do enqueue b (← submission)

/-- Claims a job. -/
def claim (b : Backend σ) (worker : String) (queues : List String) (lease : Span) :
    Trial σ (Option Job) := do
  ask (b.claim (← clock) worker queues lease)

/-- Claims a job of the common queue under the common lease. -/
def claimNext (b : Backend σ) : Trial σ (Option Job) := claim b "worker-1" [queue] lease

/-- Claims a job that has to be there. -/
def takeNext (b : Backend σ) : Trial σ Job := do need (← claimNext b)

/-- Moves a job, whatever the answer. -/
def tryMove (b : Backend σ) (id : Ident) (m : Move) : Trial σ (Except Fault Transition) := do
  attempt (b.move (← clock) id m)

/-- Moves a job. -/
def move (b : Backend σ) (id : Ident) (m : Move) : Trial σ Transition := do
  ask (b.move (← clock) id m)

/-- Looks up a job that has to be there. -/
def get (b : Backend σ) (id : Ident) : Trial σ Job := do need (← ask (b.get id))

/-- Claims jobs until none is left, and lists them. The fuel bounds their number; a backend that
hands out more fails. -/
def drain (b : Backend σ) : (fuel : Nat) → Trial σ (List Ident)
  | 0 => failure
  | fuel + 1 => do
    match ← claimNext b with
    | none => return []
    | some job => return job.id :: (← drain b fuel)

/-- How many jobs a trial claims at most. -/
def patience : Nat := 1000

/-- Whether two lists have the same members. -/
def sameMembers (a b : List Ident) : Bool := a.all b.contains && b.all a.contains

/-- Whether two instants count as the same. -/
def close (a b : Instant) : Bool :=
  decide (a.since b ≤ tolerance) && decide (b.since a ≤ tolerance)

/-- Whether a call was refused for an unknown job. -/
def isNotFound (answer : Except Fault Transition) : Bool :=
  match answer with
  | .error (.error (.jobNotFound _)) => true
  | _ => false

/-- The reason for which a submission was refused as invalid. -/
def invalidity? (answer : Except Fault Ident) : Option Invalid :=
  match answer with
  | .error (.error (.invalid reason)) => some reason
  | _ => none

/-- An empty result. -/
def nothing : Move := .complete []

/-- An error of a handler. -/
def error (message : String) : Move := .fail (.handler message)

/-! ### Putting jobs in -/

/-- A job that was put in is pending and has its own identifier. -/
def enqueueTrial (b : Backend σ) : Trial σ Unit := do
  let before ← now
  let id1 ← enqueuePlain b
  let id2 ← enqueuePlain b
  check (id1 ≠ id2)
  let job ← get b id1
  check (job.id = id1)
  check (job.status = .pending)
  check (job.attempts = 0)
  check (job.maxAttempts = 5)
  check job.worker.isNone
  check job.lockedUntil.isNone
  check job.startedAt.isNone
  check (job.createdAt ≥ (← later before ⟨-tolerance.nanos⟩))

/-- Invalid submissions are refused and leave nothing behind. -/
def rejectTrial (b : Backend σ) : Trial σ Unit := do
  let numbers := Value.array [.ofInt 1, .ofInt 2, .ofInt 3]
  let answer ← offer b { ← submission with payload := numbers }
  check (match invalidity? answer with | some (.malformedPayload _) => true | _ => false)
  let answer ← offer b { ← submission with queue := "" }
  check (invalidity? answer = some .missingQueue)
  let answer ← offer b { ← submission with maxAttempts := 0 }
  check (invalidity? answer = some .noAttempts)
  check (← ask (b.select Filter.everything)).isEmpty

/-- Everything that a submission says is stored. -/
def allFieldsTrial (b : Backend σ) : Trial σ Unit := do
  let organization ← freshIdent
  let user ← freshIdent
  let scheduledAt ← later (← now) hour
  let payload : Document :=
    [("to", .string "a@b.com"), ("cc", .array [.string "c@d.com"]),
     ("retries", .object [("count", .ofInt 2)])]
  let metadata : Document := [("source", .string "signup")]
  let id ← enqueue b
    { ← submission with
      payload := .object payload
      metadata := .object metadata
      organization := some organization
      user := some user
      timeoutSeconds := some 30
      queue := "critical"
      type := "user.welcome"
      priority := 9
      scheduledAt := scheduledAt }
  let job ← get b id
  check (job.queue = "critical")
  check (job.type = "user.welcome")
  check (job.priority = 9)
  check (Document.same job.payload payload)
  check (Document.same job.metadata metadata)
  check (job.organization = some organization)
  check (job.user = some user)
  check (job.timeoutSeconds = some 30)
  check (close job.scheduledAt scheduledAt)

/-! ### Claiming -/

/-- There is nothing to claim in an empty queue. -/
def emptyTrial (b : Backend σ) : Trial σ Unit := do
  check (← claimNext b).isNone

/-- A claim takes jobs of the wanted queues only. -/
def queuesTrial (b : Backend σ) : Trial σ Unit := do
  let _ ← enqueue b { ← submission with queue := "low" }
  let id ← enqueue b { ← submission with queue := "critical" }
  check (← claimNext b).isNone
  let job ← need (← claim b "worker-1" ["critical"] lease)
  check (job.id = id)

/-- Jobs are claimed by priority, then in the order in which they are due. -/
def orderTrial (b : Backend σ) : Trial σ Unit := do
  let time ← now
  let id1 ← enqueue b { ← submission with scheduledAt := ← later time (.ofSeconds (-10)) }
  let id2 ← enqueue b
    { ← submission with priority := 5, scheduledAt := ← later time (.ofSeconds (-1)) }
  let id3 ← enqueue b { ← submission with scheduledAt := ← later time (.ofSeconds (-20)) }
  check ((← drain b patience) = [id2, id3, id1])

/-- A job that is not due is not claimed. -/
def futureTrial (b : Backend σ) : Trial σ Unit := do
  let _ ← enqueue b { ← submission with scheduledAt := ← later (← now) hour }
  check (← claimNext b).isNone

/-- A claim leases the job to its worker. -/
def leaseTrial (b : Backend σ) : Trial σ Unit := do
  let id ← enqueuePlain b
  let before ← now
  let job ← need (← claim b "worker-7" [queue] (.ofSeconds 120))
  check (job.id = id)
  check (job.status = .processing)
  check (job.worker = some "worker-7")
  check (job.attempts = 0)
  let lockedAt ← need job.lockedAt
  check (lockedAt ≥ (← later before (.ofSeconds (-1))))
  check (close (← need job.lockedUntil) (← later lockedAt (.ofSeconds 120)))
  check job.startedAt.isSome
  check ((← get b id).status = .processing)

/-- A job whose lease has run out goes to the next worker. -/
def expiredTrial (b : Backend σ) : Trial σ Unit := do
  let id ← enqueuePlain b
  let _ ← need (← claim b "worker-1" [queue] (.ofMillis 1))
  sleep (.ofMillis 20)
  let job ← need (← claim b "worker-2" [queue] lease)
  check (job.id = id)
  check (job.worker = some "worker-2")
  check (job.attempts = 0)

/-- A job whose lease holds stays with its worker. -/
def activeTrial (b : Backend σ) : Trial σ Unit := do
  let _ ← enqueuePlain b
  let _ ← takeNext b
  check (← claim b "worker-2" [queue] lease).isNone

/-- Every job is claimed once, whoever claims. -/
def exclusiveTrial (b : Backend σ) : Trial σ Unit := do
  let enqueued ← (List.range 5).mapM fun _ => enqueuePlain b
  let claims ← (List.range 10).mapM fun i => claim b ("worker-" ++ toString i) [queue] lease
  let claimed := (claims.filterMap id).map Job.id ++ (← drain b patience)
  check (claimed.length = 5)
  check (sameMembers claimed enqueued)

/-! ### Moving -/

/-- A completed job has a result and no lease. -/
def completeTrial (b : Backend σ) : Trial σ Unit := do
  let id ← enqueuePlain b
  let _ ← takeNext b
  let result : Document := [("duration_ms", .ofInt 12)]
  check ((← move b id (.complete result)) = .applied)
  let job ← get b id
  check (job.status = .completed)
  check (job.result.any fun r => Document.same r result)
  check job.completedAt.isSome
  check job.worker.isNone
  check job.lockedUntil.isNone

/-- A cancelled job is not completed any more. -/
def completeCancelledTrial (b : Backend σ) : Trial σ Unit := do
  let id ← enqueuePlain b
  let _ ← takeNext b
  let _ ← move b id .cancel
  check ((← move b id nothing) = .skipped .cancelled)
  let job ← get b id
  check (job.status = .cancelled)
  check job.result.isNone

/-- A move of an unknown job is refused. -/
def notFoundTrial (b : Backend σ) (m : Move) : Trial σ Unit := do
  check (isNotFound (← tryMove b (← freshIdent) m))

/-- A failed job has an error and no lease. -/
def failTrial (b : Backend σ) : Trial σ Unit := do
  let id ← enqueuePlain b
  let _ ← takeNext b
  check ((← move b id (error "smtp unavailable")) = .applied)
  let job ← get b id
  check (job.status = .failed)
  check (job.errorMessage = some "smtp unavailable")
  check (job.errorKind = some .handler)
  check job.completedAt.isSome
  check job.worker.isNone

/-- A job can fail before it was ever claimed. -/
def failPendingTrial (b : Backend σ) : Trial σ Unit := do
  let id ← enqueuePlain b
  check ((← move b id (.fail (.noHandler type))) = .applied)
  let job ← get b id
  check (job.status = .failed)
  check (job.errorKind = some .noHandler)

/-- A job that is tried again waits for its next attempt. -/
def retryTrial (b : Backend σ) : Trial σ Unit := do
  let id ← enqueuePlain b
  let _ ← takeNext b
  let next ← later (← now) (.ofSeconds 300)
  check ((← move b id (.retry next)) = .applied)
  let job ← get b id
  check (job.status = .pending)
  check (job.attempts = 1)
  check (close job.scheduledAt next)
  check job.worker.isNone
  check job.lockedUntil.isNone
  check (← claimNext b).isNone

/-- A job is not tried again when its attempts are used up. -/
def exhaustedTrial (b : Backend σ) : Trial σ Unit := do
  let id ← enqueue b { ← submission with maxAttempts := 1 }
  let _ ← takeNext b
  check ((← move b id (.retry (← now))) = .applied)
  let _ ← takeNext b
  check ((← move b id (.retry (← now))) = .skipped .processing)
  check ((← get b id).attempts = 1)

/-- A cancelled job is not claimed. -/
def cancelTrial (b : Backend σ) : Trial σ Unit := do
  let id ← enqueuePlain b
  check ((← move b id .cancel) = .applied)
  check ((← get b id).status = .cancelled)
  check (← claimNext b).isNone

/-- A job can be cancelled while it is processed. -/
def cancelProcessingTrial (b : Backend σ) : Trial σ Unit := do
  let id ← enqueuePlain b
  let _ ← takeNext b
  check ((← move b id .cancel) = .applied)
  let job ← get b id
  check (job.status = .cancelled)
  check job.worker.isNone

/-- A completed job is not cancelled any more. -/
def cancelCompletedTrial (b : Backend σ) : Trial σ Unit := do
  let id ← enqueuePlain b
  let _ ← takeNext b
  let _ ← move b id nothing
  check ((← move b id .cancel) = .skipped .completed)
  check ((← get b id).status = .completed)

/-! ### Looking on -/

/-- The statistics count every job once. -/
def statsTrial (b : Backend σ) : Trial σ Unit := do
  let today := (← now).date
  let id1 ← enqueuePlain b
  let id2 ← enqueuePlain b
  let id3 ← enqueuePlain b
  let _ ← enqueue b { ← submission with queue := "other" }
  let _ ← takeNext b
  let _ ← takeNext b
  let _ ← takeNext b
  let _ ← move b id1 nothing
  let _ ← move b id2 nothing
  let _ ← move b id3 (error "error")
  let _ ← move b id1 nothing
  let stats ← ask (b.stats queue today)
  check (stats.queue = queue)
  check (stats.date = today)
  check (stats.enqueued = 3)
  check (stats.completed = 2)
  check (stats.failed = 1)
  check (stats.totalMillis ≥ 0)
  check (!stats.averageMillis.isBelowZero)
  let stats ← ask (b.stats "unused" today)
  check (stats.queue = "unused")
  check (stats.date = today)
  check (stats.enqueued = 0)
  check (stats.completed = 0)
  check (stats.failed = 0)
  check (stats.totalMillis = 0)
  check stats.averageMillis.isZero

/-- A query finds exactly the jobs that meet its condition. -/
def queryTrial (b : Backend σ) : Trial σ Unit := do
  let organization ← freshIdent
  let id1 ← enqueue b { ← submission with organization := some organization }
  let id2 ← enqueue b { ← submission with type := "report.build" }
  let id3 ← enqueue b { ← submission with queue := "low" }
  let _ ← move b id2 .cancel
  let finds : Filter → List Ident → Trial σ Unit := fun f ids => do
    check (sameMembers ((← ask (b.select f)).map Job.id) ids)
  finds Filter.everything [id1, id2, id3]
  finds (.is (.queue queue)) [id1, id2]
  finds (.both (.is (.status .pending)) (.not (.is (.queue "low")))) [id1]
  finds (.is (.organization organization)) [id1]
  finds (.either (.is (.type "report.build")) (.is (.id id3))) [id2, id3]
  let time ← later (← now) hour
  check (← ask (b.select (.is (.scheduledAfter time)))).isEmpty

/-! ### The suite -/

/-- The trials by name. -/
def trials (b : Backend σ) : List (String × Trial σ Unit) :=
  [("enqueue", enqueueTrial b),
   ("enqueue_rejects_invalid_jobs", rejectTrial b),
   ("enqueue_stores_all_fields", allFieldsTrial b),
   ("claim_empty", emptyTrial b),
   ("claim_only_requested_queues", queuesTrial b),
   ("claim_by_priority_then_schedule", orderTrial b),
   ("claim_skips_future_jobs", futureTrial b),
   ("claim_leases_job", leaseTrial b),
   ("claim_reclaims_expired_lease", expiredTrial b),
   ("claim_keeps_active_lease", activeTrial b),
   ("claim_is_exclusive", exclusiveTrial b),
   ("mark_job_complete", completeTrial b),
   ("mark_job_complete_after_cancel", completeCancelledTrial b),
   ("mark_job_complete_not_found", notFoundTrial b nothing),
   ("mark_job_failed", failTrial b),
   ("mark_job_failed_from_pending", failPendingTrial b),
   ("mark_job_failed_not_found", notFoundTrial b (error "error")),
   ("mark_job_retryable", retryTrial b),
   ("mark_job_retryable_exhausted", exhaustedTrial b),
   ("mark_job_retryable_not_found", do notFoundTrial b (.retry (← now))),
   ("mark_job_cancelled", cancelTrial b),
   ("mark_job_cancelled_processing", cancelProcessingTrial b),
   ("mark_job_cancelled_completed", cancelCompletedTrial b),
   ("mark_job_cancelled_not_found", notFoundTrial b .cancel),
   ("queue_stats", statsTrial b),
   ("query", queryTrial b)]

/-- The trial of a name. -/
def trial? (b : Backend σ) (name : String) : Option (Trial σ Unit) :=
  ((trials b).find? fun t => t.1 = name).map Prod.snd

end LeaseQueue.Suite
