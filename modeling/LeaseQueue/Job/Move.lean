import LeaseQueue.Job.Submission
import LeaseQueue.Stats

/-!
# Moves

Moves are the ways in which a stored job leaves its status.  A claim hands a job to a worker under a
lease; the four other moves are reports about it.  Each says which jobs it applies to, what it makes
of one, and what it adds to the statistics.
-/

namespace LeaseQueue

/-- What became of a request to move a job. -/
inductive Transition where
  | applied
  /-- The job was left as it was, being in this status. -/
  | skipped (status : Status)
  deriving DecidableEq

/-- A report about a job. -/
inductive Move where
  /-- It is done, with this result. -/
  | complete (result : Document)
  /-- It failed for good. -/
  | fail (failure : Failure)
  /-- This attempt failed; the next one is due at the given instant. -/
  | retry (next : Instant)
  /-- Nobody wants it any more. -/
  | cancel

namespace Job

/-- Takes the lease off a job. -/
def released (j : Job) : Job :=
  { j with worker := none, lockedAt := none, lockedUntil := none }

/-- A job in the hands of a worker, for the length of a lease. -/
def leased (j : Job) (worker : String) (lease : Span) (now : Instant) : Job :=
  { j with
    status := .processing
    worker := some worker
    lockedAt := some now
    lockedUntil := some (now.after lease)
    startedAt := some now
    updatedAt := now }

end Job

namespace Move

/-- Whether a move applies to a job. -/
def allowed : Move → Job → Bool
  | complete _, j => decide (j.status = .processing)
  | fail _, j => !j.status.isTerminal
  | retry _, j => decide (j.status = .processing) && decide (j.attempts < j.maxAttempts)
  | cancel, j => !j.status.isTerminal

/-- What a move makes of a job. -/
def apply (m : Move) (now : Instant) (j : Job) : Job :=
  match m with
  | complete result =>
    { j.released with
      status := .completed, result := some result, completedAt := some now, updatedAt := now }
  | fail failure =>
    { j.released with
      status := .failed
      errorMessage := some failure.message
      errorKind := some failure.kind
      completedAt := some now
      updatedAt := now }
  | retry next =>
    { j.released with
      status := .pending, attempts := j.attempts + 1, scheduledAt := next, updatedAt := now }
  | cancel => { j.released with status := .cancelled, updatedAt := now }

/-- What a move of a job adds to the statistics of its queue. A failure of a job that nobody was
processing took no time. -/
def delta? (m : Move) (now : Instant) (j : Job) : Option Stats.Delta :=
  match m with
  | complete _ => some (.ofCompletion (j.startedAt.map now.since))
  | fail _ =>
    some (.ofFailure (if j.status = .processing then j.startedAt.map now.since else none))
  | retry _ => none
  | cancel => none

end Move

end LeaseQueue
