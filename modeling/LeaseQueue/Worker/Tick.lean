import LeaseQueue.Backend.Basic
import LeaseQueue.Handler.Course
import LeaseQueue.Handler.Registry

/-!
# Ticks of a worker

In a tick a worker claims at most one job, lets its handler run, and reports how that ended with a
single move of the job.  Errors of the backend are dropped, so the worker comes back for the next
tick; only a call that breaks off takes the worker with it.
-/

namespace LeaseQueue

/-- What the workers of a queue go by. -/
structure Duty (η : Type) where
  queues : List String
  lease : Span
  /-- The time between two ticks in milliseconds. -/
  periodMillis : Nat
  /-- The delay before an attempt. -/
  backoff : UInt32 → Span
  registry : Registry η

namespace Worker

variable {σ η : Type}

/-! ### What a worker reports -/

/-- The result of a job whose handler took a number of milliseconds. -/
def result (millis : Nat) (now : Instant) : Document :=
  [("duration_ms", .ofInt (min 18446744073709551615 millis : Nat)),
   ("completed_at", .string now.offsetText)]

/-- The move that a worker makes when the handler of a job has come to its end: the job is
completed, or tried again after the delay for the next attempt, or, when that cannot help or was
the last attempt, failed. -/
def verdict (backoff : UInt32 → Span) (job : Job) (ending : Ending) (millis : Nat)
    (now : Instant) : Move :=
  match ending.failure? with
  | none => .complete (result millis now)
  | some failure =>
    if !failure.isRetryable || job.isFinalAttempt then .fail failure
    else .retry (now.after (backoff (job.attempts + 1)))

/-! ### The calls of a tick -/

/-- A call whose errors are dropped; it still may break off. -/
def dropping {α : Type} (call : Call σ α) : Action σ String (Option α) := fun s =>
  match call s with
  | (.ok a, s) => (.ok (some a), s)
  | (.error (.error _), s) => (.ok none, s)
  | (.error (.crash message), s) => (.error message, s)

/-- Claims a job. -/
def claim (b : Backend σ) (duty : Duty η) (worker : String) (now : Instant) :
    Action σ String (Option Job) := do
  return (← dropping (b.claim now worker duty.queues duty.lease)).join

/-- Reports the end of the handler of a job. -/
def report (b : Backend σ) (duty : Duty η) (job : Job) (ending : Ending) (millis : Nat)
    (now : Instant) : Action σ String Unit := do
  let _ ← dropping (b.move now job.id (verdict duty.backoff job ending millis now))

/-- How and when the run of a handler ended. -/
structure Finish where
  ending : Ending
  millis : Nat
  instant : Instant

/-- How the handling of a job ends, if its handler runs as told: at once when it has none. -/
def finish (duty : Duty η) (handle : η → Job → Finish) (job : Job) (now : Instant) : Finish :=
  match duty.registry.get? job.type with
  | some handler => handle handler job
  | none => ⟨.unhandled job.type, 0, now⟩

/-- A whole tick, handlers running as told: a claim and, if it brings a job, the report about it.
The result is the identifier of the job. -/
def tick (b : Backend σ) (duty : Duty η) (worker : String) (handle : η → Job → Finish)
    (now : Instant) : Action σ String (Option Ident) := do
  match ← claim b duty worker now with
  | none => return none
  | some job =>
    let finish := finish duty handle job now
    report b duty job finish.ending finish.millis finish.instant
    return some job.id

end Worker

end LeaseQueue
