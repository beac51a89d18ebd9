import LeaseQueue.Config
import LeaseQueue.Job.Options
import LeaseQueue.Job.View
import LeaseQueue.Queue.Error

/-!
# Queues

Producers and administrators call a backend through a queue.  It adds what the configuration and the
backoff decide, and says which call failed.
-/

namespace LeaseQueue

/-- What a queue adds to its backend. -/
structure Queue where
  config : Config := .standard
  /-- The delay before an attempt. -/
  backoff : UInt32 → Span := Policy.standard.delay

namespace Queue

variable {σ : Type}

/-- The queue of a configuration. -/
def ofConfig (config : Config) : Queue := ⟨config, config.backoff.delay⟩

/-- A call to the backend whose faults become errors of the queue. -/
def calling {α : Type} (kind : CallKind) (call : Call σ α) : Action σ QueueError α := fun s =>
  match call s with
  | (.ok a, s) => (.ok a, s)
  | (.error fault, s) => (.error (.ofFault kind fault), s)

/-! ### Producing -/

/-- Puts a job in. -/
def enqueue (b : Backend σ) (now : Instant) (fresh : Ident) (submission : Submission) :
    Action σ QueueError Ident :=
  calling .enqueue (b.enqueue now fresh submission)

/-- Puts a job in that is due at a given instant. -/
def enqueueAt (b : Backend σ) (now : Instant) (fresh : Ident) (submission : Submission)
    (scheduledAt : Instant) : Action σ QueueError Ident :=
  enqueue b now fresh { submission with scheduledAt }

/-- Puts a job in that is due after a delay, which must not be negative. -/
def enqueueWithDelay (b : Backend σ) (now : Instant) (fresh : Ident) (submission : Submission)
    (delay : Span) : Action σ QueueError Ident :=
  if delay < Span.zero then throw (.invalid .negativeDelay)
  else enqueueAt b now fresh submission (now.after delay)

/-- Puts a job in whose payload is a value that may have failed to become one. -/
def enqueueJob (q : Queue) (b : Backend σ) (now : Instant) (fresh : Ident) (queue type : String)
    (payload : Except String Value) (options : Options) : Action σ QueueError Ident :=
  match payload with
  | .error message => throw (.encoding message)
  | .ok payload =>
    match options.submission queue type payload q.config.defaultMaxAttempts now with
    | .error reason => throw (.invalid reason)
    | .ok submission => enqueue b now fresh submission

/-- Puts such a job in, due at a given instant. -/
def scheduleJob (q : Queue) (b : Backend σ) (now : Instant) (fresh : Ident) (queue type : String)
    (payload : Except String Value) (scheduledAt : Instant) (options : Options) :
    Action σ QueueError Ident :=
  q.enqueueJob b now fresh queue type payload { options with scheduledAt := some scheduledAt }

/-! ### Working by hand -/

/-- Claims a job under the configured lease. -/
def dequeue (q : Queue) (b : Backend σ) (now : Instant) (worker : String)
    (queues : List String) : Action σ QueueError (Option Job) :=
  calling .claim (b.claim now worker queues q.config.lease)

/-- Moves a job. -/
def move (b : Backend σ) (now : Instant) (id : Ident) (m : Move) :
    Action σ QueueError Transition :=
  calling (.ofMove m) (b.move now id m)

/-- The job of an identifier. -/
def getJob (b : Backend σ) (id : Ident) : Action σ QueueError Job := do
  match ← calling .get (b.get id) with
  | some job => return job
  | none => throw (.jobNotFound id)

/-- When the next attempt of a job is due: after the delay for that attempt. -/
def nextAttempt (q : Queue) (now : Instant) (job : Job) : Instant :=
  now.after (q.backoff (UInt32.ofNat (min 4294967295 (job.attempts.toNat + 1))))

/-- Gives up the current attempt of a job in favour of the next one. -/
def retry (q : Queue) (b : Backend σ) (now : Instant) (id : Ident) :
    Action σ QueueError Transition := do
  let job ← getJob b id
  move b now id (.retry (q.nextAttempt now job))

/-! ### Looking on -/

/-- The statistics of a queue on a day. -/
def statsOn (b : Backend σ) (queue : String) (date : Date) : Action σ QueueError Stats :=
  calling .stats (b.stats queue date)

/-- The statistics of a queue on the current day. -/
def statsToday (b : Backend σ) (now : Instant) (queue : String) : Action σ QueueError Stats :=
  statsOn b queue now.date

/-- The jobs that meet a condition, the newest first. -/
def select (b : Backend σ) (f : Filter) : Action σ QueueError (List Job) :=
  calling .query (b.select f)

/-- The view of the job of an identifier. -/
def viewJob (b : Backend σ) (id : Ident) : Action σ QueueError JobView :=
  return (← getJob b id).view

/-- The views of the jobs that meet a condition, the newest first. -/
def viewJobs (b : Backend σ) (f : Filter) : Action σ QueueError (List JobView) :=
  return (← select b f).map Job.view

end Queue

end LeaseQueue
