import LeaseQueue.Sql.Row

/-!
# A database as a backend

A claim is a single statement; every other change locks the job's row, decides on it, and writes the
job and the day's statistics in one transaction.
-/

namespace LeaseQueue.Sql

namespace LockedRow

/-- Whether a move applies to a row. -/
def allows (r : LockedRow) : Move → Bool
  | .complete _ => decide (r.status = .processing)
  | .fail _ => decide (r.status = .pending) || decide (r.status = .processing)
  | .retry _ => decide (r.status = .processing) && decide (r.attempts < r.maxAttempts)
  | .cancel => decide (r.status = .pending) || decide (r.status = .processing)

/-- The time since the row was claimed last. -/
def processingTime (r : LockedRow) (now : Instant) : Option Span := r.startedAt.map now.since

/-- What a move of a row adds to the statistics. -/
def delta? (r : LockedRow) (m : Move) (now : Instant) : Option Stats.Delta :=
  match m with
  | .complete _ => some (.ofCompletion (r.processingTime now))
  | .fail _ =>
    some (.ofFailure (if r.status = .processing then r.processingTime now else none))
  | .retry _ | .cancel => none

end LockedRow

/-- The statement that moves a job. -/
def Statement.ofMove (id : Ident) (now : Instant) : Move → Statement
  | .complete result => .completeJob id result now
  | .fail failure => .failJob id failure now
  | .retry next => .retryJob id next now
  | .cancel => .cancelJob id now

namespace Database

variable {δ α : Type}

/-- A value that was read, its errors being those of a store. -/
def decoded (r : Except DbError α) : Action δ StoreError α := fun s =>
  match r with
  | .ok a => (.ok a, s)
  | .error e => (.error e.storeError, s)

/-- A value or an error. -/
def given (r : Except StoreError α) : Action δ StoreError α := fun s => (r, s)

/-- Runs a statement for the first row that it gives. -/
def fetch? (db : Database δ) (s : Statement) (decode : Row → Except DbError α) :
    Action δ StoreError (Option α) := do
  match ← db.run (.execute s) with
  | [] => return none
  | row :: _ => return some (← decoded (decode row))

/-- Runs a statement for all the rows that it gives. -/
def fetchAll (db : Database δ) (s : Statement) (decode : Row → Except DbError α) :
    Action δ StoreError (List α) := do
  let rows ← db.run (.execute s)
  decoded (rows.mapM decode)

/-- Runs a statement for its effect. -/
def execute (db : Database δ) (s : Statement) : Action δ StoreError Unit := do
  let _ ← db.run (.execute s)

/-- Inserts a job; a unique violation means that its identifier is taken. -/
def insertJob (db : Database δ) (job : Job) : Action δ StoreError Unit := fun s =>
  match db (.execute (.insertJob job)) s with
  | (.ok _, s) => (.ok (), s)
  | (.error (.refused code message), s) =>
    if code = DbError.uniqueViolation then (.error (.duplicateJob job.id), s)
    else (.error (DbError.refused code message).storeError, s)
  | (.error e, s) => (.error e.storeError, s)

/-- Puts a job in. An invalid submission does not reach the database. -/
def enqueue (db : Database δ) (now : Instant) (fresh : Ident) (submission : Submission) :
    Action δ StoreError Ident :=
  match submission.toJob fresh now with
  | .error reason => throw (.invalid reason)
  | .ok job => db.transaction do
    db.insertJob job
    db.execute (.addStats job.queue now.date .ofEnqueue)
    return .commit job.id

/-- Claims a job. -/
def claim (db : Database δ) (now : Instant) (worker : String) (queues : List String)
    (lease : Span) : Action δ StoreError (Option Job) := do
  match ← db.fetch? (.claimJob worker now (now.after lease) queues) JobRow.ofRow with
  | none => return none
  | some row => return some (← given row.toJob)

/-- Moves a job. -/
def move (db : Database δ) (now : Instant) (id : Ident) (m : Move) :
    Action δ StoreError Transition :=
  db.transaction do
    match ← db.fetch? (.lockJob id) LockedRow.ofRow with
    | none => throw (.jobNotFound id)
    | some row =>
      if row.allows m then
        db.execute (.ofMove id now m)
        match row.delta? m now with
        | some d => db.execute (.addStats row.queue now.date d)
        | none => pure ()
        return .commit .applied
      else
        return .abandon (.skipped row.status)

/-- The job of an identifier. -/
def getJob (db : Database δ) (id : Ident) : Action δ StoreError (Option Job) := do
  match ← db.fetch? (.selectJob id) JobRow.ofRow with
  | none => return none
  | some row => return some (← given row.toJob)

/-- The statistics of a queue on a day. -/
def statsOn (db : Database δ) (queue : String) (date : Date) : Action δ StoreError Stats := do
  return (← db.fetch? (.selectStats queue date) statsOfRow).getD (Stats.empty queue date)

/-- The jobs that meet a condition, in the order in which the database gives them. -/
def select (db : Database δ) (f : Filter) : Action δ StoreError (List Job) := do
  let rows ← db.fetchAll (.selectJobs f) JobRow.ofRow
  given (rows.mapM JobRow.toJob)

/-- A call whose errors are errors of a backend. -/
def calling (action : Action δ StoreError α) : Call δ α := fun s =>
  Backend.answer (action s)

/-- The database as a backend. -/
def backend (db : Database δ) : Backend δ where
  enqueue now fresh submission := calling (db.enqueue now fresh submission)
  claim now worker queues lease := calling (db.claim now worker queues lease)
  move now id m := calling (db.move now id m)
  get id := calling (db.getJob id)
  stats queue date := calling (db.statsOn queue date)
  select f := calling (db.select f)

end Database

end LeaseQueue.Sql
