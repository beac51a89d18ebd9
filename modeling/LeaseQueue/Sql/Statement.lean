import LeaseQueue.Job.Move
import LeaseQueue.Sql.Assignment
import LeaseQueue.Sql.Condition

/-!
# Statements

The statements keep jobs and statistics in a database.  Of each there is what it is for, what it
puts into which columns, its text, and the values bound to its numbered places.
-/

namespace LeaseQueue.Sql

/-- A statement with what it is about. -/
inductive Statement where
  | insertJob (job : Job)
  | addStats (queue : String) (date : Date) (d : Stats.Delta)
  | claimJob (worker : String) (now lockedUntil : Instant) (queues : List String)
  /-- Reads what decides about a move, and keeps others from changing it meanwhile. -/
  | lockJob (id : Ident)
  | completeJob (id : Ident) (result : Document) (now : Instant)
  | failJob (id : Ident) (failure : Failure) (now : Instant)
  | retryJob (id : Ident) (next now : Instant)
  | cancelJob (id : Ident) (now : Instant)
  | selectJob (id : Ident)
  | selectStats (queue : String) (date : Date)
  | selectJobs (f : Filter)

/-- The columns of a job, in the order in which they are read. -/
def jobColumns : List String :=
  ["id", "queue_name", "job_type", "payload", "result", "error_message", "error_kind", "priority",
   "status", "attempt_count", "max_attempts", "worker_id", "locked_at", "locked_until",
   "scheduled_at", "created_at", "started_at", "completed_at", "updated_at", "organization_id",
   "user_id", "timeout_seconds", "metadata"]

/-- The columns that decide about a move. -/
def lockColumns : List String :=
  ["status", "queue_name", "attempt_count", "max_attempts", "started_at"]

/-- The columns of statistics that count something. -/
def countColumns : List String :=
  ["jobs_enqueued", "jobs_completed", "jobs_failed", "total_processing_time_ms"]

/-- The columns of statistics, in the order in which they are read. -/
def statsColumns : List String := ["queue_name", "date"] ++ countColumns

namespace Statement

/-- What every move does to the lease of a job. -/
def releasing : List Assignment :=
  [("worker_id", .null), ("locked_at", .null), ("locked_until", .null)]

/-- What a statement puts into the columns of the row that it adds or changes. -/
def assignments : Statement → List Assignment
  | insertJob _ =>
    [("id", .place 1), ("queue_name", .place 2), ("job_type", .place 3), ("payload", .place 4),
     ("priority", .place 5), ("status", .place 6), ("attempt_count", .integer 0),
     ("max_attempts", .place 7), ("scheduled_at", .place 8), ("created_at", .place 9),
     ("updated_at", .place 9), ("organization_id", .place 10), ("user_id", .place 11),
     ("timeout_seconds", .place 12), ("metadata", .place 13)]
  | addStats _ _ _ =>
    [("queue_name", .place 1), ("date", .place 2), ("jobs_enqueued", .place 3),
     ("jobs_completed", .place 4), ("jobs_failed", .place 5),
     ("total_processing_time_ms", .place 6)]
  | claimJob _ _ _ _ =>
    [("status", .status .processing), ("worker_id", .place 1), ("locked_at", .place 2),
     ("locked_until", .place 3), ("started_at", .place 2), ("updated_at", .place 2)]
  | completeJob _ _ _ =>
    [("status", .status .completed), ("result", .place 2), ("completed_at", .place 3),
     ("updated_at", .place 3)] ++ releasing
  | failJob _ _ _ =>
    [("status", .status .failed), ("error_message", .place 2), ("error_kind", .place 3),
     ("completed_at", .place 4), ("updated_at", .place 4)] ++ releasing
  | retryJob _ _ _ =>
    [("status", .status .pending), ("attempt_count", .increased "attempt_count"),
     ("scheduled_at", .place 2), ("updated_at", .place 3)] ++ releasing
  | cancelJob _ _ => [("status", .status .cancelled), ("updated_at", .place 2)] ++ releasing
  | lockJob _ | selectJob _ | selectStats _ _ | selectJobs _ => []

/-- The text that adds a row to a table. -/
def insertion (table : String) (as : List Assignment) : String :=
  "INSERT INTO " ++ table ++ " ( " ++ commas (as.map Prod.fst) ++ " ) VALUES (" ++
  commas (as.map fun a => a.2.text) ++ ")"

/-- The text that changes the row of a job. -/
def change (as : List Assignment) (row : String) : String :=
  "UPDATE jobqueue_jobs SET " ++ assignmentsText as ++ " WHERE id = " ++ row

/-- The text that reads columns of a table. -/
def reading (columns : List String) (table : String) : String :=
  "SELECT " ++ commas columns ++ " FROM " ++ table ++ " WHERE"

/-- The text that adds up a count of the row that is there and one of the row that was to be
added. -/
def addition (column : String) : String :=
  column ++ " = jobqueue_stats." ++ column ++ " + EXCLUDED." ++ column

/-- The text of the choice of the job that is claimed. -/
def choice : String :=
  "( SELECT id FROM jobqueue_jobs WHERE queue_name = ANY($4) AND scheduled_at <= $2 " ++
  "AND ( status = 'pending' OR (status = 'processing' AND locked_until < $2) ) " ++
  "ORDER BY priority DESC, scheduled_at ASC LIMIT 1 FOR UPDATE SKIP LOCKED )"

/-- The text of a statement. -/
def text (s : Statement) : String :=
  match s with
  | insertJob _ => insertion "jobqueue_jobs" s.assignments
  | addStats _ _ _ =>
    insertion "jobqueue_stats" s.assignments ++
    " ON CONFLICT (queue_name, date) DO UPDATE SET " ++ commas (countColumns.map addition)
  | claimJob _ _ _ _ => change s.assignments choice ++ " RETURNING " ++ commas jobColumns
  | completeJob _ _ _ | failJob _ _ _ | retryJob _ _ _ | cancelJob _ _ => change s.assignments "$1"
  | lockJob _ => reading lockColumns "jobqueue_jobs" ++ " id = $1 FOR UPDATE"
  | selectJob _ => reading jobColumns "jobqueue_jobs" ++ " id = $1"
  | selectStats _ _ =>
    reading statsColumns "jobqueue_stats" ++ " queue_name = $1 AND date = $2"
  | selectJobs f =>
    reading jobColumns "jobqueue_jobs" ++ Piece.render 1 (condition f) ++
    " ORDER BY created_at DESC"

/-- The values bound to the numbered places of a statement, in their order. -/
def values : Statement → List Cell
  | insertJob job =>
    [.ident job.id, .text job.queue, .text job.type, .json (.object job.payload),
     .integer job.priority.toInt, .ofStatus job.status, .ofWord (Cell.signed job.maxAttempts),
     .time job.scheduledAt, .time job.createdAt, .ofOption .ident job.organization,
     .ofOption .ident job.user, .ofOption (fun n => .ofWord (Cell.signed n)) job.timeoutSeconds,
     .json (.object job.metadata)]
  | addStats queue date d =>
    [.text queue, .date date, .integer d.enqueued, .integer d.completed, .integer d.failed,
     .integer d.millis]
  | claimJob worker now lockedUntil queues =>
    [.text worker, .time now, .time lockedUntil, .texts queues]
  | lockJob id => [.ident id]
  | completeJob id result now => [.ident id, .json (.object result), .time now]
  | failJob id failure now =>
    [.ident id, .text failure.message, .text failure.kind.name, .time now]
  | retryJob id next now => [.ident id, .time next, .time now]
  | cancelJob id now => [.ident id, .time now]
  | selectJob id => [.ident id]
  | selectStats queue date => [.text queue, .date date]
  | selectJobs f => Piece.values (condition f)

end Statement

end LeaseQueue.Sql
