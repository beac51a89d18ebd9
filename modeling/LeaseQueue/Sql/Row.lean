import LeaseQueue.Sql.Database

/-!
# Rows

Rows are read as records.  A row of the jobs table has typed columns; becoming a job takes more,
since a document may be null or no object at all, and a kind of failure is stored by its name.
-/

namespace LeaseQueue.Sql

/-! ### Columns -/

namespace Row

/-- A column that must hold a value of some type. -/
def required {α : Type} (r : Row) (column : String) (decode : Cell → Option α) :
    Except DbError α :=
  match decode (r.cell column) with
  | some a => .ok a
  | none => .error (.undecodable column)

/-- A column that may be null. -/
def optional {α : Type} (r : Row) (column : String) (decode : Cell → Option α) :
    Except DbError (Option α) :=
  match r.cell column with
  | .null => .ok none
  | c =>
    match decode c with
    | some a => .ok (some a)
    | none => .error (.undecodable column)

end Row

namespace Cell

/-- A text. -/
def asText? : Cell → Option String
  | text s => some s
  | _ => none

/-- A signed 32-bit word. -/
def asWord? : Cell → Option Int32
  | integer n => if -2147483648 ≤ n ∧ n ≤ 2147483647 then some (Int32.ofInt n) else none
  | _ => none

/-- An integer. -/
def asInteger? : Cell → Option Int
  | integer n => some n
  | _ => none

/-- A JSON value. -/
def asJson? : Cell → Option Value
  | json v => some v
  | _ => none

/-- An identifier. -/
def asIdent? : Cell → Option Ident
  | ident i => some i
  | _ => none

/-- An instant. -/
def asTime? : Cell → Option Instant
  | time t => some t
  | _ => none

/-- A date. -/
def asDate? : Cell → Option Date
  | date d => some d
  | _ => none

/-- A status, by its name. -/
def asStatus? (c : Cell) : Option Status := c.asText?.bind Status.ofName?

end Cell

/-! ### Jobs -/

/-- A row of the jobs table. -/
structure JobRow where
  id : Ident
  queue : String
  type : String
  payload : Value
  result : Option Value
  errorMessage : Option String
  errorKind : Option String
  priority : Int32
  status : Status
  attempts : Int32
  maxAttempts : Int32
  worker : Option String
  lockedAt : Option Instant
  lockedUntil : Option Instant
  scheduledAt : Instant
  createdAt : Instant
  startedAt : Option Instant
  completedAt : Option Instant
  updatedAt : Instant
  organization : Option Ident
  user : Option Ident
  timeoutSeconds : Option Int32
  metadata : Value

namespace JobRow

/-- Reads the columns of a job. -/
def ofRow (r : Row) : Except DbError JobRow := do
  return {
    id := ← r.required "id" Cell.asIdent?
    queue := ← r.required "queue_name" Cell.asText?
    type := ← r.required "job_type" Cell.asText?
    payload := ← r.required "payload" Cell.asJson?
    result := ← r.optional "result" Cell.asJson?
    errorMessage := ← r.optional "error_message" Cell.asText?
    errorKind := ← r.optional "error_kind" Cell.asText?
    priority := ← r.required "priority" Cell.asWord?
    status := ← r.required "status" Cell.asStatus?
    attempts := ← r.required "attempt_count" Cell.asWord?
    maxAttempts := ← r.required "max_attempts" Cell.asWord?
    worker := ← r.optional "worker_id" Cell.asText?
    lockedAt := ← r.optional "locked_at" Cell.asTime?
    lockedUntil := ← r.optional "locked_until" Cell.asTime?
    scheduledAt := ← r.required "scheduled_at" Cell.asTime?
    createdAt := ← r.required "created_at" Cell.asTime?
    startedAt := ← r.optional "started_at" Cell.asTime?
    completedAt := ← r.optional "completed_at" Cell.asTime?
    updatedAt := ← r.required "updated_at" Cell.asTime?
    organization := ← r.optional "organization_id" Cell.asIdent?
    user := ← r.optional "user_id" Cell.asIdent?
    timeoutSeconds := ← r.optional "timeout_seconds" Cell.asWord?
    metadata := ← r.required "metadata" Cell.asJson? }

/-- The row as the database returns it. -/
def toRow (r : JobRow) : Row :=
  [("id", .ident r.id), ("queue_name", .text r.queue), ("job_type", .text r.type),
   ("payload", .json r.payload), ("result", .ofOption .json r.result),
   ("error_message", .ofOption .text r.errorMessage),
   ("error_kind", .ofOption .text r.errorKind), ("priority", .ofWord r.priority),
   ("status", .ofStatus r.status), ("attempt_count", .ofWord r.attempts),
   ("max_attempts", .ofWord r.maxAttempts), ("worker_id", .ofOption .text r.worker),
   ("locked_at", .ofOption .time r.lockedAt), ("locked_until", .ofOption .time r.lockedUntil),
   ("scheduled_at", .time r.scheduledAt), ("created_at", .time r.createdAt),
   ("started_at", .ofOption .time r.startedAt), ("completed_at", .ofOption .time r.completedAt),
   ("updated_at", .time r.updatedAt), ("organization_id", .ofOption .ident r.organization),
   ("user_id", .ofOption .ident r.user),
   ("timeout_seconds", .ofOption .ofWord r.timeoutSeconds), ("metadata", .json r.metadata)]

/-- The document of a JSON value; null counts as the empty one. -/
def document : Value → Except StoreError Document
  | .object d => .ok d
  | .null => .ok []
  | v => .error (.invalid (.malformedPayload v.kind))

/-- The kind of failure of a name. -/
def failureKind (name : String) : Except StoreError FailureKind :=
  match FailureKind.parse name with
  | .ok kind => .ok kind
  | .error e => .error (.database e.message)

/-- The job of a row. -/
def toJob (r : JobRow) : Except StoreError Job := do
  let errorKind ← r.errorKind.mapM failureKind
  let payload ← document r.payload
  let result ← r.result.mapM document
  let metadata ← document r.metadata
  return {
    id := r.id
    queue := r.queue
    type := r.type
    payload := payload
    result := result
    errorMessage := r.errorMessage
    errorKind := errorKind
    priority := r.priority
    status := r.status
    attempts := Cell.unsigned r.attempts
    maxAttempts := Cell.unsigned r.maxAttempts
    worker := r.worker
    lockedAt := r.lockedAt
    lockedUntil := r.lockedUntil
    scheduledAt := r.scheduledAt
    createdAt := r.createdAt
    startedAt := r.startedAt
    completedAt := r.completedAt
    updatedAt := r.updatedAt
    organization := r.organization
    user := r.user
    timeoutSeconds := r.timeoutSeconds.map Cell.unsigned
    metadata := metadata }

end JobRow

/-- The row that holds a job. -/
def JobRow.ofJob (j : Job) : JobRow where
  id := j.id
  queue := j.queue
  type := j.type
  payload := .object j.payload
  result := j.result.map .object
  errorMessage := j.errorMessage
  errorKind := j.errorKind.map FailureKind.name
  priority := j.priority
  status := j.status
  attempts := Cell.signed j.attempts
  maxAttempts := Cell.signed j.maxAttempts
  worker := j.worker
  lockedAt := j.lockedAt
  lockedUntil := j.lockedUntil
  scheduledAt := j.scheduledAt
  createdAt := j.createdAt
  startedAt := j.startedAt
  completedAt := j.completedAt
  updatedAt := j.updatedAt
  organization := j.organization
  user := j.user
  timeoutSeconds := j.timeoutSeconds.map Cell.signed
  metadata := .object j.metadata

/-! ### What decides about a move -/

/-- The columns that a move looks at. -/
structure LockedRow where
  status : Status
  queue : String
  attempts : Int32
  maxAttempts : Int32
  startedAt : Option Instant

/-- Reads the columns that a move looks at. -/
def LockedRow.ofRow (r : Row) : Except DbError LockedRow := do
  return {
    status := ← r.required "status" Cell.asStatus?
    queue := ← r.required "queue_name" Cell.asText?
    attempts := ← r.required "attempt_count" Cell.asWord?
    maxAttempts := ← r.required "max_attempts" Cell.asWord?
    startedAt := ← r.optional "started_at" Cell.asTime? }

/-! ### Statistics -/

/-- The statistics in a row. The mean is not stored. -/
def statsOfRow (r : Row) : Except DbError Stats := do
  let queue ← r.required "queue_name" Cell.asText?
  let date ← r.required "date" Cell.asDate?
  let enqueued ← r.required "jobs_enqueued" Cell.asInteger?
  let completed ← r.required "jobs_completed" Cell.asInteger?
  let failed ← r.required "jobs_failed" Cell.asInteger?
  let total ← r.required "total_processing_time_ms" Cell.asInteger?
  return .ofCounts queue date enqueued completed failed total

end LeaseQueue.Sql
