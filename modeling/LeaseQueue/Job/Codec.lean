import LeaseQueue.Document.Reader
import LeaseQueue.Job.View

/-!
# Encoded jobs

Jobs and their views are written down as records.  Encoding writes every field, absent ones as null;
decoding wants every field that is not optional.
-/

namespace LeaseQueue

namespace Job

/-- The names of the fields of an encoded job. -/
def fieldNames : List String :=
  ["id", "queue_name", "job_type", "payload", "result", "error_message", "error_kind", "priority",
   "status", "attempt_count", "max_attempts", "worker_id", "locked_at", "locked_until",
   "scheduled_at", "created_at", "started_at", "completed_at", "updated_at", "organization_id",
   "user_id", "timeout_seconds", "metadata"]

/-- A job as a value. -/
def toValue (j : Job) : Value :=
  .object (fieldNames.zip
    [.string j.id.text, .string j.queue, .string j.type, .object j.payload,
     .ofOption .object j.result, .ofOption .string j.errorMessage,
     .ofOption (fun k => .string k.name) j.errorKind, .ofInt j.priority.toInt,
     .string j.status.name, .ofInt j.attempts.toNat, .ofInt j.maxAttempts.toNat,
     .ofOption .string j.worker, .ofOption (fun t => .string t.text) j.lockedAt,
     .ofOption (fun t => .string t.text) j.lockedUntil, .string j.scheduledAt.text,
     .string j.createdAt.text, .ofOption (fun t => .string t.text) j.startedAt,
     .ofOption (fun t => .string t.text) j.completedAt, .string j.updatedAt.text,
     .ofOption (fun i => .string i.text) j.organization,
     .ofOption (fun i => .string i.text) j.user,
     .ofOption (fun n => .ofInt n.toNat) j.timeoutSeconds, .object j.metadata])

/-- The encoded job. -/
def text (j : Job) : String := j.toValue.text

/-- The job of a value. -/
def ofValue? (v : Value) : Option Job := do
  let d ← v.asRecord? fieldNames
  return {
    id := ← d.required "id" Value.asIdent?
    queue := ← d.required "queue_name" Value.asString?
    type := ← d.required "job_type" Value.asString?
    payload := ← d.required "payload" Value.asDocument?
    result := ← d.optional "result" Value.asDocument?
    errorMessage := ← d.optional "error_message" Value.asString?
    errorKind := ← d.optional "error_kind" fun v => v.asName?.bind FailureKind.ofName?
    priority := ← d.required "priority" Value.asInt32?
    status := ← d.required "status" fun v => v.asName?.bind Status.ofName?
    attempts := ← d.required "attempt_count" Value.asUInt32?
    maxAttempts := ← d.required "max_attempts" Value.asUInt32?
    worker := ← d.optional "worker_id" Value.asString?
    lockedAt := ← d.optional "locked_at" Value.asInstant?
    lockedUntil := ← d.optional "locked_until" Value.asInstant?
    scheduledAt := ← d.required "scheduled_at" Value.asInstant?
    createdAt := ← d.required "created_at" Value.asInstant?
    startedAt := ← d.optional "started_at" Value.asInstant?
    completedAt := ← d.optional "completed_at" Value.asInstant?
    updatedAt := ← d.required "updated_at" Value.asInstant?
    organization := ← d.optional "organization_id" Value.asIdent?
    user := ← d.optional "user_id" Value.asIdent?
    timeoutSeconds := ← d.optional "timeout_seconds" Value.asUInt32?
    metadata := ← d.required "metadata" Value.asDocument? }

/-- The job an encoded text stands for. -/
def ofText? (s : String) : Option Job := (Value.ofText? s).bind ofValue?

end Job

namespace JobView

/-- The names of the fields of an encoded view. -/
def fieldNames : List String :=
  ["id", "queue_name", "job_type", "status", "payload", "result", "error_message", "error_kind",
   "attempt_count", "max_attempts", "priority", "organization_id", "user_id", "scheduled_at",
   "created_at", "started_at", "completed_at", "updated_at"]

/-- A view as a value. -/
def toValue (v : JobView) : Value :=
  .object (fieldNames.zip
    [.string v.id.text, .string v.queue, .string v.type, .string v.status.name, .object v.payload,
     .ofOption .object v.result, .ofOption .string v.errorMessage,
     .ofOption (fun k => .string k.name) v.errorKind, .ofInt v.attempts.toNat,
     .ofInt v.maxAttempts.toNat, .ofInt v.priority.toInt,
     .ofOption (fun i => .string i.text) v.organization, .ofOption (fun i => .string i.text) v.user,
     .string v.scheduledAt.text, .string v.createdAt.text,
     .ofOption (fun t => .string t.text) v.startedAt,
     .ofOption (fun t => .string t.text) v.completedAt, .string v.updatedAt.text])

/-- The encoded view. -/
def text (v : JobView) : String := v.toValue.text

end JobView

end LeaseQueue
