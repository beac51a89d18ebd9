import LeaseQueue.Document.Decode
import LeaseQueue.Stats

/-!
# Encoded statistics

The statistics of a day are written down as a record.
-/

namespace LeaseQueue.Stats

/-- The names of the fields of an encoded record. -/
def fieldNames : List String :=
  ["queue_name", "date", "jobs_enqueued", "jobs_completed", "jobs_failed",
   "total_processing_time_ms", "avg_processing_time_ms"]

/-- A signed 64-bit word as a number. -/
def asCount? (v : Value) : Option Int := v.asInt64?.map Int64.toInt

/-- The record of a value. The mean is taken as it stands, whatever the counts say. -/
def ofValue? (v : Value) : Option Stats := do
  let d ← v.asRecord? fieldNames
  return {
    queue := ← d.required "queue_name" Value.asString?
    date := ← d.required "date" Value.asDate?
    enqueued := ← d.required "jobs_enqueued" asCount?
    completed := ← d.required "jobs_completed" asCount?
    failed := ← d.required "jobs_failed" asCount?
    totalMillis := ← d.required "total_processing_time_ms" asCount?
    averageMillis := ← d.required "avg_processing_time_ms" Value.asDouble? }

end LeaseQueue.Stats
