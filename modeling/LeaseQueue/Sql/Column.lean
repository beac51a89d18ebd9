import LeaseQueue.Sql.Database

/-!
# Columns

The columns of the tables hold cells of a kind, and rows are written down as records.  In a column
of documents null is a value of its own; anywhere else it means that the column is empty.
-/

namespace LeaseQueue.Sql

/-- What a column holds. -/
inductive ColumnType where
  | ident
  | text
  | integer
  | time
  | date
  | json
  deriving DecidableEq

namespace ColumnType

/-- The columns of the tables, those of text left out. -/
def columns : List (String × ColumnType) :=
  [("id", ident), ("organization_id", ident), ("user_id", ident),
   ("payload", json), ("result", json), ("metadata", json),
   ("priority", integer), ("attempt_count", integer), ("max_attempts", integer),
   ("timeout_seconds", integer), ("jobs_enqueued", integer), ("jobs_completed", integer),
   ("jobs_failed", integer), ("total_processing_time_ms", integer),
   ("locked_at", time), ("locked_until", time), ("scheduled_at", time), ("created_at", time),
   ("started_at", time), ("completed_at", time), ("updated_at", time), ("date", date)]

/-- What the column of a name holds. -/
def ofName (name : String) : ColumnType :=
  ((columns.find? fun c => c.1 = name).map Prod.snd).getD text

/-- The cell of a value in a column. -/
def cell? (t : ColumnType) (v : Value) : Option Cell :=
  match t, v with
  | json, v => some (.json v)
  | _, .null => some .null
  | ident, v => v.asIdent?.map .ident
  | text, v => v.asString?.map .text
  | integer, v => v.asInt64?.map fun n => .integer n.toInt
  | time, v => v.asInstant?.map .time
  | date, v => v.asDate?.map .date

end ColumnType

/-- The row of a record of its columns. -/
def Row.ofValue? (v : Value) : Option Row := do
  (← v.asDocument?).mapM fun f => do
    let cell ← (ColumnType.ofName f.1).cell? f.2
    return (f.1, cell)

end LeaseQueue.Sql
