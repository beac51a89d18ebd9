import LeaseQueue.Sql.Backend
import LeaseQueue.Sql.Grammar

/-!
# Tables

A database may hold rows in tables and do with them what its statements say.  It stands in for a
server where there is none, and says what the statements mean.
-/

namespace LeaseQueue.Sql

/-- The rows of jobs and of statistics, in the order in which they were added. -/
structure Tables where
  jobs : List Row := []
  stats : List Row := []

namespace Tables

/-- The tables of a database that was just created. -/
def empty : Tables := {}

/-! ### Which rows a statement is about -/

/-- The bound value of a number. -/
def argument (bound : List Cell) (n : Nat) : Cell := (bound[n - 1]?).getD .null

/-- Whether a row has the identifier that is bound first. -/
def isNamed (bound : List Cell) (row : Row) : Bool :=
  ((row.cell "id").same (argument bound 1)).selects

/-- Whether a row counts for the queue and the day that are bound first. -/
def isCounted (bound : List Cell) (row : Row) : Bool :=
  (((row.cell "queue_name").same (argument bound 1)).and
    ((row.cell "date").same (argument bound 2))).selects

/-- Whether a job is up for a claim: it is in one of the queues, it is due, and it is waiting or
its lease has run out. -/
def isClaimable (bound : List Cell) (row : Row) : Bool :=
  let now := argument bound 2
  let status := fun s => (row.cell "status").same (.ofStatus s)
  (((row.cell "queue_name").among (argument bound 4)).and
    (((now.before (row.cell "scheduled_at")).not).and
      ((status .pending).or ((status .processing).and
        ((row.cell "locked_until").before now))))).selects

/-- Whether a row is chosen rather than one before it: its priority is higher, or as high and it is
due earlier. -/
def precedes (a b : Row) : Bool :=
  (((b.cell "priority").before (a.cell "priority")).or
    (((a.cell "priority").same (b.cell "priority")).and
      ((a.cell "scheduled_at").before (b.cell "scheduled_at")))).selects

/-- The row that is chosen from a list, the first of equals. -/
def foremost? : List Row → Option Row
  | [] => none
  | r :: rs =>
    match foremost? rs with
    | none => some r
    | some s => if precedes s r then some s else some r

/-- Whether a row was created before another. -/
def isOlder (a b : Row) : Bool := ((a.cell "created_at").before (b.cell "created_at")).selects

/-! ### What a statement does -/

/-- Adds a job, unless its identifier is taken. -/
def insert (t : Tables) (bound : List Cell) (as : List Assignment) :
    Except DbError (List Row) × Tables :=
  if t.jobs.any (isNamed bound) then
    (.error (.refused DbError.uniqueViolation "duplicate key value violates unique constraint"), t)
  else
    (.ok [], { t with jobs := t.jobs ++ [Row.create jobColumns bound as] })

/-- Adds to the row that counts, or adds the row. -/
def addUp (t : Tables) (bound : List Cell) (as : List Assignment) : Tables :=
  let added := Row.create statsColumns bound as
  let sum := fun (row : Row) (column : String) =>
    match row.cell column, added.cell column with
    | .integer m, .integer n => row.set column (.integer (m + n))
    | _, _ => row.set column .null
  if t.stats.any (isCounted bound) then
    { t with
      stats := t.stats.map fun r => if isCounted bound r then countColumns.foldl sum r else r }
  else
    { t with stats := t.stats ++ [added] }

/-- Changes the rows that meet a condition; gives them as they are then. -/
def change (t : Tables) (bound : List Cell) (as : List Assignment) (condition : Row → Bool) :
    List Row × Tables :=
  ((t.jobs.filter condition).map fun r => r.assign bound as,
    { t with jobs := t.jobs.map fun r => if condition r then r.assign bound as else r })

/-- The rows of jobs whose condition is true, the newest first. -/
def select (t : Tables) (bound : List Cell) (condition : Logic) : List Row :=
  (t.jobs.filter fun r => (condition.truthOn bound r).selects).mergeSort fun a b => !isOlder a b

/-- Does what a statement says. -/
def execute (t : Tables) (s : Statement) : Except DbError (List Row) × Tables :=
  let bound := s.values
  match s with
  | .insertJob _ => t.insert bound s.assignments
  | .addStats _ _ _ => (.ok [], t.addUp bound s.assignments)
  | .claimJob _ _ _ _ =>
    match foremost? (t.jobs.filter (isClaimable bound)) with
    | none => (.ok [], t)
    | some chosen =>
      let r := t.change bound s.assignments fun row => isNamed [chosen.cell "id"] row
      (.ok (r.1.map fun row => row.project jobColumns), r.2)
  | .completeJob _ _ _ | .failJob _ _ _ | .retryJob _ _ _ | .cancelJob _ _ =>
    (.ok [], (t.change bound s.assignments (isNamed bound)).2)
  | .lockJob _ => (.ok ((t.jobs.filter (isNamed bound)).map fun r => r.project lockColumns), t)
  | .selectJob _ => (.ok ((t.jobs.filter (isNamed bound)).map fun r => r.project jobColumns), t)
  | .selectStats _ _ =>
    (.ok ((t.stats.filter (isCounted bound)).map fun r => r.project statsColumns), t)
  | .selectJobs f =>
    match Logic.ofText? (Piece.render 1 (condition f)) with
    | some e => (.ok ((t.select bound e).map fun r => r.project jobColumns), t)
    | none => (.error (.refused "42601" "syntax error"), t)

/-! ### Transactions -/

/-- Tables, and what they were when the transaction that is open began. -/
structure Live where
  tables : Tables := empty
  before : Option Tables := none

/-- The tables as a database. A transaction that is rolled back leaves no trace. -/
def database : Database Live := fun c s =>
  match c with
  | .begin => (.ok [], { s with before := some s.tables })
  | .commit => (.ok [], { s with before := none })
  | .rollback => (.ok [], ⟨s.before.getD s.tables, none⟩)
  | .runScript _ | .noteMigration _ => (.ok [], s)
  | .execute statement =>
    let r := s.tables.execute statement
    (r.1, { s with tables := r.2 })

/-! ### Tables of a store -/

/-- The row of a record of statistics. -/
def statsRow (s : Stats) : Row :=
  [("queue_name", .text s.queue), ("date", .date s.date), ("jobs_enqueued", .integer s.enqueued),
   ("jobs_completed", .integer s.completed), ("jobs_failed", .integer s.failed),
   ("total_processing_time_ms", .integer s.totalMillis)]

/-- The tables that hold a store row by row. -/
def ofStore (s : Store) : Tables where
  jobs := s.jobs.map fun j => (JobRow.ofJob j).toRow
  stats := s.ledger.map statsRow

end Tables

end LeaseQueue.Sql
