import LeaseQueue.Sql.Database

/-!
# Migrations

Migrations bring the tables of a database up to date.  Before anything is done the migrations that
the database has put down are checked against the known ones.
-/

namespace LeaseQueue.Sql

/-! ### The tables -/

/-- A table with its columns and what else belongs to it. -/
def createTable (name : String) (parts : List String) : String :=
  "CREATE TABLE " ++ name ++ " ( " ++ ", ".intercalate parts ++ " );"

/-- The type of the status column. -/
def createStatusType : String :=
  let names := Status.all.map fun s => "'" ++ s.name ++ "'"
  "CREATE TYPE jobqueue_job_status AS ENUM ( " ++ ", ".intercalate names ++ " );"

/-- The table of jobs. -/
def createJobs : String :=
  createTable "jobqueue_jobs"
    ["id UUID PRIMARY KEY",
     "queue_name VARCHAR(255) NOT NULL",
     "job_type VARCHAR(255) NOT NULL",
     "payload JSONB NOT NULL",
     "result JSONB",
     "error_message TEXT",
     "error_kind TEXT",
     "priority INTEGER NOT NULL DEFAULT 0",
     "status jobqueue_job_status NOT NULL DEFAULT 'pending'",
     "attempt_count INTEGER NOT NULL DEFAULT 0",
     "max_attempts INTEGER NOT NULL DEFAULT 3 CHECK (max_attempts > 0)",
     "worker_id TEXT",
     "locked_at TIMESTAMPTZ",
     "locked_until TIMESTAMPTZ",
     "scheduled_at TIMESTAMPTZ NOT NULL",
     "created_at TIMESTAMPTZ NOT NULL",
     "started_at TIMESTAMPTZ",
     "completed_at TIMESTAMPTZ",
     "updated_at TIMESTAMPTZ NOT NULL",
     "organization_id UUID",
     "user_id UUID",
     "timeout_seconds INTEGER",
     "metadata JSONB NOT NULL DEFAULT '\x7b\x7d'::jsonb"]

/-- The indexes of the table of jobs. -/
def createIndexes : List String :=
  ["CREATE INDEX jobqueue_jobs_claim_idx ON jobqueue_jobs " ++
     "(queue_name, priority DESC, scheduled_at) WHERE status IN ('pending', 'processing');",
   "CREATE INDEX jobqueue_jobs_status_idx ON jobqueue_jobs (status);",
   "CREATE INDEX jobqueue_jobs_organization_idx ON jobqueue_jobs (organization_id) " ++
     "WHERE organization_id IS NOT NULL;",
   "CREATE INDEX jobqueue_jobs_created_at_idx ON jobqueue_jobs (created_at DESC);"]

/-- The table of statistics. -/
def createStats : String :=
  createTable "jobqueue_stats"
    ["queue_name VARCHAR(255) NOT NULL",
     "date DATE NOT NULL",
     "jobs_enqueued BIGINT NOT NULL DEFAULT 0",
     "jobs_completed BIGINT NOT NULL DEFAULT 0",
     "jobs_failed BIGINT NOT NULL DEFAULT 0",
     "total_processing_time_ms BIGINT NOT NULL DEFAULT 0",
     "PRIMARY KEY (queue_name, date)"]

/-- The migration that creates all tables. -/
def createTables : Migration where
  version := 20240601000000
  description := "create jobqueue tables"
  script := " ".intercalate ([createStatusType, createJobs] ++ createIndexes ++ [createStats])

/-- The known migrations, in their order. -/
def migrations : List Migration := [createTables]

/-! ### Bringing a database up to date -/

/-- A migration that a database has put down. -/
structure Applied where
  version : Nat
  /-- Whether its script was the one that is known now. -/
  intact : Bool := true
  finished : Bool := true
  deriving DecidableEq

/-- Why a database cannot be brought up to date. -/
inductive MigrationError where
  | modified (version : Nat)
  | unknown (version : Nat)
  | unfinished (version : Nat)
  | failed (e : DbError)
  deriving DecidableEq

/-- The reason in a sentence. -/
def MigrationError.message : MigrationError → String
  | modified version =>
    "migration " ++ toString version ++ " was previously applied but has been modified"
  | unknown version =>
    "migration " ++ toString version ++
      " was previously applied but is missing in the resolved migrations"
  | unfinished version =>
    "migration " ++ toString version ++
      " is partially applied; fix and remove row from `_sqlx_migrations` table"
  | failed e => "while executing migrations: " ++ e.message

namespace Database

variable {δ : Type}

/-- What speaks against what a database has put down: a migration that was not finished, else one
that is not known. -/
def objection? (known : List Migration) (history : List Applied) : Option MigrationError :=
  match history.find? fun a => !a.finished with
  | some a => some (.unfinished a.version)
  | none =>
    (history.find? fun a => !known.any fun m => m.version = a.version).map
      fun a => .unknown a.version

/-- Runs the script of a migration in a transaction of its own. -/
def applyMigration (db : Database δ) (m : Migration) : Action δ DbError Unit := fun s =>
  let undo := fun (e : DbError) (s : δ) => (.error e, (db .rollback s).2)
  match db .begin s with
  | (.error e, s) => undo e s
  | (.ok _, s) =>
    match db (.runScript m) s with
    | (.error e, s) => undo e s
    | (.ok _, s) =>
      match db (.noteMigration m) s with
      | (.error e, s) => undo e s
      | (.ok _, s) =>
        match db .commit s with
        | (.error e, s) => undo e s
        | (.ok _, s) => (.ok (), s)

/-- Runs the migrations that are not yet put down, one after the other. -/
def applyMissing (db : Database δ) (history : List Applied) :
    List Migration → Action δ MigrationError Unit
  | [] => pure ()
  | m :: ms =>
    match history.find? fun a => a.version = m.version with
    | some a => if a.intact then applyMissing db history ms else throw (.modified m.version)
    | none => fun s =>
      match db.applyMigration m s with
      | (.error e, s) => (.error (.failed e), s)
      | (.ok (), s) => applyMissing db history ms s

/-- Brings a database up to date that has put down a history of migrations. -/
def migrate (db : Database δ) (history : List Applied) : Action δ StoreError Unit := fun s =>
  match objection? migrations history with
  | some e => (.error (.database e.message), s)
  | none =>
    match applyMissing db history migrations s with
    | (.error e, s) => (.error (.database e.message), s)
    | (.ok (), s) => (.ok (), s)

end Database

end LeaseQueue.Sql
