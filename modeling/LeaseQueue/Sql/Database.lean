import LeaseQueue.Backend.Basic
import LeaseQueue.Sql.Statement

/-!
# Databases

As seen from outside commands go into a database, and rows or errors come out.  A transaction is a
bracket of commands that takes effect as a whole or not at all.
-/

namespace LeaseQueue.Sql

/-- A step in the history of the tables. -/
structure Migration where
  version : Nat
  description : String
  script : String

/-- What a database can be told to do. -/
inductive Command where
  | begin
  | commit
  | rollback
  | runScript (m : Migration)
  /-- Puts down that a migration was done. -/
  | noteMigration (m : Migration)
  | execute (s : Statement)

/-- The first words of a command that controls a transaction or runs a script. -/
def Command.control? : Command → Option String
  | .begin => some "BEGIN"
  | .commit => some "COMMIT"
  | .rollback => some "ROLLBACK"
  | .runScript m => some m.script
  | .noteMigration _ | .execute _ => none

/-- Why a command fails. -/
inductive DbError where
  /-- The database refuses it. -/
  | refused (code message : String)
  /-- A column holds something else than expected. -/
  | undecodable (column : String)
  deriving DecidableEq

namespace DbError

/-- The code of a unique violation. -/
def uniqueViolation : String := "23505"

/-- The reason in a sentence. -/
def message : DbError → String
  | refused _ message => "error returned from database: " ++ message
  | undecodable column => "error occurred while decoding column " ++ Quoted.quote column

/-- The reason as an error of a store. -/
def storeError (e : DbError) : StoreError := .database e.message

end DbError

/-- A database with a state of its own: what it answers to each command. -/
abbrev Database (δ : Type) := Command → Action δ DbError (List Row)

namespace Database

variable {δ α : Type}

/-- A database that also writes down what it is told. -/
def recorded (db : Database δ) : Database (δ × List Command) := fun c s =>
  let r := db c s.1
  (r.1, (r.2, s.2 ++ [c]))

/-- A command whose errors are those of a store. -/
def run (db : Database δ) (c : Command) : Action δ StoreError (List Row) := fun s =>
  match db c s with
  | (.ok rows, s) => (.ok rows, s)
  | (.error e, s) => (.error e.storeError, s)

/-- How the body of a transaction wants it to end. -/
inductive Resolution (α : Type) where
  | commit (a : α)
  | abandon (a : α)

/-- Runs a body between a beginning and an end. The changes take effect only if the body wants
them to and nothing fails, the commit included; otherwise everything is rolled back. -/
def transaction (db : Database δ) (body : Action δ StoreError (Resolution α)) :
    Action δ StoreError α := fun s =>
  let undo := fun (answer : Except StoreError α) (s : δ) => (answer, (db .rollback s).2)
  match db.run .begin s with
  | (.error e, s) => undo (.error e) s
  | (.ok _, s) =>
    match body s with
    | (.error e, s) => undo (.error e) s
    | (.ok (.abandon a), s) => undo (.ok a) s
    | (.ok (.commit a), s) =>
      match db.run .commit s with
      | (.error e, s) => undo (.error e) s
      | (.ok _, s) => (.ok a, s)

end Database

end LeaseQueue.Sql
