import LeaseQueue.Handler.Error
import LeaseQueue.Job.Basic

/-!
# Courses

A course is what the run of a handler does, stage by stage.  A handler turns what it is told about a
job into a course, and whoever drives the course decides when its stages happen.
-/

namespace LeaseQueue

/-- What a handler is told about its job, the payload apart. -/
structure Context where
  id : Ident
  type : String
  queue : String
  attempt : UInt32
  maxAttempts : UInt32
  worker : String

/-- The context of a job in the hands of a worker. -/
def Job.context (j : Job) (worker : String) : Context :=
  ⟨j.id, j.type, j.queue, j.attempts, j.maxAttempts, worker⟩

/-- One thing that a handler does, beside a world with states `σ`. -/
inductive Stage (σ : Type) where
  /-- Leaves a note that it came by. -/
  | note
  /-- Sleeps for a number of milliseconds. -/
  | sleep (millis : Nat)
  /-- Waits until its worker is told to shut down. -/
  | awaitShutdown
  /-- Changes the world. -/
  | act (change : Instant → σ → σ)

/-- The stages of a run, and how it ends. -/
structure Course (σ : Type) where
  stages : List (Stage σ)
  ending : Ending

/-- A handler: the course of a run, given how often it ran before, the context and the written
payload. -/
abbrev Handler (σ : Type) := Nat → Context → String → Course σ

end LeaseQueue
