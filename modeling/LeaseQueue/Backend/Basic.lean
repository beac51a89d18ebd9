import LeaseQueue.Store.Basic

/-!
# Backends

A backend is anything that keeps jobs the way a store does.  It works on a state of its own, and
each of its calls comes back with a value or an error, or not at all.
-/

namespace LeaseQueue

/-- What a call to a backend may end with instead of a value. -/
inductive Fault where
  | error (e : StoreError)
  /-- The call broke off, and whoever made it with it. -/
  | crash (message : String)
  deriving DecidableEq

/-- A computation on a state that may end with an error; the state is kept then. -/
abbrev Action (σ ε α : Type) := ExceptT ε (StateM σ) α

/-- A call to a backend with state `σ`. -/
abbrev Call (σ α : Type) := Action σ Fault α

/-- The calls of a backend with state `σ`. Those that depend on the time are told it, and putting
a job in also takes the identifier for a job that brings none. -/
structure Backend (σ : Type) where
  enqueue : Instant → Ident → Submission → Call σ Ident
  claim : Instant → String → List String → Span → Call σ (Option Job)
  move : Instant → Ident → Move → Call σ Transition
  get : Ident → Call σ (Option Job)
  stats : String → Date → Call σ Stats
  select : Filter → Call σ (List Job)

namespace Backend

/-- The call whose answer is given. -/
def answer {σ α : Type} (r : Except StoreError α × σ) : Except Fault α × σ :=
  match r with
  | (.ok a, s) => (.ok a, s)
  | (.error e, s) => (.error (.error e), s)

/-- The store itself as a backend. -/
def ofStore : Backend Store where
  enqueue now fresh submission := fun s => answer (s.enqueue now fresh submission)
  claim now worker queues lease := fun s =>
    let r := s.claim now worker queues lease
    (.ok r.1, r.2)
  move now id m := fun s => answer (s.move now id m)
  get id := fun s => (.ok (s.find? id), s)
  stats queue date := fun s => (.ok (s.statsOn queue date), s)
  select f := fun s => (.ok (s.select f), s)

/-- The crash of a call that asks a clock for a time before 1970. -/
def untimely : Fault := .crash "time before 1970"

/-- A backend whose clock tells the time from 1970 on: before that the calls that depend on the
time crash. -/
def timed {σ : Type} (b : Backend σ) : Backend σ :=
  { b with
    enqueue := fun now fresh submission =>
      if now < Instant.epoch then throw untimely else b.enqueue now fresh submission
    claim := fun now worker queues lease =>
      if now < Instant.epoch then throw untimely else b.claim now worker queues lease
    move := fun now id m => if now < Instant.epoch then throw untimely else b.move now id m }

end Backend

end LeaseQueue
