import LeaseQueue.Handler.Executor

/-!
# Scripts

A script is a handler that does as it is told, for trying out how a queue behaves.  It is a list of
acts; each run of the handler plays the next one, and the last one is played over and over.
-/

namespace LeaseQueue

/-- One run of a scripted handler. What is asked for happens in the order of the fields, after a
note that the run began; the first failure ends it. -/
structure Act where
  sleepMillis : Option Nat := none
  awaitShutdown : Bool := false
  /-- Cancel the own job. -/
  cancel : Bool := false
  /-- Leave a second note. -/
  noteEnd : Bool := false
  /-- Take the payload for a report. -/
  decode : Bool := false
  panic : Option String := none
  error : Option String := none

namespace Act

variable {σ : Type}

/-- The stages of an act; `cancel` cancels a job in the world around. -/
def stages (a : Act) (cancel : Ident → Instant → σ → σ) (id : Ident) : List (Stage σ) :=
  [.note] ++ (a.sleepMillis.map .sleep).toList
    ++ (if a.awaitShutdown then [.awaitShutdown] else [])
    ++ (if a.cancel then [.act (cancel id)] else [])
    ++ (if a.noteEnd then [.note] else [])

/-- How an act ends on a payload. -/
def ending (a : Act) (payload : String) : Ending :=
  match a.decode, Executor.decodeText Executor.decodeRows payload with
  | true, .error e => .error e.message
  | _, _ =>
    match a.panic, a.error with
    | some message, _ => .panic message
    | none, some message => .error message
    | none, none => .success

/-- The act that the next run of a script plays. -/
def next (script : List Act) (runs : Nat) : Act :=
  (script[runs]?.or script.getLast?).getD {}

/-- A script as a handler. -/
def handler (script : List Act) (cancel : Ident → Instant → σ → σ) : Handler σ :=
  fun runs context payload =>
    let act := next script runs
    ⟨act.stages cancel context.id, act.ending payload⟩

end Act

end LeaseQueue
