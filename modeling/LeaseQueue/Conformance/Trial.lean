import LeaseQueue.Backend.Basic

/-!
# Trials of a backend

A trial is a program that calls a backend, looks at the answers, and fails when one is not as it
should be.  It has a clock of its own and makes up identifiers as it goes.
-/

namespace LeaseQueue

/-- Where a trial has got to. -/
structure Bench (σ : Type) where
  state : σ
  clock : Instant
  /-- How many identifiers were made up. -/
  made : Nat := 0

/-- A trial of a backend with state `σ`. -/
abbrev Trial (σ α : Type) := OptionT (StateM (Bench σ)) α

namespace Trial

variable {σ α : Type}

/-- Fails unless a condition holds. -/
def check (condition : Bool) : Trial σ Unit := if condition then pure () else failure

/-- What the clock stands at. -/
def clock : Trial σ Instant := return (← get).clock

/-- The current time. A clock tells it from 1970 on; before that the trial fails. -/
def now : Trial σ Instant := do
  let time ← clock
  check (Instant.epoch ≤ time)
  return time

/-- An identifier that was not used before. -/
def freshIdent : Trial σ Ident := do
  let bench ← get
  set { bench with made := bench.made + 1 }
  return Ident.ofNat (bench.made + 1)

/-- The answer to a call, whatever it is. -/
def attempt (call : Call σ α) : Trial σ (Except Fault α) := do
  let bench ← get
  let (answer, state) := call bench.state
  set { bench with state }
  return answer

/-- The value that a call comes back with; the trial fails if it does not. -/
def ask (call : Call σ α) : Trial σ α := do
  match ← attempt call with
  | .ok a => return a
  | .error _ => failure

/-- The value in an answer; the trial fails if there is none. -/
def need (a : Option α) : Trial σ α := OptionT.mk (pure a)

/-- The instant a span after another; the trial fails if there is none. -/
def later (t : Instant) (s : Span) : Trial σ Instant := need (t.add? s)

/-- Lets time pass. -/
def sleep (s : Span) : Trial σ Unit := do
  let time ← later (← clock) s
  modify fun bench => { bench with clock := time }

/-- Whether a trial on a given state, begun at a given time, comes through. -/
def passes (trial : Trial σ Unit) (state : σ) (clock : Instant) : Bool :=
  (trial.run { state := state, clock := clock }).1.isSome

end Trial

end LeaseQueue
