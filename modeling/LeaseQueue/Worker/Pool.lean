import LeaseQueue.Worker.Tick

/-!
# Pools of workers

A pool is a crew of workers beside the state of their backend, a clock and the notes of the
handlers.  Everything a worker does is one of four small steps: it claims a job, its handler runs
until it has to wait, it reports, or it leaves.  Each step changes a single worker and does nothing
if that worker is not ready for it, so any order of steps is a possible history; `Pool.drive` is the
one that keeps to the clock.
-/

namespace LeaseQueue

/-- A note of a handler: when and where it came by. -/
structure Note where
  instant : Instant
  context : Context
  payload : String
  shuttingDown : Bool

/-- A job in the hands of a worker. Times are milliseconds since the pool was set up. -/
structure Task (σ : Type) where
  job : Job
  /-- When the handler began. -/
  began : Nat
  /-- When the handler goes on. -/
  resumesAt : Nat
  /-- What the handler has still to do. -/
  stages : List (Stage σ)
  ending : Ending

/-- Where a worker is in its loop. -/
inductive Phase (σ : Type) where
  /-- It waits for its next tick. -/
  | waiting
  /-- It has claimed a job and has not reported about it. -/
  | holding (task : Task σ)
  /-- It has left the crew. -/
  | left
  /-- A call to the backend broke off and took it down. -/
  | crashed

/-- A worker of a crew. -/
structure Worker (σ : Type) where
  name : String
  /-- When the next tick is due, in milliseconds since the pool was set up. -/
  deadline : Nat
  phase : Phase σ

/-- A handler as it is registered: its runs are counted under a number of its own. -/
structure Registration (σ : Type) where
  serial : Nat
  handler : Handler σ

/-- The workers of one run of a queue. -/
structure Crew (σ : Type) where
  /-- The number of the token that the run was started with. -/
  token : Nat
  /-- Whether the crew was told to shut down. -/
  signalled : Bool
  duty : Duty (Registration σ)
  workers : List (Worker σ)

/-- A crew, if there is one, and the world in which it works. -/
structure Pool (σ : Type) where
  state : σ
  clock : Instant
  /-- The milliseconds that have passed since the pool was set up. -/
  elapsed : Nat := 0
  crew : Option (Crew σ) := none
  /-- How often each registered handler ran. -/
  runs : List (Nat × Nat) := []
  notes : List Note := []

namespace Worker

variable {σ : Type}

/-- How late a tick may be without moving those that follow it. -/
def toleranceMillis : Nat := 5

/-- When the next tick is due after one that was due at `deadline` and happens at `now`. -/
def nextDeadline (deadline now period : Nat) : Nat :=
  if deadline + toleranceMillis < now then now + period else deadline + period

/-- Whether a worker is done for good. -/
def isGone (w : Worker σ) : Bool :=
  match w.phase with
  | .left | .crashed => true
  | .waiting | .holding _ => false

/-- Whether a worker went down with a call to the backend. -/
def hasCrashed (w : Worker σ) : Bool :=
  match w.phase with
  | .crashed => true
  | _ => false

end Worker

namespace Pool

variable {σ : Type}

/-! ### Small steps -/

/-- The crew with the worker of an index. -/
def worker? (p : Pool σ) (i : Nat) : Option (Crew σ × Worker σ) := do
  let crew ← p.crew
  let worker ← crew.workers[i]?
  return (crew, worker)

/-- Puts a worker in its place. -/
def setWorker (p : Pool σ) (i : Nat) (w : Worker σ) : Pool σ :=
  { p with crew := p.crew.map fun c => { c with workers := c.workers.set i w } }

/-- How often a handler ran. -/
def runsOf (p : Pool σ) (serial : Nat) : Nat :=
  ((p.runs.find? fun r => r.1 = serial).map Prod.snd).getD 0

/-- Counts a run of a handler. -/
def countRun (p : Pool σ) (serial : Nat) : Pool σ :=
  let n := p.runsOf serial
  { p with runs := (serial, n + 1) :: p.runs.filter fun r => r.1 ≠ serial }

/-- The task of a job that was just claimed. -/
def begin (p : Pool σ) (duty : Duty (Registration σ)) (worker : String) (job : Job) :
    Task σ × Pool σ :=
  match duty.registry.get? job.type with
  | none => (⟨job, p.elapsed, p.elapsed, [], .unhandled job.type⟩, p)
  | some r =>
    let course := r.handler (p.runsOf r.serial) (job.context worker) job.payloadText
    (⟨job, p.elapsed, p.elapsed, course.stages, course.ending⟩, p.countRun r.serial)

/-- A waiting worker claims a job. -/
def tick (b : Backend σ) (i : Nat) (p : Pool σ) : Pool σ :=
  match p.worker? i with
  | some (crew, w@{ phase := .waiting, .. }) =>
    let w := { w with deadline := Worker.nextDeadline w.deadline p.elapsed crew.duty.periodMillis }
    match Worker.claim b crew.duty w.name p.clock p.state with
    | (.error _, state) => { p with state }.setWorker i { w with phase := .crashed }
    | (.ok none, state) => { p with state }.setWorker i w
    | (.ok (some job), state) =>
      let (task, p) := { p with state }.begin crew.duty w.name job
      p.setWorker i { w with phase := .holding task }
  | _ => p

/-- Runs stages until one of them has to wait; gives the time at which the rest goes on. -/
def runStages (signalled : Bool) (context : Context) (payload : String) :
    List (Stage σ) → Pool σ → (Nat × List (Stage σ)) × Pool σ
  | [], p => ((p.elapsed, []), p)
  | .note :: rest, p =>
    runStages signalled context payload rest
      { p with notes := p.notes ++ [⟨p.clock, context, payload, signalled⟩] }
  | .act change :: rest, p =>
    runStages signalled context payload rest { p with state := change p.clock p.state }
  | .sleep millis :: rest, p => ((p.elapsed + millis, rest), p)
  | .awaitShutdown :: rest, p =>
    if signalled then runStages signalled context payload rest p
    else ((p.elapsed, .awaitShutdown :: rest), p)

/-- The handler of a worker goes on as far as it can. -/
def resume (i : Nat) (p : Pool σ) : Pool σ :=
  match p.worker? i with
  | some (crew, w@{ phase := .holding task, .. }) =>
    if task.resumesAt ≤ p.elapsed then
      let ((resumesAt, stages), p) :=
        runStages crew.signalled (task.job.context w.name) task.job.payloadText task.stages p
      p.setWorker i { w with phase := .holding { task with resumesAt, stages } }
    else p
  | _ => p

/-- A worker whose handler is through reports and waits for its next tick. -/
def report (b : Backend σ) (i : Nat) (p : Pool σ) : Pool σ :=
  match p.worker? i with
  | some (crew, w@{ phase := .holding task, .. }) =>
    if task.stages.isEmpty ∧ task.resumesAt ≤ p.elapsed then
      match Worker.report b crew.duty task.job task.ending (p.elapsed - task.began) p.clock
          p.state with
      | (.error _, state) => { p with state }.setWorker i { w with phase := .crashed }
      | (.ok (), state) => { p with state }.setWorker i { w with phase := .waiting }
    else p
  | _ => p

/-- A waiting worker of a crew that was told to shut down leaves. -/
def leave (i : Nat) (p : Pool σ) : Pool σ :=
  match p.worker? i with
  | some (crew, w@{ phase := .waiting, .. }) =>
    if crew.signalled then p.setWorker i { w with phase := .left } else p
  | _ => p

/-- Tells the crew to shut down. -/
def signal (p : Pool σ) : Pool σ :=
  { p with crew := p.crew.map fun c => { c with signalled := true } }

/-- Lets a number of milliseconds pass. -/
def pass (p : Pool σ) (millis : Nat) : Pool σ :=
  { p with elapsed := p.elapsed + millis, clock := p.clock.after (.ofMillis millis) }

/-! ### Keeping to the clock -/

/-- When a worker can do its next step, if it does not have to wait for a signal. -/
def nextStep? (p : Pool σ) (crew : Crew σ) (w : Worker σ) : Option Nat :=
  match w.phase with
  | .waiting => some (if crew.signalled then p.elapsed else max w.deadline p.elapsed)
  | .holding task =>
    match task.stages with
    | .awaitShutdown :: _ =>
      if p.elapsed < task.resumesAt then some task.resumesAt
      else if crew.signalled then some p.elapsed
      else none
    | _ => some (max task.resumesAt p.elapsed)
  | .left | .crashed => none

/-- When the next step of any worker is due. -/
def nextDue? (p : Pool σ) : Option Nat :=
  match p.crew with
  | some crew => (crew.workers.filterMap (p.nextStep? crew)).min?
  | none => none

/-- A worker whose tick is due takes it, or leaves if it was told to. -/
def take (b : Backend σ) (i : Nat) (p : Pool σ) : Pool σ :=
  match p.worker? i with
  | some (crew, w) =>
    if crew.signalled then p.leave i
    else if w.deadline ≤ p.elapsed then p.tick b i
    else p
  | none => p

/-- The number of workers. -/
def size (p : Pool σ) : Nat := (p.crew.map fun c => c.workers.length).getD 0

/-- The workers one after the other do one kind of step. -/
def each (p : Pool σ) (step : Nat → Pool σ → Pool σ) : Pool σ :=
  (List.range p.size).foldl (fun p i => step i p) p

/-- What happens at the present moment: all due workers take their ticks, then all handlers go on,
then all of them that are through are reported. -/
def round (b : Backend σ) (p : Pool σ) : Pool σ :=
  ((p.each (take b)).each resume).each (report b)

/-- Lets the workers work until a time, or until none of them has anything left to do. What is due
at that very time is left for later. The fuel bounds the number of rounds. -/
def drive (b : Backend σ) (until? : Option Nat) : (fuel : Nat) → Pool σ → Pool σ
  | 0, p => p
  | fuel + 1, p =>
    match p.nextDue? with
    | none => p
    | some due =>
      if until?.any fun limit => decide (limit ≤ due) then p
      else drive b until? fuel ((p.pass (due - p.elapsed)).round b)

/-- How many rounds one moment may take. A worker takes at most six ticks in it: its deadline lags
at most `Worker.toleranceMillis` behind and moves on by at least one with each of them. That
leaves ten rounds to each tick, and a handler needs one more for each sleep of no length. -/
def roundsPerMoment : Nat := 60

/-- Lets the workers work for a number of milliseconds. -/
def work (b : Backend σ) (millis : Nat) (p : Pool σ) : Pool σ :=
  let limit := p.elapsed + millis
  let p := p.drive b (some limit) (roundsPerMoment * (millis + 1))
  p.pass (limit - p.elapsed)

/-- How many steps a worker has left when it takes no more jobs. -/
def stepsLeft (w : Worker σ) : Nat :=
  match w.phase with
  | .holding task => task.stages.length + 3
  | _ => 1

/-- Tells the crew to shut down and waits until all of its workers are gone. -/
def finish (b : Backend σ) (p : Pool σ) : Pool σ :=
  let p := p.signal
  p.drive b none (((p.crew.map fun c => c.workers.foldr (fun w n => stepsLeft w + n) 0).getD 0) + 1)

end Pool

end LeaseQueue
