import LeaseQueue.Handler.Executor
import LeaseQueue.Handler.Script
import LeaseQueue.Queue.Basic
import LeaseQueue.Worker.Pool

/-!
# Services

A service is a queue with its registry of handlers, its pool of workers, and the tokens through
which a run can be cancelled.  Whether there is a run is kept three times: as a flag that is raised
before the crew is put together, as the token of the run, and as the crew itself.  The crew of a
cancelled run stays until it is stopped or the queue is started again; in between the queue does not
count as running.
-/

namespace LeaseQueue

/-- A queue with all that it needs to run. -/
structure Service (σ : Type) where
  queue : Queue
  registry : Registry (Registration σ) := .empty
  /-- How many handlers were registered. -/
  registrations : Nat := 0
  pool : Pool σ
  /-- Whether a run was begun and not ended. -/
  running : Bool := false
  /-- The token of the run. -/
  shutdown : Option Nat := none
  /-- How many tokens were made; they are numbered from zero on. -/
  tokens : Nat := 0
  /-- The tokens that were cancelled. -/
  cancelled : List Nat := []
  /-- The token of the run that the manager started last, until it stops it. -/
  managed : Option Nat := none

namespace Service

variable {σ : Type}

/-- An idle queue with an empty registry. -/
def idle (queue : Queue) (state : σ) (clock : Instant) : Service σ where
  queue := queue
  pool := { state := state, clock := clock }

/-- Whether there is a run whose token was not cancelled. -/
def isRunning (s : Service σ) : Bool :=
  s.running && !s.shutdown.any fun token => s.cancelled.contains token

/-- Raises the flag of a run; says whether it was down. -/
def markRunning (s : Service σ) : Bool × Service σ :=
  if s.running then (false, s) else (true, { s with running := true })

/-- Changes the pool. -/
def onPool (s : Service σ) (change : Pool σ → Pool σ) : Service σ :=
  { s with pool := change s.pool }

/-! ### Handlers -/

/-- Registers a handler, which counts its runs from zero on. -/
def insert (s : Service σ) (type : String) (handler : Handler σ) : Service σ :=
  { s with
    registry := s.registry.register type ⟨s.registrations, handler⟩
    registrations := s.registrations + 1 }

/-- Registers a handler, unless the queue is running. -/
def register (s : Service σ) (type : String) (handler : Handler σ) :
    Except QueueError Unit × Service σ :=
  if s.isRunning then (.error .alreadyRunning, s) else (.ok (), s.insert type handler)

/-! ### Tokens -/

/-- A new token. -/
def newToken (s : Service σ) : Nat × Service σ := (s.tokens, { s with tokens := s.tokens + 1 })

/-- Cancels a token, and with it the crew that was started with it. -/
def cancelToken (s : Service σ) (token : Nat) : Service σ :=
  let s := { s with cancelled := token :: s.cancelled }
  if s.pool.crew.any fun c => c.token = token then s.onPool Pool.signal else s

/-! ### Starting and stopping -/

/-- Tells the crew to shut down, waits for it, and lets it go; then the run is ended, even if a
worker broke down. -/
def stop (b : Backend σ) (s : Service σ) : Except QueueError Unit × Service σ :=
  match s.pool.crew with
  | none => (.ok (), s)
  | some _ =>
    let pool := s.pool.finish b
    let failed := pool.crew.any fun c => c.workers.any Worker.hasCrashed
    (if failed then .error .ungracefulShutdown else .ok (),
      { s with pool := { pool with crew := none }, shutdown := none, running := false })

/-- The name of a worker: the configured prefix, the label of the run and its number. -/
def workerName (q : Queue) (label : String) (i : Nat) : String :=
  q.config.workerPrefix ++ "-" ++ label ++ "-" ++ toString i

/-- A crew of workers whose first ticks are due at once. It goes by the registry and the
configuration as they are now. -/
def crew (s : Service σ) (token : Nat) (label : String) (workers : Nat) : Crew σ where
  token := token
  signalled := s.cancelled.contains token
  duty :=
    { queues := s.queue.config.queues
      lease := s.queue.config.lease
      periodMillis := (s.queue.config.pollInterval.toMillis).toNat
      backoff := s.queue.backoff
      registry := s.registry }
  workers := (List.range workers).map fun i =>
    ⟨workerName s.queue label i, s.pool.elapsed, .waiting⟩

/-- Puts the crew of a run together. -/
def launch (s : Service σ) (token : Nat) (label : String) (workers : Nat) : Service σ :=
  { s with
    shutdown := some token
    pool := { s.pool with crew := some (s.crew token label workers) } }

/-- Starts a number of workers under a token; the label tells the runs of a queue apart. The crew
of a cancelled run is let go first, and if that fails the queue is left idle. -/
def start (b : Backend σ) (s : Service σ) (token : Nat) (label : String) (workers : Nat) :
    Except QueueError Unit × Service σ :=
  if workers = 0 then (.error (.invalid .noWorkers), s)
  else
    match s.markRunning with
    | (true, s) => (.ok (), s.launch token label workers)
    | (false, s) =>
      if s.isRunning then (.error .alreadyRunning, s)
      else
        match s.stop b with
        | (.error e, s) => (.error e, s)
        | (.ok (), s) =>
          match s.markRunning with
          | (true, s) => (.ok (), s.launch token label workers)
          | (false, s) => (.error .alreadyRunning, s)

/-! ### The manager's way of starting and stopping -/

/-- Starts workers under a token of its own. -/
def startManaged (b : Backend σ) (s : Service σ) (label : String) (workers : Nat) :
    Except QueueError Unit × Service σ :=
  let (token, s) := s.newToken
  match s.start b token label workers with
  | (.ok (), s) => (.ok (), { s with managed := some token })
  | (.error e, s) => (.error e, s)

/-- Cancels the token of the managed run, if there is one, and stops the queue. -/
def stopManaged (b : Backend σ) (s : Service σ) : Except QueueError Unit × Service σ :=
  match s.managed with
  | some token => { s.cancelToken token with managed := none }.stop b
  | none => s.stop b

/-! ### Time -/

/-- Sets the clock. The deadlines of workers and handlers do not move. -/
def setClock (s : Service σ) (now : Instant) : Service σ :=
  s.onPool fun p => { p with clock := now }

/-- Lets the workers work for a number of milliseconds. -/
def work (b : Backend σ) (millis : Nat) (s : Service σ) : Service σ :=
  s.onPool fun p => p.work b millis

/-! ### Calls -/

/-- Makes a call on the state of the backend, at the current time. -/
def perform {ε α : Type} (s : Service σ) (action : Instant → Action σ ε α) :
    Except ε α × Service σ :=
  let (answer, state) := action s.pool.clock s.pool.state
  (answer, s.onPool fun p => { p with state })

/-- The notes of handlers since they were last taken. -/
def takeNotes (s : Service σ) : List Note × Service σ :=
  (s.pool.notes, s.onPool fun p => { p with notes := [] })

end Service

end LeaseQueue
