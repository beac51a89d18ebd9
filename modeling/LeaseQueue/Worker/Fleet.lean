import LeaseQueue.Store.Run
import LeaseQueue.Worker.Tick

/-!
# Fleets

A fleet is a number of workers that share a store.  They meet nowhere else, so what a fleet does is
an interleaving of turns: a worker claims a job or reports about the one it runs, a producer puts a
job in, someone cancels one.  Between claim and report a worker keeps the job as it was when
claimed, and decides by that what to report.  The fleet keeps a log of its turns.
-/

namespace LeaseQueue

/-- A job that a worker runs, as it was when claimed, and what the worker goes by. -/
structure Holding (η : Type) where
  job : Job
  duty : Duty η

namespace Holding

variable {η : Type}

/-- Whether the job has a handler, so that one runs. -/
def isHandled (h : Holding η) : Bool := (h.duty.registry.get? h.job.type).isSome

/-- The report about a job whose handler, if it has one, came out as given. -/
def report (h : Holding η) (outcome : Ending) (millis : Nat) (now : Instant) : Move :=
  let finish := Worker.finish h.duty (fun _ _ => ⟨outcome, millis, now⟩) h.job now
  Worker.verdict h.duty.backoff h.job finish.ending finish.millis finish.instant

end Holding

/-- What can happen in a fleet with workers `ω`. -/
inductive Turn (ω η : Type) where
  /-- A worker that runs nothing claims a job. -/
  | claim (w : ω) (duty : Duty η)
  /-- A worker reports about the job that it runs. -/
  | report (w : ω) (outcome : Ending) (millis : Nat)
  | enqueue (fresh : Ident) (submission : Submission)
  | cancel (id : Ident)

/-- The worker whose turn it is. -/
def Turn.worker? {ω η : Type} : Turn ω η → Option ω
  | claim w _ | report w _ _ => some w
  | enqueue _ _ | cancel _ => none

/-- A turn that was taken, and what the store replied. -/
structure Entry (ω η : Type) where
  now : Instant
  turn : Turn ω η
  reply : Reply

/-- Workers on one store. -/
structure Fleet (ω η : Type) where
  /-- The name under which a worker claims. -/
  name : ω → String
  store : Store := .empty
  /-- What each worker runs. -/
  held : ω → Option (Holding η) := fun _ => none
  /-- The turns so far, oldest first. -/
  log : List (Entry ω η) := []

namespace Fleet

variable {ω η : Type}

/-- What a turn asks of the store. A worker claims only when it runs nothing, and reports only about
what it runs. -/
def operation? (f : Fleet ω η) (now : Instant) : Turn ω η → Option Operation
  | .claim w duty =>
    match f.held w with
    | none => some (.claim (f.name w) duty.queues duty.lease)
    | some _ => none
  | .report w outcome millis => (f.held w).map fun h => .move h.job.id (h.report outcome millis now)
  | .enqueue fresh submission => some (.enqueue fresh submission)
  | .cancel id => some (.move id .cancel)

/-- What a turn leaves its worker with: a claim that brings a job leaves it with that. -/
def holding? : Turn ω η → Reply → Option (Holding η)
  | .claim _ duty, .claimed (some job) => some ⟨job, duty⟩
  | _, _ => none

variable [DecidableEq ω]

/-- A turn at a time; nothing happens if its worker is not ready for it. -/
def take (f : Fleet ω η) (now : Instant) (turn : Turn ω η) : Fleet ω η :=
  match f.operation? now turn with
  | none => f
  | some op =>
    let r := f.store.step now op
    { f with
      store := r.2
      held := fun v => if turn.worker? = some v then holding? turn r.1 else f.held v
      log := f.log ++ [⟨now, turn, r.1⟩] }

/-- Turns one after the other. -/
def run (f : Fleet ω η) (turns : List (Instant × Turn ω η)) : Fleet ω η :=
  turns.foldl (fun f x => f.take x.1 x.2) f

end Fleet

/-! ### Handlers -/

/-- What the handler that starts with a turn is told, if one starts. -/
def Entry.context? {ω η : Type} (name : ω → String) (e : Entry ω η) : Option Context :=
  match e.turn.worker?, Fleet.holding? e.turn e.reply with
  | some w, some h => if h.isHandled then some (h.job.context (name w)) else none
  | _, _ => none

/-- The attempts for which the handler of a job was run, in their order. -/
def Fleet.attempts {ω η : Type} (f : Fleet ω η) (id : Ident) : List Nat :=
  (f.log.filterMap (Entry.context? f.name)).filterMap fun c =>
    if c.id = id then some c.attempt.toNat else none

end LeaseQueue
