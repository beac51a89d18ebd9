import LeaseQueue.Filter.Basic
import LeaseQueue.Job.Move

/-!
# Stores

A store keeps the jobs in the order in which they were put in, and the ledger of statistics.  Every
operation takes the time at which it happens and gives the store it leaves.
-/

namespace LeaseQueue

/-- Why a store refuses an operation. -/
inductive StoreError where
  | jobNotFound (id : Ident)
  | duplicateJob (id : Ident)
  | invalid (reason : Invalid)
  /-- A document could not be encoded or decoded. -/
  | codec (message : String)
  /-- The database said no. -/
  | database (message : String)
  | badState
  deriving DecidableEq

/-- The reason in a sentence. -/
def StoreError.message : StoreError → String
  | .jobNotFound id => "job not found: " ++ id.text
  | .duplicateJob id => "job already exists: " ++ id.text
  | .invalid reason => "invalid job: " ++ reason.message
  | .codec message => "error encoding or decoding job data: " ++ message
  | .database message => "error communicating with the database: " ++ message
  | .badState => "system in bad state"

/-- Jobs, oldest first, and the statistics of what happened to them. -/
structure Store where
  jobs : List Job := []
  ledger : Ledger := []

namespace Job

/-- Whether a worker takes this job rather than the other when both are at hand and the other came
earlier: it is more urgent, or as urgent and due earlier. -/
def precedes (j other : Job) : Bool :=
  decide (other.priority < j.priority) ||
    (decide (j.priority = other.priority) && decide (j.scheduledAt < other.scheduledAt))

/-- The job that a worker takes from a list: the most urgent one, among those the one due first,
among those the one that came first. -/
def foremost? : List Job → Option Job
  | [] => none
  | j :: js =>
    match foremost? js with
    | none => some j
    | some k => if k.precedes j then some k else some j

end Job

namespace Store

/-- The store of a queue that was never used. -/
def empty : Store := {}

instance : Inhabited Store := ⟨empty⟩

/-! ### Looking at a store -/

/-- The job of an identifier. -/
def find? (s : Store) (id : Ident) : Option Job := s.jobs.find? fun j => decide (j.id = id)

/-- The statistics of a queue on a day. -/
def statsOn (s : Store) (queue : String) (date : Date) : Stats := s.ledger.on queue date

/-- The jobs that meet a condition, the newest first; jobs created at one instant keep their
order. -/
def select (s : Store) (f : Filter) : List Job :=
  (s.jobs.filter f.holds).mergeSort fun a b => decide (b.createdAt ≤ a.createdAt)

/-- The jobs of some queues that a worker may take. -/
def eligible (s : Store) (queues : List String) (now : Instant) : List Job :=
  s.jobs.filter fun j => queues.contains j.queue && j.isClaimable now

/-! ### Changing a store -/

/-- Changes the job of an identifier. Identifiers are distinct, so no other job changes. -/
def update (s : Store) (id : Ident) (change : Job → Job) : Store :=
  { s with jobs := s.jobs.map fun j => if j.id = id then change j else j }

/-- Adds an event to the statistics. -/
def record (s : Store) (queue : String) (now : Instant) (d : Stats.Delta) : Store :=
  { s with ledger := s.ledger.record queue now.date d }

/-- Puts a job in; `fresh` becomes its identifier if it brings none. -/
def enqueue (s : Store) (now : Instant) (fresh : Ident) (submission : Submission) :
    Except StoreError Ident × Store :=
  match submission.toJob fresh now with
  | .error reason => (.error (.invalid reason), s)
  | .ok job =>
    if (s.find? job.id).isSome then (.error (.duplicateJob job.id), s)
    else
      (.ok job.id, { s.record job.queue now .ofEnqueue with jobs := s.jobs ++ [job] })

/-- Hands the foremost eligible job of some queues to a worker for the length of a lease. -/
def claim (s : Store) (now : Instant) (worker : String) (queues : List String) (lease : Span) :
    Option Job × Store :=
  match Job.foremost? (s.eligible queues now) with
  | none => (none, s)
  | some job =>
    (some (job.leased worker lease now), s.update job.id fun j => j.leased worker lease now)

/-- Moves a job, if the move applies to it, and counts it. -/
def move (s : Store) (now : Instant) (id : Ident) (m : Move) :
    Except StoreError Transition × Store :=
  match s.find? id with
  | none => (.error (.jobNotFound id), s)
  | some job =>
    if m.allowed job then
      let moved := s.update id (m.apply now)
      match m.delta? now job with
      | some d => (.ok .applied, moved.record job.queue now d)
      | none => (.ok .applied, moved)
    else
      (.ok (.skipped job.status), s)

end Store

end LeaseQueue
