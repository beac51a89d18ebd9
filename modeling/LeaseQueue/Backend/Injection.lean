import LeaseQueue.Backend.Basic

/-!
# Fault injection

A backend can stand in front of another one and let planned calls fail before they reach it.
-/

namespace LeaseQueue

/-- The kinds of calls to a backend. -/
inductive CallKind where
  | enqueue
  | claim
  | complete
  | fail
  | retry
  | cancel
  | get
  | stats
  | query
  deriving DecidableEq

namespace CallKind

/-- The kind of the call that moves a job. -/
def ofMove : Move → CallKind
  | .complete _ => complete
  | .fail _ => fail
  | .retry _ => retry
  | .cancel => cancel

/-- All kinds of calls. -/
def every : List CallKind :=
  [enqueue, claim, complete, fail, retry, cancel, get, stats, query]

/-- The name of a kind of call. -/
def name : CallKind → String
  | enqueue => "enqueue"
  | claim => "claim"
  | complete => "complete"
  | fail => "fail"
  | retry => "retry"
  | cancel => "cancel"
  | get => "get"
  | stats => "stats"
  | query => "query"

/-- The kind of call of a name. -/
def ofName? (s : String) : Option CallKind := every.find? fun c => c.name = s

/-- What a call does, as messages say it. -/
def describe : CallKind → String
  | enqueue => "enqueue job"
  | claim => "claim job"
  | complete => "complete job"
  | fail => "fail job"
  | retry => "retry job"
  | cancel => "cancel job"
  | get => "get job"
  | stats => "get queue stats"
  | query => "query jobs"

end CallKind

/-- A state with the faults that are planned for it, for each kind of call in order. -/
structure Injected (σ : Type) where
  inner : σ
  planned : List (CallKind × Fault) := []

namespace Injected

/-- The first planned fault of a kind of call, and the plan without it. -/
def next? (kind : CallKind) :
    List (CallKind × Fault) → Option (Fault × List (CallKind × Fault))
  | [] => none
  | p :: ps =>
    if p.1 = kind then some (p.2, ps)
    else (next? kind ps).map fun r => (r.1, p :: r.2)

/-- Plans a fault for the next calls of a kind. -/
def plan {σ : Type} (s : Injected σ) (kind : CallKind) (fault : Fault) (times : Nat) :
    Injected σ :=
  { s with planned := s.planned ++ List.replicate times (kind, fault) }

/-- A call, unless a fault is planned for its kind. -/
def guarded {σ α : Type} (kind : CallKind) (call : Call σ α) : Call (Injected σ) α := fun s =>
  match next? kind s.planned with
  | some (fault, rest) => (.error fault, { s with planned := rest })
  | none =>
    let r := call s.inner
    (r.1, { s with inner := r.2 })

end Injected

/-- A backend behind fault injection. -/
def Backend.injected {σ : Type} (b : Backend σ) : Backend (Injected σ) where
  enqueue now fresh submission := Injected.guarded .enqueue (b.enqueue now fresh submission)
  claim now worker queues lease := Injected.guarded .claim (b.claim now worker queues lease)
  move now id m := Injected.guarded (.ofMove m) (b.move now id m)
  get id := Injected.guarded .get (b.get id)
  stats queue date := Injected.guarded .stats (b.stats queue date)
  select f := Injected.guarded .query (b.select f)

end LeaseQueue
