import LeaseQueue.Store.Basic

/-!
# Runs of a store

Operations are data here, each with the time at which it happens, and a run of them gives the
replies.
-/

namespace LeaseQueue

/-- What can be asked of a store. -/
inductive Operation where
  | enqueue (fresh : Ident) (submission : Submission)
  | claim (worker : String) (queues : List String) (lease : Span)
  | move (id : Ident) (m : Move)
  | get (id : Ident)
  | stats (queue : String) (date : Date)
  | select (f : Filter)

/-- What a store answers. -/
inductive Reply where
  | enqueued (id : Ident)
  | claimed (job : Option Job)
  | moved (t : Transition)
  | found (job : Option Job)
  | stats (s : Stats)
  | selected (jobs : List Job)
  | refused (e : StoreError)

namespace Store

/-- The reply to an operation, and the store it leaves. -/
def step (s : Store) (now : Instant) : Operation → Reply × Store
  | .enqueue fresh submission =>
    match s.enqueue now fresh submission with
    | (.ok id, s) => (.enqueued id, s)
    | (.error e, s) => (.refused e, s)
  | .claim worker queues lease =>
    let r := s.claim now worker queues lease
    (.claimed r.1, r.2)
  | .move id m =>
    match s.move now id m with
    | (.ok t, s) => (.moved t, s)
    | (.error e, s) => (.refused e, s)
  | .get id => (.found (s.find? id), s)
  | .stats queue date => (.stats (s.statsOn queue date), s)
  | .select f => (.selected (s.select f), s)

/-- The replies to operations one after the other, and the store they leave. -/
def run : Store → List (Instant × Operation) → List Reply × Store
  | s, [] => ([], s)
  | s, (now, op) :: ops =>
    let r := s.step now op
    let rs := run r.2 ops
    (r.1 :: rs.1, rs.2)

/-- The stores that operations on an empty one lead to. -/
def Reachable (s : Store) : Prop := ∃ ops, (empty.run ops).2 = s

end Store

end LeaseQueue
