import LeaseQueue.Proofs.Store.Coherent

/-!
# Traces

A run is told again as the list of its events: each is an operation with the time at which it
happened and the store that it found.  What an event did to a given job, if anything, is a *deed*,
read off the operation and the reply that it got; the deeds done to one job in the course of a run
are the *history* of that job.  Operations on other jobs, refused or skipped operations and claims
that come back empty leave no mark on it.
-/

namespace LeaseQueue

/-- What an operation did to a job. -/
inductive Deed where
  /-- The job was put in. -/
  | enqueued (submission : Submission)
  /-- The job was handed out under a lease, as the given record. -/
  | handed (lease : Span) (job : Job)
  /-- The job was moved. -/
  | moved (m : Move)

/-- Deeds in the order in which they were done, with their times. -/
abbrev History := List (Instant × Deed)

/-- What an operation that got a reply did to the job of an identifier. -/
def Operation.deed? (op : Operation) (reply : Reply) (id : Ident) : Option Deed :=
  match op, reply with
  | .enqueue _ submission, .enqueued i => if i = id then some (.enqueued submission) else none
  | .claim _ _ lease, .claimed (some job) => if job.id = id then some (.handed lease job) else none
  | .move i m, .moved .applied => if i = id then some (.moved m) else none
  | _, _ => none

/-- An operation whose reply reports no change did nothing to any job. -/
lemma Operation.deed?_of_isIdle {op : Operation} {reply : Reply} (h : reply.isIdle = true)
    (id : Ident) : op.deed? reply id = none := by
  unfold deed?
  split
  · exact absurd h Bool.false_ne_true
  · exact absurd h Bool.false_ne_true
  · exact absurd h Bool.false_ne_true
  · rfl

namespace Operation

/-- Putting a job in does nothing else. -/
lemma eq_of_deed?_enqueue {fresh : Ident} {submission : Submission} {reply : Reply} {id : Ident}
    {d : Deed} (h : (enqueue fresh submission).deed? reply id = some d) :
    d = .enqueued submission := by
  unfold deed? at h
  cases reply <;> simp at h
  exact h.2.symm

/-- A claim does something to a job when it hands the job out. -/
lemma eq_of_deed?_claim {worker : String} {queues : List String} {lease : Span} {reply : Reply}
    {id : Ident} {d : Deed} (h : (claim worker queues lease).deed? reply id = some d) :
    ∃ job : Job, reply = .claimed (some job) ∧ job.id = id ∧ d = .handed lease job := by
  unfold deed? at h
  split at h <;> simp_all

/-- A claim that does nothing to a job hands out another one. -/
lemma id_ne_of_deed?_claim {worker : String} {queues : List String} {lease : Span} {job : Job}
    {id : Ident} (h : (claim worker queues lease).deed? (.claimed (some job)) id = none) :
    job.id ≠ id := by
  intro hid
  rw [deed?, if_pos hid] at h
  cases h

/-- A move does something to the job that it names, when it applies. -/
lemma eq_of_deed?_move {i id : Ident} {m : Move} {reply : Reply} {d : Deed}
    (h : (move i m).deed? reply id = some d) :
    i = id ∧ reply = .moved .applied ∧ d = .moved m := by
  unfold deed? at h
  split at h <;> simp_all

end Operation

/-- An operation on a store at a time. -/
structure Event where
  before : Store
  now : Instant
  op : Operation

namespace Event

/-- The reply that an event gets. -/
def reply (e : Event) : Reply := (e.before.step e.now e.op).1

/-- What an event did to the job of an identifier. -/
def deed? (e : Event) (id : Ident) : Option Deed := e.op.deed? e.reply id

end Event

/-- The history of the job of an identifier in a list of events. -/
def historyOf (events : List Event) (id : Ident) : History :=
  events.filterMap fun e => (e.deed? id).map fun d => (e.now, d)

namespace Store

/-- The events of a run. -/
def trace : Store → List (Instant × Operation) → List Event
  | _, [] => []
  | s, (now, op) :: ops => ⟨s, now, op⟩ :: (s.step now op).2.trace ops

/-- The history of the job of an identifier in a run. -/
def history (s : Store) (ops : List (Instant × Operation)) (id : Ident) : History :=
  historyOf (s.trace ops) id

/-- The events of a run get the replies of the run. -/
theorem map_reply_trace (s : Store) (ops : List (Instant × Operation)) :
    (s.trace ops).map Event.reply = (s.run ops).1 := by
  induction ops generalizing s with
  | nil => rfl
  | cons head rest ih =>
    have htail := ih (s.step head.1 head.2).2
    simp only [trace, run, List.map_cons, htail]
    rfl

/-- The events of two runs in a row. -/
lemma trace_append (s : Store) (ops more : List (Instant × Operation)) :
    s.trace (ops ++ more) = s.trace ops ++ (s.run ops).2.trace more := by
  induction ops generalizing s with
  | nil => rfl
  | cons head rest ih =>
    have htail := ih (s.step head.1 head.2).2
    simp only [List.cons_append, trace, htail]
    rfl

/-- A history begins with what its first event did, if that did anything. -/
lemma history_cons (s : Store) (now : Instant) (op : Operation)
    (ops : List (Instant × Operation)) (id : Ident) :
    s.history ((now, op) :: ops) id =
      ((Event.mk s now op).deed? id).toList.map (fun d => (now, d)) ++
        (s.step now op).2.history ops id := by
  unfold history historyOf
  simp only [trace, List.filterMap_cons]
  cases (Event.mk s now op).deed? id <;> rfl

end Store

end LeaseQueue
