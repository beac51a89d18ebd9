import LeaseQueue.Proofs.Store.Lookup

/-!
# What an operation can do to a store

`Store.Outcome` lists the ways in which an operation can end: a job is put in, a job is handed out,
a job is moved, or nothing changes.  `Store.step_outcome` says that every operation ends in one of
them.  Everything that is proved about all operations, or about runs of them, goes through these
four cases, and through the induction along runs at the end of the file.
-/

namespace LeaseQueue

namespace Submission

/-- A submission becomes a job exactly when it passes its checks. -/
lemma toJob_eq_ok_iff {s : Submission} {fresh : Ident} {now : Instant} {job : Job} :
    s.toJob fresh now = .ok job ↔ s.validate = .ok () ∧ job = s.pendingJob fresh now := by
  unfold toJob
  cases hvalid : s.validate with
  | error reason => simp [bind, Except.bind]
  | ok u => simp [bind, Except.bind, pure, Except.pure, eq_comm]

/-- A submission that fails a check does not become a job. -/
lemma toJob_of_invalid {s : Submission} {reason : Invalid} (h : s.validate = .error reason)
    (fresh : Ident) (now : Instant) : s.toJob fresh now = .error reason := by
  unfold toJob
  rw [h]
  rfl

/-- A submission that passes its checks allows for at least one attempt. -/
lemma one_le_maxAttempts {s : Submission} (h : s.validate = .ok ()) :
    1 ≤ s.maxAttempts.toNat := by
  unfold validate at h
  split_ifs at h with _ _ _ _ hzero
  have hne : s.maxAttempts.toNat ≠ 0 := fun h0 => hzero (UInt32.toNat_inj.1 h0)
  omega

end Submission

/-- A reply that reports no change: nothing was put in, handed out or moved. -/
def Reply.isIdle : Reply → Bool
  | .enqueued _ | .claimed (some _) | .moved .applied => false
  | _ => true

namespace Store

/-- A store after a job was put in. -/
def put (s : Store) (now : Instant) (job : Job) : Store :=
  { s.record job.queue now .ofEnqueue with jobs := s.jobs ++ [job] }

/-- A store after the job of an identifier was handed to a worker. -/
def hand (s : Store) (now : Instant) (worker : String) (lease : Span) (id : Ident) : Store :=
  s.update id fun j => j.leased worker lease now

/-- A store after the job of an identifier was moved; `job` is what it was before. -/
def settle (s : Store) (now : Instant) (id : Ident) (m : Move) (job : Job) : Store :=
  match m.delta? now job with
  | some d => (s.update id (m.apply now)).record job.queue now d
  | none => s.update id (m.apply now)

/-- A job that was put in is found behind the older ones. -/
lemma find?_put (s : Store) (now : Instant) (job : Job) (id : Ident) :
    (s.put now job).find? id = (s.find? id).or (if job.id = id then some job else none) := by
  unfold find? put
  rw [List.find?_append, List.find?_singleton]
  by_cases hid : job.id = id <;> simp [hid]

/-- Moving a job changes the jobs as `update` does, whether it is counted or not. -/
lemma settle_jobs (s : Store) (now : Instant) (id : Ident) (m : Move) (job : Job) :
    (s.settle now id m job).jobs = (s.update id (m.apply now)).jobs := by
  cases m <;> rfl

/-- Looking up after a move is looking up after the update. -/
lemma find?_settle (s : Store) (now : Instant) (id : Ident) (m : Move) (job : Job)
    (other : Ident) :
    (s.settle now id m job).find? other = (s.update id (m.apply now)).find? other := by
  cases m <;> rfl

/-! ### The operations, case by case -/

section Cases

variable {s : Store} {now : Instant}

/-- A submission that fails a check is refused for the first such check. -/
lemma enqueue_of_invalid {fresh : Ident} {submission : Submission} {reason : Invalid}
    (h : submission.validate = .error reason) :
    s.enqueue now fresh submission = (.error (.invalid reason), s) := by
  unfold enqueue
  rw [Submission.toJob_of_invalid h fresh now]

/-- A job whose identifier is in use is refused. -/
lemma enqueue_of_known {fresh : Ident} {submission : Submission}
    (hvalid : submission.validate = .ok ())
    (hknown : s.find? (submission.pendingJob fresh now).id ≠ none) :
    s.enqueue now fresh submission =
      (.error (.duplicateJob (submission.pendingJob fresh now).id), s) := by
  unfold enqueue
  rw [Submission.toJob_eq_ok_iff.2 ⟨hvalid, rfl⟩]
  exact if_pos (Option.isSome_iff_ne_none.2 hknown)

/-- A valid job with a new identifier is put in. -/
lemma enqueue_of_new {fresh : Ident} {submission : Submission}
    (hvalid : submission.validate = .ok ())
    (hnew : s.find? (submission.pendingJob fresh now).id = none) :
    s.enqueue now fresh submission =
      (.ok (submission.pendingJob fresh now).id, s.put now (submission.pendingJob fresh now)) := by
  unfold enqueue
  rw [Submission.toJob_eq_ok_iff.2 ⟨hvalid, rfl⟩]
  refine if_neg ?_
  rw [hnew]
  exact Bool.false_ne_true

/-- Without an eligible job nothing is handed out. -/
lemma claim_of_none {worker : String} {queues : List String} {lease : Span}
    (h : Job.foremost? (s.eligible queues now) = none) :
    s.claim now worker queues lease = (none, s) := by
  unfold claim
  rw [h]

/-- The foremost eligible job is handed out. -/
lemma claim_of_some {worker : String} {queues : List String} {lease : Span} {job : Job}
    (h : Job.foremost? (s.eligible queues now) = some job) :
    s.claim now worker queues lease =
      (some (job.leased worker lease now), s.hand now worker lease job.id) := by
  unfold claim
  rw [h]
  rfl

/-- No move finds an unknown job. -/
lemma move_of_unknown {id : Ident} {m : Move} (h : s.find? id = none) :
    s.move now id m = (.error (.jobNotFound id), s) := by
  unfold move
  rw [h]

/-- A move that does not apply is skipped. -/
lemma move_of_not_allowed {id : Ident} {m : Move} {job : Job} (hfound : s.find? id = some job)
    (hallowed : m.allowed job = false) :
    s.move now id m = (.ok (.skipped job.status), s) := by
  unfold move
  rw [hfound]
  simp only [hallowed, Bool.false_eq_true, if_false]

/-- A move that applies is made. -/
lemma move_of_allowed {id : Ident} {m : Move} {job : Job} (hfound : s.find? id = some job)
    (hallowed : m.allowed job = true) :
    s.move now id m = (.ok .applied, s.settle now id m job) := by
  unfold move settle
  rw [hfound]
  simp only [hallowed, if_true]
  cases m.delta? now job <;> rfl

end Cases

/-- The ways in which an operation on a store can end: the reply, and the store it leaves. -/
inductive Outcome (s : Store) (now : Instant) : Operation → Reply → Store → Prop
  | enqueued {fresh : Ident} {submission : Submission} (hvalid : submission.validate = .ok ())
      (hnew : s.find? (submission.pendingJob fresh now).id = none) :
      Outcome s now (.enqueue fresh submission) (.enqueued (submission.pendingJob fresh now).id)
        (s.put now (submission.pendingJob fresh now))
  | claimed {worker : String} {queues : List String} {lease : Span} {job : Job}
      (hforemost : Job.foremost? (s.eligible queues now) = some job) :
      Outcome s now (.claim worker queues lease) (.claimed (some (job.leased worker lease now)))
        (s.hand now worker lease job.id)
  | moved {id : Ident} {m : Move} {job : Job} (hfound : s.find? id = some job)
      (hallowed : m.allowed job = true) :
      Outcome s now (.move id m) (.moved .applied) (s.settle now id m job)
  | kept {op : Operation} {reply : Reply} (hidle : reply.isIdle = true) : Outcome s now op reply s

/-- Every operation ends in one of the listed ways. -/
theorem step_outcome (s : Store) (now : Instant) (op : Operation) :
    s.Outcome now op (s.step now op).1 (s.step now op).2 := by
  cases op with
  | enqueue fresh submission =>
    unfold step
    cases hvalid : submission.validate with
    | error reason =>
      simp only [enqueue_of_invalid hvalid]
      exact Outcome.kept rfl
    | ok u =>
      by_cases hnew : s.find? (submission.pendingJob fresh now).id = none
      · simp only [enqueue_of_new hvalid hnew]
        exact Outcome.enqueued hvalid hnew
      · simp only [enqueue_of_known hvalid hnew]
        exact Outcome.kept rfl
  | claim worker queues lease =>
    unfold step
    cases hforemost : Job.foremost? (s.eligible queues now) with
    | none =>
      simp only [claim_of_none hforemost]
      exact Outcome.kept rfl
    | some job =>
      simp only [claim_of_some hforemost]
      exact Outcome.claimed hforemost
  | move id m =>
    unfold step
    cases hfound : s.find? id with
    | none =>
      simp only [move_of_unknown hfound]
      exact Outcome.kept rfl
    | some job =>
      cases hallowed : m.allowed job with
      | true =>
        simp only [move_of_allowed hfound hallowed]
        exact Outcome.moved hfound hallowed
      | false =>
        simp only [move_of_not_allowed hfound hallowed]
        exact Outcome.kept rfl
  | get id => exact Outcome.kept rfl
  | stats queue date => exact Outcome.kept rfl
  | select f => exact Outcome.kept rfl

/-- A move that applies changes the job and says so. -/
lemma step_of_allowed {s : Store} {now : Instant} {id : Ident} {m : Move} {job : Job}
    (hfound : s.find? id = some job) (hallowed : m.allowed job = true) :
    (s.step now (.move id m)).1 = .moved .applied ∧
      (s.step now (.move id m)).2.find? id = some (m.apply now job) := by
  have hmove : s.move now id m = _ := move_of_allowed hfound hallowed
  refine ⟨?_, ?_⟩
  · simp only [step, hmove]
  · simp only [step, hmove]
    rw [find?_settle, find?_update s id id (Job.apply_id m now), if_pos rfl, hfound]
    rfl

/-- A move that does not apply is skipped and changes nothing. -/
lemma step_of_not_allowed {s : Store} {now : Instant} {id : Ident} {m : Move} {job : Job}
    (hfound : s.find? id = some job) (hallowed : m.allowed job = false) :
    s.step now (.move id m) = (.moved (.skipped job.status), s) := by
  unfold step
  simp only [move_of_not_allowed hfound hallowed]

/-- What a claim brings is the foremost eligible job, leased. -/
lemma exists_of_claimed {s : Store} {now : Instant} {worker : String} {queues : List String}
    {lease : Span} {job : Job}
    (h : (s.step now (.claim worker queues lease)).1 = .claimed (some job)) :
    ∃ j, Job.foremost? (s.eligible queues now) = some j ∧ job = j.leased worker lease now := by
  have houtcome := step_outcome s now (.claim worker queues lease)
  rw [h] at houtcome
  generalize (s.step now (.claim worker queues lease)).2 = t at houtcome
  cases houtcome with
  | claimed hforemost => exact ⟨_, hforemost, rfl⟩
  | kept hidle => cases hidle

/-- A job that was handed out carries the name of the worker that asked for one. -/
lemma worker_of_claimed {s : Store} {now : Instant} {worker : String} {queues : List String}
    {lease : Span} {job : Job}
    (h : (s.step now (.claim worker queues lease)).1 = .claimed (some job)) :
    job.worker = some worker := by
  obtain ⟨j, -, rfl⟩ := exists_of_claimed h
  rfl

/-- What is left after an operation that puts a job in. -/
lemma step_enqueue_snd (s : Store) (now : Instant) (fresh : Ident) (submission : Submission) :
    (s.step now (.enqueue fresh submission)).2 = (s.enqueue now fresh submission).2 := by
  obtain ⟨answer, t, hr⟩ : ∃ answer t, s.enqueue now fresh submission = (answer, t) := ⟨_, _, rfl⟩
  simp only [step, hr]
  cases answer <;> rfl

/-- What is left after an operation that moves a job. -/
lemma step_move_snd (s : Store) (now : Instant) (id : Ident) (m : Move) :
    (s.step now (.move id m)).2 = (s.move now id m).2 := by
  obtain ⟨answer, t, hr⟩ : ∃ answer t, s.move now id m = (answer, t) := ⟨_, _, rfl⟩
  simp only [step, hr]
  cases answer <;> rfl

/-- What is up for a claim is one of the jobs, in one of the queues, and can be claimed. -/
lemma of_mem_eligible {s : Store} {queues : List String} {now : Instant} {job : Job}
    (h : job ∈ s.eligible queues now) :
    job ∈ s.jobs ∧ job.queue ∈ queues ∧ job.isClaimable now = true := by
  unfold eligible at h
  simpa [and_assoc] using h

/-- What a worker takes is one of the jobs, in a queue it serves, and can be claimed. -/
lemma eligible_of_foremost? {s : Store} {queues : List String} {now : Instant} {job : Job}
    (h : Job.foremost? (s.eligible queues now) = some job) :
    job ∈ s.jobs ∧ job.queue ∈ queues ∧ job.isClaimable now = true :=
  of_mem_eligible (Job.mem_of_foremost? h)

/-! ### Runs -/

/-- The store after two runs in a row. -/
lemma run_append (s : Store) (ops more : List (Instant × Operation)) :
    (s.run (ops ++ more)).2 = ((s.run ops).2.run more).2 := by
  induction ops generalizing s with
  | nil => rfl
  | cons head rest ih => exact ih (s.step head.1 head.2).2

/-- What every operation preserves holds along a whole run. -/
lemma run_induction {P : Store → Prop} (hstep : ∀ s now op, P s → P (s.step now op).2)
    {s : Store} (hs : P s) (ops : List (Instant × Operation)) : P (s.run ops).2 := by
  induction ops generalizing s with
  | nil => exact hs
  | cons head rest ih => exact ih (hstep s head.1 head.2 hs)

end Store

end LeaseQueue
