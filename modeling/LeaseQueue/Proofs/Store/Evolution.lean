import LeaseQueue.Proofs.Store.Coherent

/-!
# How stored jobs change

`Job.Evolves` says what a single operation can make of a record, and `Store.Advances` what it can
make of the whole list: old jobs stay where they are and at most one of them changes, and at most
one job is added behind them, by an operation that reports it.  The main statement is that every
operation on a reachable store advances it in this sense, and that a finished job is never written
again.
-/

namespace LeaseQueue

/-- The statuses that a job of a status can be moved to. -/
def Status.successors : Status → List Status
  | .pending => [.processing, .failed, .cancelled]
  | .processing => [.completed, .failed, .cancelled, .pending]
  | .completed | .failed | .cancelled => []

namespace Job

/-- What one operation can make of a record: what was asked for stays, attempts are only added, the
status stays or follows an edge, and going back to pending costs an attempt.  A finished job is
kept as it is. -/
structure Evolves (j k : Job) : Prop where
  id_eq : k.id = j.id
  queue_eq : k.queue = j.queue
  type_eq : k.type = j.type
  payload_eq : k.payload = j.payload
  priority_eq : k.priority = j.priority
  maxAttempts_eq : k.maxAttempts = j.maxAttempts
  createdAt_eq : k.createdAt = j.createdAt
  organization_eq : k.organization = j.organization
  user_eq : k.user = j.user
  timeoutSeconds_eq : k.timeoutSeconds = j.timeoutSeconds
  metadata_eq : k.metadata = j.metadata
  attempts_le : j.attempts ≤ k.attempts
  status_mem : k.status = j.status ∨ k.status ∈ j.status.successors
  attempts_of_retried :
    j.status = .processing → k.status = .pending → k.attempts.toNat = j.attempts.toNat + 1
  eq_of_isTerminal : j.status.isTerminal = true → k = j

namespace Evolves

/-- Nothing happens to a record that is left alone. -/
lemma refl (j : Job) : j.Evolves j := by
  constructor <;> simp
  intro hprocessing hpending
  rw [hprocessing] at hpending
  exact absurd hpending (by decide)

variable {j : Job}

/-- What a lease makes of a record. -/
lemma leased {now : Instant} (hclaim : j.isClaimable now = true) (worker : String) (lease : Span) :
    j.Evolves (j.leased worker lease now) := by
  have hopen := isTerminal_of_isClaimable hclaim
  constructor <;> simp [Job.leased, hopen]
  cases hstatus : j.status <;> simp [hstatus, Status.isTerminal, Status.successors] at hopen ⊢

/-- What a move makes of a record. -/
lemma apply {m : Move} (hallowed : m.allowed j = true) (now : Instant) :
    j.Evolves (m.apply now j) := by
  have hopen := isTerminal_of_allowed hallowed
  cases m with
  | complete result =>
    have hstatus := processing_of_complete hallowed
    constructor <;> simp [Move.apply, released, hstatus, Status.successors, Status.isTerminal]
  | fail failure =>
    constructor <;> simp [Move.apply, released, hopen]
    cases hstatus : j.status <;> simp [hstatus, Status.isTerminal, Status.successors] at hopen ⊢
  | retry next =>
    obtain ⟨hsucc, hlt⟩ := attempts_succ_of_allowed hallowed
    have hmax := j.maxAttempts.toNat_lt
    have hstatus := processing_of_retry hallowed
    have hle : j.attempts ≤ j.attempts + 1 := by
      rw [UInt32.le_iff_toNat_le, hsucc]
      exact Nat.le_succ _
    constructor <;>
      simp [Move.apply, released, hstatus, Status.successors, Status.isTerminal, hle]
    omega
  | cancel =>
    constructor <;> simp [Move.apply, released, hopen]
    cases hstatus : j.status <;> simp [hstatus, Status.isTerminal, Status.successors] at hopen ⊢

end Evolves

end Job

namespace Store

/-- What one operation can make of the jobs of a store. -/
structure Advances (s : Store) (op : Operation) (reply : Reply) (t : Store) : Prop where
  /-- Old jobs keep their positions. -/
  old : ∀ (n : ℕ) (j : Job), s.jobs[n]? = some j → ∃ k, t.jobs[n]? = some k ∧ j.Evolves k
  /-- At most one job is added, and only where a job was put in. -/
  added : t.jobs.length = s.jobs.length ∨
    t.jobs.length = s.jobs.length + 1 ∧
      ∃ fresh submission id, op = .enqueue fresh submission ∧ reply = .enqueued id
  /-- At most one old job changes. -/
  changed : ∀ m < s.jobs.length, ∀ n < s.jobs.length,
    t.jobs[m]? ≠ s.jobs[m]? → t.jobs[n]? ≠ s.jobs[n]? → m = n

namespace Advances

variable {s : Store} {op : Operation} {reply : Reply}

/-- A store that is left alone. -/
lemma refl (s : Store) (op : Operation) (reply : Reply) : s.Advances op reply s where
  old _ j hj := ⟨j, hj, Job.Evolves.refl j⟩
  added := Or.inl rfl
  changed _ _ _ _ h := absurd rfl h

/-- A job behind the others leaves them alone. -/
lemma put (s : Store) (now : Instant) (job : Job) (fresh : Ident) (submission : Submission)
    (id : Ident) : s.Advances (.enqueue fresh submission) (.enqueued id) (s.put now job) := by
  have hold : ∀ n < s.jobs.length, (s.put now job).jobs[n]? = s.jobs[n]? := fun n hn =>
    List.getElem?_append_left hn
  constructor
  · intro n j hj
    obtain ⟨hn, -⟩ := List.getElem?_eq_some_iff.1 hj
    exact ⟨j, (hold n hn).trans hj, Job.Evolves.refl j⟩
  · right
    exact ⟨List.length_append, fresh, submission, id, rfl, rfl⟩
  · intro m hm _ _ h
    exact absurd (hold m hm) h

/-- A change to the job of one identifier is a change at one position. -/
lemma of_update (hs : s.Distinct) {id : Ident} {change : Job → Job} {t : Store}
    (ht : t.jobs = (s.update id change).jobs)
    (hchange : ∀ j ∈ s.jobs, j.id = id → j.Evolves (change j)) : s.Advances op reply t := by
  have hget : ∀ n : ℕ,
      t.jobs[n]? = s.jobs[n]?.map fun j => if j.id = id then change j else j := by
    intro n
    rw [ht]
    unfold update
    rw [List.getElem?_map]
  have hid : ∀ (n : ℕ) (j : Job), s.jobs[n]? = some j → t.jobs[n]? ≠ s.jobs[n]? → j.id = id := by
    intro n j hj h
    by_contra hne
    rw [hget, hj, Option.map_some, if_neg hne] at h
    exact h rfl
  constructor
  · intro n j hj
    refine ⟨if j.id = id then change j else j, by rw [hget, hj, Option.map_some], ?_⟩
    by_cases h : j.id = id
    · rw [if_pos h]
      exact hchange j (List.mem_of_getElem? hj) h
    · rw [if_neg h]
      exact Job.Evolves.refl j
  · left
    rw [ht]
    exact List.length_map _
  · intro m hm n hn hcm hcn
    have hidm := hid m s.jobs[m] (List.getElem?_eq_getElem hm) hcm
    have hidn := hid n s.jobs[n] (List.getElem?_eq_getElem hn) hcn
    have hnodup : s.jobs.Nodup := List.Nodup.of_map Job.id hs
    have heq := hs.eq_of_id_eq (List.getElem_mem hm) (List.getElem_mem hn) (hidm.trans hidn.symm)
    exact (List.Nodup.getElem_inj_iff hnodup).1 heq

end Advances

/-- Every operation on a coherent store advances it. -/
lemma step_advances {s : Store} (hs : s.Coherent) (now : Instant) (op : Operation) :
    s.Advances op (s.step now op).1 (s.step now op).2 := by
  have houtcome := step_outcome s now op
  generalize (s.step now op).1 = reply, (s.step now op).2 = t at houtcome ⊢
  cases houtcome with
  | enqueued => exact Advances.put s now _ _ _ _
  | claimed hforemost =>
    obtain ⟨hmem, -, hclaim⟩ := eligible_of_foremost? hforemost
    refine Advances.of_update hs.distinct rfl fun j hj hid => ?_
    obtain rfl := hs.distinct.eq_of_id_eq hj hmem hid
    exact Job.Evolves.leased hclaim _ _
  | @moved id m job hfound hallowed =>
    refine Advances.of_update hs.distinct (settle_jobs s now id m job) fun j hj hid => ?_
    obtain rfl := hs.distinct.eq_of_find? hfound hj hid
    exact Job.Evolves.apply hallowed now
  | kept => exact Advances.refl s op reply

/-- A finished job is the same record in every later store. -/
lemma run_keeps_finished {s : Store} (hs : s.Coherent) (ops : List (Instant × Operation)) {n : ℕ}
    {j : Job} (hj : s.jobs[n]? = some j) (hfinished : j.status.isTerminal = true) :
    (s.run ops).2.jobs[n]? = some j := by
  induction ops generalizing s with
  | nil => exact hj
  | cons head rest ih =>
    obtain ⟨k, hk, hevolves⟩ := (step_advances hs head.1 head.2).old n j hj
    obtain rfl := hevolves.eq_of_isTerminal hfinished
    exact ih (hs.step head.1 head.2) hk

/-- In every store in use, every operation leaves the old jobs in their places with what was asked
for, moves at most one of them along an edge, and adds at most one job, when it says so; and a
finished job stays the same record, whatever is reported about it later. -/
theorem jobs_evolve {s : Store} (hs : s.Reachable) :
    (∀ now op, s.Advances op (s.step now op).1 (s.step now op).2) ∧
      ∀ (ops : List (Instant × Operation)) (n : ℕ) (j : Job), s.jobs[n]? = some j →
        j.status.isTerminal = true → (s.run ops).2.jobs[n]? = some j := by
  have hcoherent := Coherent.of_reachable hs
  refine ⟨fun now op => step_advances hcoherent now op, ?_⟩
  intro ops n j hj hfinished
  exact run_keeps_finished hcoherent ops hj hfinished

/-- A run in which a job is put in, handed out and cancelled. -/
def cancelledRun : List (Instant × Operation) :=
  [(.epoch, .enqueue .nil (.plain "mail" "send" (.object []) .epoch)),
    (.epoch, .claim "worker" ["mail"] .zero),
    (.epoch, .move .nil .cancel)]

/-- A worker that completes its job after it was cancelled comes too late. -/
theorem late_completion_lost :
    (empty.run cancelledRun).2.Reachable ∧
      ∃ j, (empty.run cancelledRun).2.jobs[0]? = some j ∧ j.status = .cancelled ∧
        ((empty.run cancelledRun).2.run [(.epoch, .move .nil (.complete []))]).2.jobs[0]? =
          some j := by
  have hs : (empty.run cancelledRun).2.Reachable := ⟨cancelledRun, rfl⟩
  have hjob : (empty.run cancelledRun).2.jobs[0]? = some ((empty.run cancelledRun).2.jobs[0]) :=
    List.getElem?_eq_getElem (by decide)
  have hstatus : ((empty.run cancelledRun).2.jobs[0]).status = .cancelled := by decide
  refine ⟨hs, _, hjob, hstatus, (jobs_evolve hs).2 _ 0 _ hjob ?_⟩
  rw [hstatus]
  rfl

end Store

end LeaseQueue
