import LeaseQueue.Proofs.Ledger
import LeaseQueue.Proofs.Store.Outcome

/-!
# The shape of stored jobs

`Store.Coherent` collects what holds of every store that operations on an empty one lead to: no
identifier occurs twice, and every job has the shape that its status calls for.  A job is shown to
keep its shape through a lease and through each of the four moves (`Job.WellFormed.leased`,
`Job.WellFormed.apply`); the store inherits this along `Store.step_outcome`, and a run along
`Store.run_induction`.  The ledger beside the jobs keeps coherent in the same way
(`Store.ledger_of_reachable`).
-/

namespace LeaseQueue

namespace Job

/-- Only a job that is not finished can be claimed. -/
lemma isTerminal_of_isClaimable {j : Job} {now : Instant} (h : j.isClaimable now = true) :
    j.status.isTerminal = false := by
  unfold isClaimable leaseExpired at h
  cases hstatus : j.status <;> simp [hstatus, Status.isTerminal] at h ⊢

/-- A finished job cannot be claimed. -/
lemma not_isTerminal_of_isClaimable {j : Job} {now : Instant} (h : j.isClaimable now = true) :
    ¬j.status.isTerminal = true :=
  Bool.eq_false_iff.1 (isTerminal_of_isClaimable h)

/-- A job that does not wait is claimed only when its lease is over. -/
lemma leaseExpired_of_isClaimable {j : Job} {now : Instant} (h : j.isClaimable now = true)
    (hj : j.status ≠ .pending) : j.leaseExpired now = true := by
  simpa [isClaimable, hj] using (Bool.and_eq_true_iff.1 h).2

/-- Only a job that is being processed can be completed. -/
lemma processing_of_complete {result : Document} {j : Job}
    (h : (Move.complete result).allowed j = true) : j.status = .processing :=
  of_decide_eq_true h

/-- Only a job that is being processed can be retried. -/
lemma processing_of_retry {next : Instant} {j : Job} (h : (Move.retry next).allowed j = true) :
    j.status = .processing :=
  of_decide_eq_true (Bool.and_eq_true_iff.1 h).1

/-- Only a job that is not finished can be moved. -/
lemma isTerminal_of_allowed {m : Move} {j : Job} (h : m.allowed j = true) :
    j.status.isTerminal = false := by
  cases m with
  | complete result =>
    rw [processing_of_complete h]
    rfl
  | fail failure => simpa [Move.allowed] using h
  | retry next =>
    rw [processing_of_retry h]
    rfl
  | cancel => simpa [Move.allowed] using h

/-- There is a number for every attempt within the limit. -/
lemma toNat_attempts_succ {j : Job} (h : j.attempts.toNat < j.maxAttempts.toNat) :
    (j.attempts + 1).toNat = j.attempts.toNat + 1 := by
  have hmax : j.maxAttempts.toNat < 2 ^ 32 := j.maxAttempts.toNat_lt
  rw [UInt32.toNat_add, UInt32.toNat_one]
  exact Nat.mod_eq_of_lt (by omega)

/-- A retry that applies leaves room for the attempt it counts. -/
lemma attempts_succ_of_allowed {next : Instant} {j : Job}
    (h : (Move.retry next).allowed j = true) :
    (j.attempts + 1).toNat = j.attempts.toNat + 1 ∧ j.attempts.toNat < j.maxAttempts.toNat := by
  simp only [Move.allowed, Bool.and_eq_true, decide_eq_true_eq] at h
  have hlt : j.attempts.toNat < j.maxAttempts.toNat := UInt32.lt_iff_toNat_lt.1 h.2
  exact ⟨toNat_attempts_succ hlt, hlt⟩

namespace WellFormed

variable {j : Job}

/-- A job that is not finished has neither a result nor an error nor an end. -/
lemma unfinished (hj : j.WellFormed) (h : j.status.isTerminal = false) :
    j.result = none ∧ j.errorMessage = none ∧ j.errorKind = none ∧ j.completedAt = none := by
  have hresult := hj.result_iff
  have hmessage := hj.errorMessage_iff
  have hkind := hj.errorKind_iff
  have hend := hj.completedAt_iff
  cases hstatus : j.status <;> simp [hstatus, Status.isTerminal] at *
  all_goals exact ⟨hresult, hmessage, hkind, hend⟩

/-- A job that is being processed was started. -/
lemma started (hj : j.WellFormed) (h : j.status = .processing) : j.startedAt.isSome :=
  hj.startedAt_isSome (Or.inl h)

/-- A job that was just put in has the shape of a pending one. -/
lemma pendingJob {s : Submission} (hvalid : s.validate = .ok ()) (fresh : Ident) (now : Instant) :
    (s.pendingJob fresh now).WellFormed where
  one_le_maxAttempts := Submission.one_le_maxAttempts hvalid
  attempts_le := Nat.zero_le _
  worker_iff := by simp [Submission.pendingJob]
  lockedAt_iff := by simp [Submission.pendingJob]
  lockedUntil_iff := by simp [Submission.pendingJob]
  result_iff := by simp [Submission.pendingJob]
  errorMessage_iff := by simp [Submission.pendingJob]
  errorKind_iff := by simp [Submission.pendingJob]
  completedAt_iff := by simp [Submission.pendingJob]
  startedAt_isSome := by simp [Submission.pendingJob]

/-- A job that is handed out takes the shape of a processed one. -/
lemma leased (hj : j.WellFormed) {now : Instant} (hclaim : j.isClaimable now = true)
    (worker : String) (lease : Span) : (j.leased worker lease now).WellFormed := by
  obtain ⟨hresult, hmessage, hkind, hend⟩ := hj.unfinished (isTerminal_of_isClaimable hclaim)
  exact
    { one_le_maxAttempts := hj.one_le_maxAttempts
      attempts_le := hj.attempts_le
      worker_iff := by simp [Job.leased]
      lockedAt_iff := by simp [Job.leased]
      lockedUntil_iff := by simp [Job.leased]
      result_iff := by simp [Job.leased, hresult]
      errorMessage_iff := by simp [Job.leased, hmessage]
      errorKind_iff := by simp [Job.leased, hkind]
      completedAt_iff := by simp [Job.leased, hend]
      startedAt_isSome := by simp [Job.leased] }

/-- A job that is moved takes the shape of its new status. -/
lemma apply (hj : j.WellFormed) {m : Move} (hallowed : m.allowed j = true) (now : Instant) :
    (m.apply now j).WellFormed := by
  obtain ⟨hresult, hmessage, hkind, hend⟩ := hj.unfinished (isTerminal_of_allowed hallowed)
  have hone := hj.one_le_maxAttempts
  have hattempts := hj.attempts_le
  have hstart := hj.startedAt_isSome
  cases m with
  | complete result =>
    have hstarted := hj.started (processing_of_complete hallowed)
    constructor <;> simp [Move.apply, released, hmessage, hkind, hstarted, hone, hattempts]
  | fail failure =>
    have hretried : 0 < j.attempts.toNat → j.startedAt.isSome := fun h => hstart (Or.inr (Or.inr h))
    constructor <;> simp [Move.apply, released, hresult, hone, hattempts]
    exact hretried
  | retry next =>
    have hstarted := hj.started (processing_of_retry hallowed)
    obtain ⟨hsucc, hlt⟩ := attempts_succ_of_allowed hallowed
    constructor <;> simp [Move.apply, released, hresult, hmessage, hkind, hend, hstarted, hone]
    omega
  | cancel =>
    have hretried : 0 < j.attempts.toNat → j.startedAt.isSome := fun h => hstart (Or.inr (Or.inr h))
    constructor <;>
      simp [Move.apply, released, hresult, hmessage, hkind, hend, hone, hattempts]
    exact hretried

end WellFormed

end Job

namespace Store

/-- What holds of every store in use: identifiers are distinct and jobs are well-formed. -/
structure Coherent (s : Store) : Prop where
  distinct : s.Distinct
  wellFormed : ∀ j ∈ s.jobs, j.WellFormed

namespace Coherent

/-- Nothing is wrong with a store that holds nothing. -/
lemma empty : Coherent Store.empty where
  distinct := List.nodup_nil
  wellFormed := by simp [Store.empty]

variable {s : Store}

/-- Changing the job of an identifier keeps a store coherent if the changed job is well-formed. -/
lemma update (hs : s.Coherent) (id : Ident) {change : Job → Job}
    (hid : ∀ j, (change j).id = j.id)
    (hchange : ∀ j ∈ s.jobs, j.id = id → (change j).WellFormed) :
    (s.update id change).Coherent where
  distinct := by
    unfold Distinct
    rw [map_id_update s id hid]
    exact hs.distinct
  wellFormed := by
    intro k hk
    obtain ⟨j, hj, rfl⟩ := List.mem_map.1 hk
    by_cases h : j.id = id
    · rw [if_pos h]
      exact hchange j hj h
    · rw [if_neg h]
      exact hs.wellFormed j hj

/-- A valid job with a new identifier keeps a store coherent. -/
lemma put (hs : s.Coherent) {submission : Submission} {fresh : Ident} {now : Instant}
    (hvalid : submission.validate = .ok ())
    (hnew : s.find? (submission.pendingJob fresh now).id = none) :
    (s.put now (submission.pendingJob fresh now)).Coherent where
  distinct := by
    unfold Distinct Store.put
    rw [List.map_append, List.nodup_append]
    refine ⟨hs.distinct, List.nodup_singleton _, ?_⟩
    intro id hid other hother heq
    obtain ⟨j, hj, rfl⟩ := List.mem_map.1 hid
    have hother : other = (submission.pendingJob fresh now).id := by simpa using hother
    exact find?_eq_none_iff.1 hnew j hj (heq.trans hother)
  wellFormed := by
    intro j hj
    rcases List.mem_append.1 hj with hold | hnew
    · exact hs.wellFormed j hold
    · rw [List.mem_singleton.1 hnew]
      exact Job.WellFormed.pendingJob hvalid fresh now

/-- Handing out a job that is up for a claim keeps a store coherent. -/
lemma hand (hs : s.Coherent) {queues : List String} {now : Instant} {job : Job}
    (hjob : job ∈ s.eligible queues now) (worker : String) (lease : Span) :
    (s.hand now worker lease job.id).Coherent := by
  obtain ⟨hmem, -, hclaim⟩ := of_mem_eligible hjob
  refine hs.update job.id (fun j => Job.leased_id j worker lease now) fun j hj hid => ?_
  obtain rfl : j = job := hs.distinct.eq_of_id_eq hj hmem hid
  exact (hs.wellFormed j hj).leased hclaim worker lease

/-- Moving a job keeps a store coherent. -/
lemma settle (hs : s.Coherent) {id : Ident} {m : Move} {job : Job}
    (hfound : s.find? id = some job) (hallowed : m.allowed job = true) (now : Instant) :
    (s.settle now id m job).Coherent := by
  have hupdate : (s.update id (m.apply now)).Coherent := by
    refine hs.update id (Job.apply_id m now) fun j hj hid => ?_
    obtain rfl := hs.distinct.eq_of_find? hfound hj hid
    exact (hs.wellFormed job hj).apply hallowed now
  have hjobs := settle_jobs s now id m job
  constructor
  · unfold Distinct
    rw [hjobs]
    exact hupdate.distinct
  · rw [hjobs]
    exact hupdate.wellFormed

/-- Every operation keeps a store coherent. -/
lemma step (hs : s.Coherent) (now : Instant) (op : Operation) : (s.step now op).2.Coherent := by
  have houtcome := step_outcome s now op
  generalize (s.step now op).1 = reply, (s.step now op).2 = t at houtcome
  cases houtcome with
  | enqueued hvalid hnew => exact hs.put hvalid hnew
  | claimed hforemost => exact hs.hand (Job.mem_of_foremost? hforemost) _ _
  | moved hfound hallowed => exact hs.settle hfound hallowed now
  | kept => exact hs

/-- Every run keeps a store coherent. -/
lemma run (hs : s.Coherent) (ops : List (Instant × Operation)) : (s.run ops).2.Coherent :=
  run_induction (fun _ now op h => h.step now op) hs ops

/-- Every reachable store is coherent. -/
lemma of_reachable (hs : s.Reachable) : s.Coherent := by
  obtain ⟨ops, rfl⟩ := hs
  exact empty.run ops

end Coherent

/-- Every operation keeps a ledger coherent. -/
lemma ledger_step {s : Store} (hs : s.ledger.Coherent) (now : Instant) (op : Operation) :
    (s.step now op).2.ledger.Coherent := by
  have houtcome := step_outcome s now op
  generalize (s.step now op).1 = reply, (s.step now op).2 = t at houtcome
  cases houtcome with
  | enqueued => exact hs.record _ _ _
  | claimed => exact hs
  | @moved id m job =>
    cases m with
    | complete _ | fail _ => exact hs.record _ _ _
    | retry _ | cancel => exact hs
  | kept => exact hs

/-- The ledger of every reachable store is coherent. -/
lemma ledger_of_reachable {s : Store} (hs : s.Reachable) : s.ledger.Coherent := by
  obtain ⟨ops, rfl⟩ := hs
  exact run_induction (P := fun s => s.ledger.Coherent)
    (fun _ now op h => ledger_step h now op) Ledger.Coherent.empty ops

/-- Whatever is asked of a store from its first day on, and whatever its clock shows: identifiers
are distinct, the attempts of a job stay within its limit, of which there is at least one, a job is
leased exactly while it is processed, it has a result exactly when it is completed, an error
exactly when it failed, an end exactly when it is completed or failed, and a start at least when it
is processed, completed or was tried before. -/
theorem run_coherent (ops : List (Instant × Operation)) : (empty.run ops).2.Coherent :=
  Coherent.empty.run ops

end Store

end LeaseQueue
