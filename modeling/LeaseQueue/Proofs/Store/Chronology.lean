import LeaseQueue.Proofs.Store.Trace
import LeaseQueue.Proofs.Time.After

/-!
# The times of a job

Every operation stamps some of the times of a job and keeps the others, across retries and from one
worker to the next.  `Job.Timed` says how they lie to each other and to the present.  As long as the
clock does not go back and no lease runs backwards, a lease and each of the moves bring a timed
record up to the present (`Job.Timed.leased`, `Job.Timed.apply`), and a run does so with all records
of a store.  So no processing time is negative, and cutting it off at zero changes nothing.
-/

namespace LeaseQueue

namespace Job

/-- How the times of a record lie to each other and to the present. -/
structure Timed (now : Instant) (j : Job) : Prop where
  createdAt_le : j.createdAt ≤ j.updatedAt
  updatedAt_le : j.updatedAt ≤ now
  startedAt_between : ∀ start, j.startedAt = some start → j.createdAt ≤ start ∧ start ≤ j.updatedAt
  /-- A start was read off a clock. -/
  startedAt_isLeap : ∀ start, j.startedAt = some start → start.isLeap = false
  /-- The lease of a processed job begins with its last change, which was its start. -/
  leased : j.status = .processing →
    j.scheduledAt ≤ j.updatedAt ∧ j.lockedAt = some j.updatedAt ∧ j.startedAt = some j.updatedAt ∧
      ∃ limit, j.lockedUntil = some limit ∧ j.updatedAt ≤ limit
  /-- The end of a job was its last change. -/
  ended : j.status = .completed ∨ j.status = .failed →
    j.completedAt = some j.updatedAt ∧ ∀ start, j.startedAt = some start → start ≤ j.updatedAt

namespace Timed

variable {t now : Instant} {j : Job}

/-- Time goes by. -/
lemma mono (hj : j.Timed t) (hle : t ≤ now) : j.Timed now :=
  { hj with updatedAt_le := Int.le_trans hj.updatedAt_le hle }

/-- A job that was just put in was created and changed just now. -/
lemma pendingJob (s : Submission) (fresh : Ident) (now : Instant) :
    (s.pendingJob fresh now).Timed now where
  createdAt_le := Int.le_refl _
  updatedAt_le := Int.le_refl _
  startedAt_between := by simp [Submission.pendingJob]
  startedAt_isLeap := by simp [Submission.pendingJob]
  leased := by simp [Submission.pendingJob]
  ended := by simp [Submission.pendingJob]

/-- The job was created in the past. -/
lemma createdAt_le_now (hj : j.Timed t) (hle : t ≤ now) : j.createdAt ≤ now :=
  Int.le_trans hj.createdAt_le (Int.le_trans hj.updatedAt_le hle)

/-- A job that is handed out is stamped all over, and its lease begins. -/
lemma leased_now (hj : j.Timed t) (hle : t ≤ now) (hnow : now.isLeap = false)
    (hclaim : j.isClaimable now = true) {lease : Span} (hlease : Span.zero ≤ lease)
    (worker : String) : (j.leased worker lease now).Timed now where
  createdAt_le := hj.createdAt_le_now hle
  updatedAt_le := Int.le_refl _
  startedAt_between := by
    rintro start ⟨⟩
    exact ⟨hj.createdAt_le_now hle, Int.le_refl _⟩
  startedAt_isLeap := by
    rintro start ⟨⟩
    exact hnow
  leased := by
    intro _
    have hdue : j.scheduledAt ≤ now := of_decide_eq_true (Bool.and_eq_true_iff.1 hclaim).1
    have hlimit : now ≤ now.after lease :=
      Instant.le_after hlease (Int.le_refl _) (Instant.le_greatest_of_settled hnow)
    exact ⟨hdue, rfl, rfl, now.after lease, rfl, hlimit⟩
  ended := by simp [Job.leased]

/-- A job that is moved keeps its start, and is stamped with its end if it comes to one. -/
lemma apply (hj : j.Timed t) (hle : t ≤ now) (m : Move) : (m.apply now j).Timed now := by
  have hcreated := hj.createdAt_le_now hle
  have hupdated : j.updatedAt ≤ now := Int.le_trans hj.updatedAt_le hle
  have hstart : (m.apply now j).startedAt = j.startedAt := by cases m <;> rfl
  have hstamp : (m.apply now j).updatedAt = now := by cases m <;> rfl
  have hpast : ∀ start, j.startedAt = some start → start ≤ now := fun start h =>
    Int.le_trans (hj.startedAt_between start h).2 hupdated
  constructor
  · rw [apply_createdAt, hstamp]
    exact hcreated
  · rw [hstamp]
    exact Int.le_refl _
  · intro start h
    rw [hstart] at h
    rw [apply_createdAt, hstamp]
    exact ⟨(hj.startedAt_between start h).1, hpast start h⟩
  · intro start h
    rw [hstart] at h
    exact hj.startedAt_isLeap start h
  · intro hprocessing
    cases m <;> cases hprocessing
  · intro hended
    rw [hstart, hstamp]
    refine ⟨?_, hpast⟩
    cases m with
    | complete result => rfl
    | fail failure => rfl
    | retry next => simp [Move.apply] at hended
    | cancel => simp [Move.apply] at hended

end Timed

end Job

namespace Store

/-- What holds of all jobs before an operation, and of each record that the operation can make of
one, holds of all jobs after it. -/
lemma forall_step {P Q : Job → Prop} {s : Store} (hs : s.Coherent) {now : Instant} {op : Operation}
    (hP : ∀ j ∈ s.jobs, P j) (hkept : ∀ j, P j → Q j)
    (henqueued : ∀ fresh submission, Q (Submission.pendingJob submission fresh now))
    (hhanded : ∀ worker queues lease j, op = .claim worker queues lease → P j →
      j.isClaimable now = true → Q (j.leased worker lease now))
    (hmoved : ∀ (m : Move) j, P j → m.allowed j = true → Q (m.apply now j)) :
    ∀ j ∈ (s.step now op).2.jobs, Q j := by
  have hupdate : ∀ (id : Ident) (change : Job → Job),
      (∀ j ∈ s.jobs, j.id = id → Q (change j)) → ∀ j ∈ (s.update id change).jobs, Q j := by
    intro id change hchange k hk
    obtain ⟨j, hj, rfl⟩ := List.mem_map.1 hk
    by_cases hid : j.id = id
    · rw [if_pos hid]
      exact hchange j hj hid
    · rw [if_neg hid]
      exact hkept j (hP j hj)
  have houtcome := step_outcome s now op
  generalize (s.step now op).1 = reply, (s.step now op).2 = t at houtcome ⊢
  cases houtcome with
  | @enqueued fresh submission =>
    intro j hj
    rcases List.mem_append.1 hj with hold | hnew
    · exact hkept j (hP j hold)
    · rw [List.mem_singleton.1 hnew]
      exact henqueued fresh submission
  | @claimed worker queues lease job hforemost =>
    obtain ⟨hmem, -, hclaim⟩ := eligible_of_foremost? hforemost
    refine hupdate job.id _ fun j hj hid => ?_
    obtain rfl := hs.distinct.eq_of_id_eq hj hmem hid
    exact hhanded worker queues lease j rfl (hP j hj) hclaim
  | @moved id m job hfound hallowed =>
    rw [settle_jobs]
    refine hupdate id _ fun j hj hid => ?_
    obtain rfl := hs.distinct.eq_of_find? hfound hj hid
    exact hmoved m job (hP job hj) hallowed
  | kept => exact fun j hj => hkept j (hP j hj)

end Store

/-! ### Runs -/

/-- Whether operations are made by a clock that does not go back, and no lease that they ask for
runs backwards.  Clocks show no leap seconds. -/
structure Steady (ops : List (Instant × Operation)) : Prop where
  clock : ops.Pairwise fun x y => x.1 ≤ y.1
  settled : ∀ x ∈ ops, x.1.isLeap = false
  forward : ∀ x ∈ ops, ∀ worker queues lease, x.2 = .claim worker queues lease → Span.zero ≤ lease

/-- Without its first operation a steady run is steady. -/
lemma Steady.tail {x : Instant × Operation} {ops : List (Instant × Operation)}
    (h : Steady (x :: ops)) : Steady ops where
  clock := (List.pairwise_cons.1 h.clock).2
  settled y hy := h.settled y (List.mem_cons_of_mem x hy)
  forward y hy := h.forward y (List.mem_cons_of_mem x hy)

namespace Event

/-- The store that an event leaves. -/
def after (e : Event) : Store := (e.before.step e.now e.op).2

/-- What an event has to do with time. -/
structure Timed (e : Event) : Prop where
  /-- It leaves the times of all jobs in order. -/
  jobs : ∀ j ∈ e.after.jobs, j.Timed e.now
  /-- A move that adds to the statistics adds the time from the start of the job to its end, which
  is not negative, if the job was being processed, and no time otherwise. -/
  counted : ∀ id m job d, e.op = .move id m → e.reply = .moved .applied →
    e.before.find? id = some job → m.delta? e.now job = some d →
      if job.status = .processing then
        ∃ time, (m.apply e.now job).processingTime = some time ∧ Span.zero ≤ time ∧
          d.millis = time.toMillis
      else d.millis = 0
  /-- The lease of a job that is handed out ends after its length, or with the calendar. -/
  claimed : ∀ worker queues lease job, e.op = .claim worker queues lease →
    e.reply = .claimed (some job) →
      ∃ limit, job.lockedUntil = some limit ∧ limit.isLeap = false ∧
        limit.nanos = min (e.now.nanos + lease.nanos) Instant.greatest.nanos

end Event

/-- A span that is not negative has no negative number of milliseconds. -/
lemma Span.toMillis_nonneg {s : Span} (hs : Span.zero ≤ s) : 0 ≤ s.toMillis :=
  Int.tdiv_nonneg hs (by decide)

namespace Move

/-- The time that a move of a processed job adds to the statistics is the one that the record shows
then. -/
lemma millis_of_delta? {t now : Instant} {m : Move} {j : Job} {d : Stats.Delta}
    (hj : j.Timed t) (hle : t ≤ now) (hnow : now.isLeap = false)
    (hprocessing : j.status = .processing) (hd : m.delta? now j = some d) :
    ∃ time, (m.apply now j).processingTime = some time ∧ Span.zero ≤ time ∧
      d.millis = time.toMillis := by
  obtain ⟨-, -, hstart, -⟩ := hj.leased hprocessing
  have hnonneg : Span.zero ≤ now.since j.updatedAt :=
    Instant.zero_le_since hnow (hj.startedAt_isLeap _ hstart) (Int.le_trans hj.updatedAt_le hle)
  have hmax := Int.max_eq_left (Span.toMillis_nonneg hnonneg)
  refine ⟨now.since j.updatedAt, ?_, hnonneg, ?_⟩
  · cases m with
    | complete result => simp [apply, Job.processingTime, Job.released, hstart]
    | fail failure => simp [apply, Job.processingTime, Job.released, hstart]
    | retry next => cases hd
    | cancel => cases hd
  · cases m with
    | complete result =>
      obtain rfl := Option.some.inj hd
      simpa [Stats.Delta.ofCompletion, Stats.Delta.millisOf, hstart] using hmax
    | fail failure =>
      obtain rfl := Option.some.inj hd
      simpa [Stats.Delta.ofFailure, Stats.Delta.millisOf, hstart, hprocessing] using hmax
    | retry next => cases hd
    | cancel => cases hd

/-- A move of a job that nobody was processing adds no time. -/
lemma millis_of_not_processing {now : Instant} {m : Move} {j : Job} {d : Stats.Delta}
    (hallowed : m.allowed j = true) (hj : j.status ≠ .processing)
    (hd : m.delta? now j = some d) : d.millis = 0 := by
  cases m with
  | complete result => exact absurd (Job.processing_of_complete hallowed) hj
  | fail failure =>
    obtain rfl := Option.some.inj hd
    simp [Stats.Delta.ofFailure, Stats.Delta.millisOf, hj]
  | retry next => cases hd
  | cancel => cases hd

end Move

namespace Store

section Steps

variable {s : Store} {t now : Instant}

/-- Every operation brings the records up to the present. -/
lemma step_timed (hs : s.Coherent) (hjobs : ∀ j ∈ s.jobs, j.Timed t) (hle : t ≤ now)
    (hnow : now.isLeap = false) {op : Operation}
    (hforward : ∀ worker queues lease, op = .claim worker queues lease → Span.zero ≤ lease) :
    ∀ j ∈ (s.step now op).2.jobs, j.Timed now :=
  forall_step hs hjobs (fun _ hj => hj.mono hle)
    (fun fresh submission => Job.Timed.pendingJob submission fresh now)
    (fun worker queues lease _ hop hj hclaim =>
      hj.leased_now hle hnow hclaim (hforward worker queues lease hop) worker)
    (fun m _ hj _ => hj.apply hle m)

/-- Every operation on timed records is an event in time. -/
lemma event_timed (hs : s.Coherent) (hjobs : ∀ j ∈ s.jobs, j.Timed t) (hle : t ≤ now)
    (hnow : now.isLeap = false) {op : Operation}
    (hforward : ∀ worker queues lease, op = .claim worker queues lease → Span.zero ≤ lease) :
    (Event.mk s now op).Timed where
  jobs := step_timed hs hjobs hle hnow hforward
  counted := by
    rintro id m job d rfl hreply hfound hd
    have hallowed : m.allowed job = true := by
      by_contra hnot
      rw [Event.reply, step_of_not_allowed hfound (Bool.eq_false_iff.2 hnot)] at hreply
      cases hreply
    split_ifs with hprocessing
    · exact Move.millis_of_delta? (hjobs job (mem_of_find? hfound)) hle hnow hprocessing hd
    · exact Move.millis_of_not_processing hallowed hprocessing hd
  claimed := by
    rintro worker queues lease job rfl hreply
    obtain ⟨j, -, rfl⟩ := exists_of_claimed hreply
    have hlease := hforward worker queues lease rfl
    exact ⟨now.after lease, rfl, Instant.isLeap_after hnow lease, Instant.nanos_after hnow hlease⟩

/-- Every event of a steady run is an event in time. -/
lemma trace_timed {s : Store} {t : Instant} (hs : s.Coherent) (hjobs : ∀ j ∈ s.jobs, j.Timed t)
    {ops : List (Instant × Operation)} (hops : Steady ops) (hlater : ∀ x ∈ ops, t ≤ x.1) :
    ∀ e ∈ s.trace ops, e.Timed := by
  induction ops generalizing s t with
  | nil => exact fun e he => absurd he List.not_mem_nil
  | cons head rest ih =>
    obtain ⟨now, op⟩ := head
    have hle : t ≤ now := hlater _ List.mem_cons_self
    have hnow : now.isLeap = false := hops.settled _ List.mem_cons_self
    have hforward := hops.forward _ List.mem_cons_self
    have hnext := step_timed hs hjobs hle hnow hforward
    have hrest := ih (hs.step now op) hnext hops.tail (List.pairwise_cons.1 hops.clock).1
    rw [trace, List.forall_mem_cons]
    exact ⟨event_timed hs hjobs hle hnow hforward, hrest⟩

end Steps

/-- In every run of a clock that does not go back, under leases that do not run backwards, and after
every operation of it: the times of all jobs lie in order, none of them ahead of the clock; what a
move adds to the processing time is the time that the record shows, which is never negative; and a
lease ends after its length, or with the calendar. -/
theorem times_in_order {ops : List (Instant × Operation)} (h : Steady ops) :
    ∀ e ∈ empty.trace ops, e.Timed :=
  trace_timed (t := .least) Coherent.empty (by simp [Store.empty]) h fun x _ => x.1.least_le

/-- A job that is retried at once, handed out again a second later under the longest lease, and
completed after another second. -/
def retriedRun : List (Instant × Operation) :=
  let later := Instant.epoch.after (.ofSeconds 1)
  [(.epoch, .enqueue .nil (.plain "mail" "send" (.object []) .epoch)),
    (.epoch, .claim "first" ["mail"] .zero),
    (.epoch, .move .nil (.retry .epoch)),
    (later, .claim "second" ["mail"] .greatest),
    (later.after (.ofSeconds 1), .move .nil (.complete []))]

/-- Its processing time is that of its second attempt, and its second lease would have lasted to the
end of the calendar. -/
theorem second_attempt_timed :
    Steady retriedRun ∧
      (∃ e ∈ empty.trace retriedRun, ∃ job limit, e.reply = .claimed (some job) ∧
        job.lockedUntil = some limit ∧ limit.nanos = Instant.greatest.nanos ∧ e.Timed) ∧
      ∃ e ∈ empty.trace retriedRun, ∃ j, e.after.jobs = [j] ∧
        j.processingTime = some (.ofSeconds 1) ∧ e.Timed := by
  have hsteady : Steady retriedRun := by
    refine ⟨by decide, by decide, ?_⟩
    intro x hx worker queues lease hop
    simp only [retriedRun, List.mem_cons, List.not_mem_nil, or_false] at hx
    rcases hx with rfl | rfl | rfl | rfl | rfl <;> cases hop <;> decide
  have htimed := times_in_order hsteady
  refine ⟨hsteady, ?_, ?_⟩
  · have hmem : (empty.trace retriedRun)[3] ∈ empty.trace retriedRun := List.getElem_mem _
    exact ⟨_, hmem, _, _, rfl, rfl, by decide, htimed _ hmem⟩
  · have hmem : (empty.trace retriedRun)[4] ∈ empty.trace retriedRun := List.getElem_mem _
    exact ⟨_, hmem, _, rfl, by decide, htimed _ hmem⟩

end Store

end LeaseQueue
