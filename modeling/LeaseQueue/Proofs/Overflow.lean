import LeaseQueue.Proofs.Store.Exclusive
import LeaseQueue.Proofs.Store.Totals
import LeaseQueue.Sql.Backend
import LeaseQueue.Worker.Tick

/-!
# Arithmetic in fixed sizes

Attempts are counted in 32-bit words, and the time between two instants is kept as a span.  The
counts and times of a record may be any, since records are also read from text and from rows.  Here
what a worker decides about a record and what a report makes of it are computed once more, in
arithmetic that breaks off instead of overflowing (`Worker.checkedVerdict`, `Move.checkedApply`).
`Job.Contained` says that it never breaks off where workers and stores get to, and gives what they
compute: a worker goes on to the next attempt only after it has found that one is left, and a store
counts an attempt only while the limit is not reached.  What is added to a clock is not counted in a
fixed size, but stops at the greatest instant (`Instant.Saturates`); it stops there in order, so that
a longer lease or delay makes no job claimable sooner (`Store.WaitsLonger`).

The one exception are the sums of a day.  What a report adds to them is bounded, but nothing looks at
how far they get (`Stats.checkedApply`, `Stats.Recorded`): mail that was in hand for as long as clocks
go breaks them off (`Store.slow_mail_overruns`).
-/

namespace LeaseQueue

/-- Why arithmetic in fixed sizes breaks off. -/
inductive Overflow where
  /-- No word follows the largest one. -/
  | word
  /-- Two instants are too far apart for a span. -/
  | span
  /-- No signed 64-bit word holds a sum. -/
  | total
  deriving DecidableEq

/-! ### Arithmetic that breaks off -/

/-- The word after a word. -/
def checkedSucc (n : UInt32) : Except Overflow UInt32 :=
  if n.toNat + 1 < UInt32.size then .ok (n + 1) else .error .word

/-- The word after a word, or the largest one again. -/
def saturatingSucc (n : UInt32) : UInt32 := .ofNat (min 4294967295 (n.toNat + 1))

/-- The sum of two integers in a signed word. -/
def checkedAdd (m n : Int) : Except Overflow Int :=
  if FitsWord (m + n) then .ok (m + n) else .error .total

/-- The span from an earlier instant to this one. -/
def Instant.checkedSince (t earlier : Instant) : Except Overflow Span :=
  if (t.since earlier).Representable then .ok (t.since earlier) else .error .span

/-- The time from the last start of a finished job to its end. -/
def Job.checkedTime (j : Job) : Except Overflow (Option Span) :=
  match j.completedAt, j.startedAt with
  | some completed, some started => (completed.checkedSince started).map some
  | _, _ => .ok none

/-- What a move makes of a job and adds to the statistics.  The time of a job that comes to an end
is read off its new record, also when it is not counted. -/
def Move.checkedApply (m : Move) (now : Instant) (j : Job) :
    Except Overflow (Job × Option Stats.Delta) :=
  let moved := m.apply now j
  match m with
  | .complete _ => moved.checkedTime.map fun time => (moved, some (.ofCompletion time))
  | .fail _ =>
    moved.checkedTime.map fun time =>
      (moved, some (.ofFailure (if j.status = .processing then time else none)))
  | .retry _ => (checkedSucc j.attempts).map fun attempts => ({ moved with attempts }, none)
  | .cancel => .ok (moved, none)

/-- The move that a worker makes when the handler of a job has come to its end. -/
def Worker.checkedVerdict (backoff : UInt32 → Span) (job : Job) (ending : Ending) (millis : ℕ)
    (now : Instant) : Except Overflow Move :=
  match ending.failure? with
  | none => .ok (.complete (result millis now))
  | some failure =>
    if !failure.isRetryable || job.maxAttempts ≤ saturatingSucc job.attempts then
      .ok (.fail failure)
    else (checkedSucc job.attempts).map fun attempt => .retry (now.after (backoff attempt))

/-- A record of a day after an event, and how many jobs have come to an end by then. -/
def Stats.checkedApply (r : Stats) (d : Delta) : Except Overflow Stats := do
  let enqueued ← checkedAdd r.enqueued d.enqueued
  let completed ← checkedAdd r.completed d.completed
  let failed ← checkedAdd r.failed d.failed
  let totalMillis ← checkedAdd r.totalMillis d.millis
  let finished ← checkedAdd completed failed
  return { r with
    enqueued, completed, failed, totalMillis, averageMillis := average totalMillis finished }

/-- A word below another one has a successor. -/
lemma checkedSucc_of_lt {n m : UInt32} (h : n.toNat < m.toNat) : checkedSucc n = .ok (n + 1) := by
  have hmax : m.toNat < UInt32.size := m.toNat_lt
  exact if_pos (by omega)

/-- The saturating successor as a number. -/
lemma toNat_saturatingSucc (n : UInt32) :
    (saturatingSucc n).toNat = min 4294967295 (n.toNat + 1) := by
  unfold saturatingSucc
  rw [UInt32.toNat_ofNat']
  exact Nat.mod_eq_of_lt (by omega)

/-- Whether an attempt is the last one can be told from a count that stops at the largest word. -/
lemma Job.isFinalAttempt_eq (job : Job) :
    job.isFinalAttempt = decide (job.maxAttempts ≤ saturatingSucc job.attempts) := by
  have hmax := job.maxAttempts.toNat_lt
  unfold isFinalAttempt
  rw [decide_eq_decide, UInt32.le_iff_toNat_le, toNat_saturatingSucc]
  omega

/-- What comes after a sum is reached if a word holds it. -/
lemma checkedAdd_bind {α : Type} (m n : Int) (f : Int → Except Overflow α) :
    (checkedAdd m n >>= f) = if FitsWord (m + n) then f (m + n) else .error .total := by
  unfold checkedAdd
  split <;> rfl

/-- An event is added to a record unless a count leaves its word. -/
lemma Stats.checkedApply_eq (r : Stats) (d : Delta) :
    r.checkedApply d = if (r.apply d).Fits then .ok (r.apply d) else .error .total := by
  unfold checkedApply
  simp only [checkedAdd_bind, ← ite_and]
  rfl

/-- The time between two instants never breaks off. -/
lemma Instant.checkedSince_eq (t earlier : Instant) :
    t.checkedSince earlier = .ok (t.since earlier) :=
  if_pos (since_representable t earlier)

/-- Nor is the time since an instant that may be missing ever too long for a span. -/
lemma Instant.representable_of_map_since {now : Instant} {started : Option Instant} {time : Span}
    (h : started.map now.since = some time) : time.Representable := by
  obtain ⟨start, -, rfl⟩ := Option.map_eq_some_iff.1 h
  exact now.since_representable start

namespace Job

variable {job : Job} {now : Instant}

/-- Nor does the time that a record shows, whatever its times are. -/
lemma checkedTime_eq (j : Job) : j.checkedTime = .ok j.processingTime := by
  unfold checkedTime processingTime
  cases j.completedAt with
  | none => rfl
  | some completed =>
    cases j.startedAt with
    | none => rfl
    | some started => exact congrArg (Except.map some) (completed.checkedSince_eq started)

/-- A job that comes to an end shows the time from its last start, if it was started. -/
lemma processingTime_of_ended (hcompleted : job.completedAt = some now) :
    job.processingTime = job.startedAt.map now.since := by
  unfold processingTime
  rw [hcompleted]
  cases job.startedAt <;> rfl

/-- No time that a record shows is too long for a span. -/
lemma representable_of_processingTime {time : Span} (h : job.processingTime = some time) :
    time.Representable := by
  cases hcompleted : job.completedAt with
  | none => simp [processingTime, hcompleted] at h
  | some completed =>
    rw [processingTime_of_ended hcompleted] at h
    exact Instant.representable_of_map_since h

end Job

/-- A move that applies to a job does not break off. -/
lemma Move.checkedApply_of_allowed {m : Move} {job : Job} (hallowed : m.allowed job = true)
    (now : Instant) : m.checkedApply now job = .ok (m.apply now job, m.delta? now job) := by
  unfold checkedApply
  cases m with
  | complete result =>
    have htime : ((complete result).apply now job).processingTime = job.startedAt.map now.since :=
      Job.processingTime_of_ended rfl
    simp only [Job.checkedTime_eq, htime]
    rfl
  | fail failure =>
    have htime : ((fail failure).apply now job).processingTime = job.startedAt.map now.since :=
      Job.processingTime_of_ended rfl
    simp only [Job.checkedTime_eq, htime]
    rfl
  | retry next =>
    obtain ⟨-, hlt⟩ := Job.attempts_succ_of_allowed hallowed
    simp only [checkedSucc_of_lt hlt]
    rfl
  | cancel => rfl

/-- What a worker decides does not break off. -/
lemma Worker.checkedVerdict_eq (backoff : UInt32 → Span) (job : Job) (ending : Ending) (millis : ℕ)
    (now : Instant) :
    checkedVerdict backoff job ending millis now = .ok (verdict backoff job ending millis now) := by
  unfold checkedVerdict verdict
  cases ending.failure? with
  | none => rfl
  | some failure =>
    simp only [← job.isFinalAttempt_eq]
    by_cases hlast : (!failure.isRetryable || job.isFinalAttempt) = true
    · simp only [hlast, if_true]
    · -- A worker that does not give up has found an attempt beyond the next one.
      have hspare : ¬job.maxAttempts.toNat ≤ job.attempts.toNat + 1 := by
        intro hle
        rw [show job.isFinalAttempt = true from decide_eq_true hle, Bool.or_true] at hlast
        exact hlast rfl
      have hlt : job.attempts.toNat < job.maxAttempts.toNat := by omega
      simp only [if_neg hlast, checkedSucc_of_lt hlt]
      rfl

/-! ### Counts -/

/-- A job that is put off by hand is put off for the attempt after its last one, as far as words can
count. -/
lemma Queue.nextAttempt_eq (q : Queue) (now : Instant) (job : Job) :
    ∃ attempt : UInt32, attempt.toNat = min 4294967295 (job.attempts.toNat + 1) ∧
      q.nextAttempt now job = now.after (q.backoff attempt) :=
  ⟨saturatingSucc job.attempts, toNat_saturatingSucc job.attempts, rfl⟩

/-- What holds of the record of a day before and after an event is added to it. -/
structure Stats.Recorded (before : Stats) (d : Delta) (after : Stats) : Prop where
  /-- The event is added to what was counted before. -/
  added : after = before.apply d
  /-- While words hold the counts no sum breaks off, and they are shown as they are. -/
  held : after.Fits → before.checkedApply d = .ok after ∧ after.inWords = after
  /-- When words do not hold them a sum breaks off. -/
  overflows : ¬after.Fits → before.checkedApply d = .error .total
  /-- Sums that go on in words show what words keep of the exact ones. -/
  wraps : (before.inWords.apply d).inWords = after.inWords

/-- All of it holds of any event. -/
lemma Stats.recorded (before : Stats) (d : Delta) : before.Recorded d (before.apply d) where
  added := rfl
  held hfits := ⟨(before.checkedApply_eq d).trans (if_pos hfits), inWords_of_fits hfits rfl⟩
  overflows hnot := (before.checkedApply_eq d).trans (if_neg hnot)
  wraps := before.inWords_apply d

/-! ### Waiting longer -/

namespace Job

variable {j : Job} {now later : Instant}

/-- A waiting job can be claimed from when it is due on. -/
lemma isClaimable_iff_of_pending (hj : j.status = .pending) :
    j.isClaimable later = true ↔ j.scheduledAt ≤ later := by
  refine ⟨scheduledAt_le_of_isClaimable, fun hdue => ?_⟩
  exact Bool.and_eq_true_iff.2 ⟨decide_eq_true hdue, by rw [decide_eq_true hj, Bool.true_or]⟩

/-- A job that was handed out can be claimed again after its lease, if it is due. -/
lemma isClaimable_leased_iff {worker : String} {lease : Span} :
    (j.leased worker lease now).isClaimable later = true ↔
      j.scheduledAt ≤ later ∧ now.after lease < later := by
  constructor
  · intro h
    have hdue : (j.leased worker lease now).scheduledAt ≤ later := scheduledAt_le_of_isClaimable h
    exact ⟨hdue, lt_of_isClaimable h rfl rfl⟩
  · rintro ⟨hdue, hlimit⟩
    refine Bool.and_eq_true_iff.2 ⟨decide_eq_true hdue, ?_⟩
    simp [leaseExpired, leased, hlimit]

end Job

namespace Store

/-- Whether every job that can be claimed in a store can be claimed in the other one at that time
as well. -/
def NoSooner (s t : Store) : Prop :=
  ∀ (id : Ident) (later : Instant) (j : Job), s.find? id = some j → j.isClaimable later = true →
    ∃ k, t.find? id = some k ∧ k.isClaimable later = true

/-- A store is no sooner than itself. -/
lemma NoSooner.refl (s : Store) : s.NoSooner s := fun _ _ j hfound hclaim => ⟨j, hfound, hclaim⟩

variable {s : Store} {now early late : Instant} {short long : Span}

/-- Jobs are claimable no sooner after a change than after one that leaves them claimable whenever
the first one does. -/
lemma noSooner_update (s : Store) (id : Ident) {change change' : Job → Job}
    (hid : ∀ j, (change j).id = j.id) (hid' : ∀ j, (change' j).id = j.id)
    (h : ∀ j later, (change j).isClaimable later = true → (change' j).isClaimable later = true) :
    (s.update id change).NoSooner (s.update id change') := by
  intro other later job hfound hclaim
  rw [find?_update s id other hid] at hfound
  rw [find?_update s id other hid']
  split_ifs at hfound ⊢ with hother
  · obtain ⟨j, hj, rfl⟩ := Option.map_eq_some_iff.1 hfound
    rw [hj]
    exact ⟨change' j, rfl, h j later hclaim⟩
  · exact ⟨job, hfound, hclaim⟩

/-- A lease that ends later makes no job claimable sooner. -/
lemma noSooner_claim (s : Store) (worker : String) (queues : List String)
    (h : now.after short ≤ now.after long) :
    (s.claim now worker queues long).2.NoSooner (s.claim now worker queues short).2 := by
  cases hforemost : Job.foremost? (s.eligible queues now) with
  | none =>
    rw [claim_of_none hforemost, claim_of_none hforemost]
    exact NoSooner.refl s
  | some job =>
    rw [claim_of_some hforemost, claim_of_some hforemost]
    refine noSooner_update s job.id (fun _ => rfl) (fun _ => rfl) fun j later hclaim => ?_
    obtain ⟨hdue, hlimit⟩ := Job.isClaimable_leased_iff.1 hclaim
    exact Job.isClaimable_leased_iff.2 ⟨hdue, Int.lt_of_le_of_lt h hlimit⟩

/-- Putting a job off until later makes none claimable sooner. -/
lemma noSooner_retry (s : Store) (t : Instant) (id : Ident) (h : early ≤ late) :
    (s.move t id (.retry late)).2.NoSooner (s.move t id (.retry early)).2 := by
  cases hfound : s.find? id with
  | none =>
    rw [move_of_unknown hfound, move_of_unknown hfound]
    exact NoSooner.refl s
  | some job =>
    -- Whether a retry applies does not depend on when the job is due again.
    have hsame : (Move.retry early).allowed job = (Move.retry late).allowed job := rfl
    cases hallowed : (Move.retry late).allowed job with
    | false =>
      rw [move_of_not_allowed hfound hallowed, move_of_not_allowed hfound (hsame.trans hallowed)]
      exact NoSooner.refl s
    | true =>
      rw [move_of_allowed hfound hallowed, move_of_allowed hfound (hsame.trans hallowed)]
      refine noSooner_update s id (Job.apply_id _ t) (Job.apply_id _ t) fun j later hclaim => ?_
      have hdue : late ≤ later := (Job.isClaimable_iff_of_pending rfl).1 hclaim
      exact (Job.isClaimable_iff_of_pending rfl).2 (Int.le_trans h hdue)

/-- Putting a job in for a later time makes none claimable sooner. -/
lemma noSooner_enqueue (s : Store) (t : Instant) (fresh : Ident) (submission : Submission)
    (h : early ≤ late) :
    (s.enqueue t fresh { submission with scheduledAt := late }).2.NoSooner
      (s.enqueue t fresh { submission with scheduledAt := early }).2 := by
  have hsame : ∀ due, ({ submission with scheduledAt := due } : Submission).validate =
      submission.validate := fun _ => rfl
  cases hvalid : submission.validate with
  | error reason =>
    rw [enqueue_of_invalid ((hsame late).trans hvalid),
      enqueue_of_invalid ((hsame early).trans hvalid)]
    exact NoSooner.refl s
  | ok u =>
    by_cases hnew : s.find? (submission.pendingJob fresh t).id = none
    · rw [enqueue_of_new ((hsame late).trans hvalid) hnew,
        enqueue_of_new ((hsame early).trans hvalid) hnew]
      intro id later job hfound hclaim
      rw [find?_put] at hfound ⊢
      cases hold : s.find? id with
      | some j =>
        rw [hold] at hfound
        obtain rfl : j = job := Option.some.inj hfound
        exact ⟨j, rfl, hclaim⟩
      | none =>
        rw [hold, Option.none_or] at hfound
        rw [Option.none_or]
        split_ifs at hfound with hid
        obtain rfl := Option.some.inj hfound
        have hdue : late ≤ later := (Job.isClaimable_iff_of_pending rfl).1 hclaim
        exact ⟨_, if_pos hid, (Job.isClaimable_iff_of_pending rfl).2 (Int.le_trans h hdue)⟩
    · rw [enqueue_of_known ((hsame late).trans hvalid) hnew,
        enqueue_of_known ((hsame early).trans hvalid) hnew]
      exact NoSooner.refl s

/-- A store skips a move of a job, or does with it what arithmetic that breaks off gives. -/
lemma move_eq_checkedApply {job : Job} (hfound : s.find? job.id = some job) (now : Instant)
    (m : Move) :
    s.move now job.id m = (.ok (.skipped job.status), s) ∨
      ∃ moved counted t, m.checkedApply now job = .ok (moved, counted) ∧
        s.move now job.id m = (.ok .applied, t) ∧ t.find? job.id = some moved ∧
        t.ledger = counted.elim s.ledger (s.ledger.record job.queue now.date) := by
  cases hallowed : m.allowed job with
  | false => exact .inl (move_of_not_allowed hfound hallowed)
  | true =>
    refine .inr ⟨_, _, _, m.checkedApply_of_allowed hallowed now, move_of_allowed hfound hallowed,
      ?_, ?_⟩
    · rw [find?_settle, find?_update s job.id job.id (Job.apply_id m now), if_pos rfl, hfound]
      rfl
    · cases m <;> rfl

end Store

/-! ### Every record and every clock -/

/-- What holds of the arithmetic on a record, whatever its counts and times are. -/
structure Job.Contained (job : Job) : Prop where
  /-- A worker that decides on another attempt finds a word for it. -/
  decided : ∀ (backoff : UInt32 → Span) (ending : Ending) (millis : ℕ) (now : Instant),
    Worker.checkedVerdict backoff job ending millis now =
      .ok (Worker.verdict backoff job ending millis now)
  /-- By hand the largest word stands for every attempt from there on. -/
  byHand : ∀ (q : Queue) (now : Instant), ∃ attempt : UInt32,
    attempt.toNat = min 4294967295 (job.attempts.toNat + 1) ∧
      q.nextAttempt now job = now.after (q.backoff attempt)
  /-- A store that moves the job has a word for the attempt it counts, and a span for the time. -/
  moved : ∀ (s : Store) (now : Instant) (m : Move), s.find? job.id = some job →
    s.move now job.id m = (.ok (.skipped job.status), s) ∨
      ∃ moved counted t, m.checkedApply now job = .ok (moved, counted) ∧
        s.move now job.id m = (.ok .applied, t) ∧ t.find? job.id = some moved ∧
        t.ledger = counted.elim s.ledger (s.ledger.record job.queue now.date)
  /-- The time that the record shows fits a span. -/
  timed : ∀ time, job.processingTime = some time → time.Representable
  /-- What a move adds to the milliseconds of a day is no more than the calendar has. -/
  counted : ∀ (m : Move) (now : Instant) (d : Stats.Delta), m.delta? now job = some d →
    0 ≤ d.millis ∧ d.millis ≤ Instant.longestMillis
  /-- The sums of the day are the only ones to break off, where words do not hold them. -/
  recorded : ∀ (s : Store) (now : Instant) (m : Move) (d : Stats.Delta),
    s.find? job.id = some job → m.allowed job = true → m.delta? now job = some d →
      (s.statsOn job.queue now.date).Recorded d
        ((s.move now job.id m).2.statsOn job.queue now.date)

/-- All of it holds of every record. -/
lemma Job.contained (job : Job) : job.Contained where
  decided backoff := Worker.checkedVerdict_eq backoff job
  byHand q now := q.nextAttempt_eq now job
  moved s now m hfound := s.move_eq_checkedApply hfound now m
  timed _ := Job.representable_of_processingTime
  counted _ _ _ := Move.millis_le
  recorded s now m d hfound hallowed hdelta := by
    rw [Store.statsOn_move hfound hallowed hdelta]
    exact Stats.recorded _ d

/-- What holds of the arithmetic on the columns that a move of a row looks at, in a database, where
counts are signed. -/
structure Sql.LockedRow.Contained (row : LockedRow) : Prop where
  /-- A row that is moved to its next attempt has a word for it. -/
  moved : ∀ next, row.allows (.retry next) = true → row.attempts.toInt + 1 ≤ 2147483647
  /-- The time since the row was claimed fits a span. -/
  timed : ∀ now time, row.processingTime now = some time → time.Representable

/-- The limit of a row leaves room for its attempts, whatever they are. -/
lemma Sql.LockedRow.contained (row : LockedRow) : row.Contained where
  moved next hallowed := by
    have hlt : row.attempts.toInt < row.maxAttempts.toInt :=
      Int32.lt_iff_toInt_lt.1 (of_decide_eq_true (Bool.and_eq_true_iff.1 hallowed).2)
    have hmax := row.maxAttempts.toInt_lt
    omega
  timed _ _ htime := Instant.representable_of_map_since htime

/-- What holds of leases and delays that are added to what a clock shows. -/
structure Instant.Saturates (now : Instant) : Prop where
  /-- What leads out of the calendar, forward or backward, leads to the greatest instant. -/
  led : ∀ s : Span,
    if least.ticks ≤ now.arrival s ∧ now.arrival s ≤ greatest.ticks then
      (now.after s).ticks = now.arrival s
    else now.after s = greatest
  /-- Outside of leap seconds all else leads to the instant that counts as many nanoseconds more. -/
  reached : now.isLeap = false → ∀ s : Span,
    if least.nanos ≤ now.nanos + s.nanos ∧ now.nanos + s.nanos ≤ greatest.nanos then
      (now.after s).nanos = now.nanos + s.nanos
    else now.after s = greatest
  /-- Nothing that is added leads back. -/
  forward : ∀ s, Span.zero ≤ s → now ≤ now.after s
  /-- Adding more leads no less far. -/
  mono : ∀ short long, Span.zero ≤ short → short ≤ long → now.after short ≤ now.after long

/-- Leases and delays saturate on every clock, as no clock goes beyond the greatest instant. -/
lemma Instant.saturates {now : Instant} (hnow : now ≤ greatest) : now.Saturates where
  led s := after_of_arrival hnow s
  reached hsettled s := after_of_settled hsettled s
  forward _ hs := le_after hs (Int.le_refl _) hnow
  mono _ _ hshort hlong := after_mono hnow hshort hlong

/-- What holds of leases and delays in a store, where one of them is longer than the other. -/
structure Store.WaitsLonger (s : Store) (now : Instant) (short long : Span) : Prop where
  /-- A longer lease makes no job claimable sooner. -/
  claimed : ∀ (worker : String) (queues : List String),
    (s.claim now worker queues long).2.NoSooner (s.claim now worker queues short).2
  /-- Nor does a longer delay before the next attempt. -/
  retried : ∀ (t : Instant) (id : Ident),
    (s.move t id (.retry (now.after long))).2.NoSooner
      (s.move t id (.retry (now.after short))).2
  /-- Nor does one before the first attempt. -/
  enqueued : ∀ (t : Instant) (fresh : Ident) (submission : Submission),
    (s.enqueue t fresh { submission with scheduledAt := now.after long }).2.NoSooner
      (s.enqueue t fresh { submission with scheduledAt := now.after short }).2

/-- A lease or delay that ends later makes no job claimable sooner. -/
lemma Store.waitsLonger (s : Store) {now : Instant} {short long : Span}
    (h : now.after short ≤ now.after long) : s.WaitsLonger now short long where
  claimed worker queues := s.noSooner_claim worker queues h
  retried t id := s.noSooner_retry t id h
  enqueued t fresh submission := s.noSooner_enqueue t fresh submission h

namespace Job

/-- Mail that was handed out at the beginning of the calendar, and has given up as many attempts as
words can count but for one. -/
def ancientMail : Job :=
  { (Submission.pendingJob (.plain "mail" "send" (.object []) .least) .nil .least).leased "postman"
      .zero .least with
    attempts := 4294967294
    maxAttempts := 4294967295 }

end Job

namespace Store

variable {s : Store} {now : Instant} {job : Job} {m : Move} {d : Stats.Delta} {n k : ℕ}

/-- What happens when a move takes the total of a day to an integer that words do not hold. -/
structure Overruns (s : Store) (now : Instant) (job : Job) (m : Move) (total : Int) : Prop where
  found : s.find? job.id = some job
  /-- Words hold what was counted before. -/
  held : (s.statsOn job.queue now.date).Fits
  overflows : ∃ d, m.delta? now job = some d ∧
    (s.statsOn job.queue now.date).checkedApply d = .error .total
  /-- The move is applied all the same. -/
  applied : (s.move now job.id m).1 = .ok .applied
  counted : ((s.move now job.id m).2.statsOn job.queue now.date).totalMillis = total
  shown : ((s.move now job.id m).2.statsOn job.queue now.date).inWords.totalMillis = inWord total

/-- It happens when the time of the job is too much for the total. -/
lemma overruns (hfound : s.find? job.id = some job) (hallowed : m.allowed job = true)
    (hdelta : m.delta? now job = some d) (hheld : (s.statsOn job.queue now.date).Fits)
    (hover : ¬FitsWord ((s.statsOn job.queue now.date).totalMillis + d.millis)) :
    s.Overruns now job m ((s.statsOn job.queue now.date).totalMillis + d.millis) := by
  have hrecorded := statsOn_move hfound hallowed hdelta
  have hcounted : ((s.move now job.id m).2.statsOn job.queue now.date).totalMillis =
      (s.statsOn job.queue now.date).totalMillis + d.millis := congrArg Stats.totalMillis hrecorded
  exact {
    found := hfound
    held := hheld
    overflows := ⟨d, hdelta, (Stats.recorded _ d).overflows fun hfits => hover hfits.2.2.2.1⟩
    applied := congrArg Prod.fst (move_of_allowed hfound hallowed)
    counted := hcounted
    shown := congrArg inWord hcounted }

/-- So it does with the first of some slow letters for whose time the total has no room. -/
lemma Closing.overruns (hs : s.Closing n k) (hk : k < n)
    (hheld : k * 8210266876799999 ≤ 9223372036854775807)
    (hover : 9223372036854775807 < (k + 1) * 8210266876799999) :
    s.Overruns .greatest (slowLetter k) (.complete []) ((k + 1) * 8210266876799999) := by
  have hbefore : s.statsOn (slowLetter k).queue Instant.greatest.date = _ := hs.stats
  have htotal : (s.statsOn (slowLetter k).queue Instant.greatest.date).totalMillis +
      8210266876799999 = (k + 1) * 8210266876799999 := by
    rw [hbefore, Int.add_mul, Int.one_mul]
    rfl
  rw [← htotal]
  refine Store.overruns (hs.found k (Nat.le_refl k) hk) rfl (delta?_slowLetter k) ?_ ?_
  · rw [hbefore]
    show FitsWord 0 ∧ FitsWord k ∧ FitsWord 0 ∧ FitsWord (k * 8210266876799999) ∧ FitsWord (k + 0)
    unfold FitsWord
    omega
  · rw [htotal]
    unfold FitsWord
    omega

end Store

end LeaseQueue
