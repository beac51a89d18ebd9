import LeaseQueue.Proofs.Backoff.Policies
import LeaseQueue.Proofs.Store.Exclusive
import LeaseQueue.Proofs.Worker.Calls

/-!
# Retrying by hand

A job whose handler failed is put off by its worker, which goes by the job as it was claimed; a job
in the store is put off by hand through `Queue.retry`, which goes by the job as it is stored.  The
two count the next attempt each in its own way: by hand the count stops at the largest word, and a
worker has made sure before that an attempt is left.  `Queue.retry_of_spare` and
`Worker.report_of_spare` lead both to the same move, so that while the job is in the hands of the
worker they leave the same store (`Queue.retries_agree`): `Store.PutsOff` says which one.  From
there on the job is handed out again no sooner than it is due, whatever happens in the meantime
(`Store.due_of_putsOff`).
-/

namespace LeaseQueue

variable {η : Type} {s t : Store} {job : Job} {next now : Instant}

/-! ### Jobs that were put off -/

/-- Whether a store is left behind when a job of another one is put off: the job waits for the next
attempt without a lease, and nothing else is different, the statistics included. -/
structure Store.PutsOff (s : Store) (job : Job) (next now : Instant) (t : Store) : Prop where
  record : t.find? job.id = some { job with
    status := .pending
    attempts := job.attempts + 1
    scheduledAt := next
    worker := none
    lockedAt := none
    lockedUntil := none
    updatedAt := now }
  attempts : (job.attempts + 1).toNat = job.attempts.toNat + 1
  others : ∀ id, id ≠ job.id → t.find? id = s.find? id
  ledger : t.ledger = s.ledger

/-- An attempt is left for a job that has more than one ahead of it. -/
lemma Job.allowed_retry_of_spare (hprocessing : job.status = .processing)
    (hspare : job.attempts.toNat + 1 < job.maxAttempts.toNat) (next : Instant) :
    (Move.retry next).allowed job = true := by
  have hlt : job.attempts < job.maxAttempts :=
    UInt32.lt_iff_toNat_lt.2 (Nat.lt_of_succ_lt hspare)
  show (decide (job.status = .processing) && decide (job.attempts < job.maxAttempts)) = true
  rw [decide_eq_true hprocessing, decide_eq_true hlt]
  rfl

/-- A retry that applies puts its job off. -/
lemma Store.putsOff_settle (hfound : s.find? job.id = some job)
    (hallowed : (Move.retry next).allowed job = true) :
    s.PutsOff job next now (s.settle now job.id (.retry next) job) where
  record := by
    rw [find?_settle, find?_update s job.id job.id (Job.apply_id _ now), if_pos rfl, hfound]
    rfl
  attempts := (Job.attempts_succ_of_allowed hallowed).1
  others id hid := by
    rw [find?_settle, find?_update s job.id id (Job.apply_id _ now), if_neg hid]
  ledger := rfl

/-- A job that was put off is not handed out before it is due. -/
lemma Store.due_of_putsOff (ht : t.Coherent) (hput : s.PutsOff job next now t)
    {ops : List (Instant × Operation)} {pre post : History} {now' : Instant} {lease : Span}
    {j : Job} (hhistory : t.history ops job.id = pre ++ (now', .handed lease j) :: post)
    (hun : pre.Unhanded) : next ≤ now' := by
  have hlife := life_of_run ht ops job.id
  rw [hhistory, hput.record] at hlife
  obtain ⟨k, worker, hbefore, hclaim, -, -⟩ := hlife.at_claim
  obtain ⟨-, rfl⟩ := hbefore.eq_of_pending rfl hun hclaim
  exact Job.scheduledAt_le_of_isClaimable hclaim

/-! ### By hand and by a worker -/

/-- While an attempt is left, the count that stops at the largest word does not stop. -/
lemma Queue.nextAttempt_of_spare (q : Queue)
    (hspare : job.attempts.toNat + 1 < job.maxAttempts.toNat) :
    q.nextAttempt now job = now.after (q.backoff (job.attempts + 1)) := by
  have hmax := job.maxAttempts.toNat_lt
  have hsucc := Job.toNat_attempts_succ (Nat.lt_of_succ_lt hspare)
  have hcount : UInt32.ofNat (min 4294967295 (job.attempts.toNat + 1)) = job.attempts + 1 := by
    rw [Nat.min_eq_right (by omega), ← hsucc, UInt32.ofNat_toNat]
  unfold nextAttempt
  rw [hcount]

/-- By hand a job that is being processed and has an attempt left is put off. -/
lemma Queue.retry_of_spare (q : Queue) (hfound : s.find? job.id = some job)
    (hprocessing : job.status = .processing)
    (hspare : job.attempts.toNat + 1 < job.maxAttempts.toNat) (now : Instant) :
    q.retry Backend.ofStore now job.id s =
      (.ok .applied, s.settle now job.id
        (.retry (now.after (q.backoff (job.attempts + 1)))) job) := by
  have hget : getJob Backend.ofStore job.id s = (.ok job, s) := by
    have hanswer : Backend.ofStore.get job.id s = (.ok (some job), s) := by
      rw [← hfound]
      rfl
    have hcall : calling .get (Backend.ofStore.get job.id) s = (.ok (some job), s) := by
      unfold calling
      rw [hanswer]
    exact Action.bind_of_ok hcall
  have hallowed := Job.allowed_retry_of_spare hprocessing hspare
    (now.after (q.backoff (job.attempts + 1)))
  refine (Action.bind_of_ok hget).trans ?_
  rw [q.nextAttempt_of_spare hspare]
  unfold move calling Backend.ofStore Backend.answer
  simp only [Store.move_of_allowed hfound hallowed]

/-- A worker whose handler failed puts such a job off as well. -/
lemma Worker.report_of_spare (duty : Duty η) (hfound : s.find? job.id = some job)
    (hprocessing : job.status = .processing)
    (hspare : job.attempts.toNat + 1 < job.maxAttempts.toNat) {ending : Ending} {failure : Failure}
    (hending : ending.Faults failure) (millis : ℕ) (now : Instant) :
    report Backend.ofStore duty job ending millis now s =
      (.ok (), s.settle now job.id
        (.retry (now.after (duty.backoff (job.attempts + 1)))) job) := by
  obtain ⟨hfailure, hretryable⟩ := hending.failure
  have hallowed := Job.allowed_retry_of_spare hprocessing hspare
    (now.after (duty.backoff (job.attempts + 1)))
  rw [report_ofStore, verdict_of_spare hfailure hretryable hspare, Store.step_move_snd,
    Store.move_of_allowed hfound hallowed]

namespace Queue

/-- In every store, for every job that is being processed and has an attempt left, at every instant
and under every backoff that a queue and its workers have in common: by hand the job is put off as
by a worker whose handler failed, and the same store is left.  Under a policy the job is due after
the delay, as far as the calendar goes, where a leap second is counted as it passes; and it is not
due before the present.  If the store is one that operations lead to, the job bears no error, and no
claim from then on brings it before it is due. -/
theorem retries_agree {s : Store} {job : Job} (hfound : s.find? job.id = some job)
    (hprocessing : job.status = .processing)
    (hspare : job.attempts.toNat + 1 < job.maxAttempts.toNat) (q : Queue) {duty : Duty η}
    (hbackoff : duty.backoff = q.backoff) (now : Instant) :
    let next := now.after (q.backoff (job.attempts + 1))
    ∃ t, q.retry Backend.ofStore now job.id s = (.ok .applied, t) ∧
      (∀ (ending : Ending) (failure : Failure) (millis : ℕ), ending.Faults failure →
        Worker.report Backend.ofStore duty job ending millis now s = (.ok (), t)) ∧
      s.PutsOff job next now t ∧
      (∀ p : Policy, q.backoff = p.delay →
        (now.isLeap = false →
          next.nanos =
            min (now.nanos + (p.delay (job.attempts + 1)).nanos) Instant.greatest.nanos) ∧
        (now.isLeap = true →
          next.nanos =
            if now.fraction + (p.delay (job.attempts + 1)).nanos < ticksPerSecond then
              now.nanos + (p.delay (job.attempts + 1)).nanos
            else min (now.nanos + (p.delay (job.attempts + 1)).nanos - nanosPerSecond)
              Instant.greatest.nanos) ∧
        (now ≤ Instant.greatest → now ≤ next)) ∧
      (s.Reachable → job.errorMessage = none ∧ job.errorKind = none ∧
        ∀ (ops : List (Instant × Operation)) (pre post : History) (now' : Instant) (lease : Span)
          (j : Job), t.history ops job.id = pre ++ (now', .handed lease j) :: post →
          pre.Unhanded → next ≤ now') := by
  intro next
  have hallowed := Job.allowed_retry_of_spare hprocessing hspare next
  have hput : s.PutsOff job next now (s.settle now job.id (.retry next) job) :=
    Store.putsOff_settle hfound hallowed
  refine ⟨s.settle now job.id (.retry next) job, q.retry_of_spare hfound hprocessing hspare now,
    fun ending failure millis hending => ?_, hput, fun p hp => ?_, fun hs => ?_⟩
  · rw [Worker.report_of_spare duty hfound hprocessing hspare hending, hbackoff]
  · have hdelay : Span.zero ≤ p.delay (job.attempts + 1) := by
      rw [p.delay_eq, Policy.delayBy_eq, Span.le_def, Span.nanos_max]
      omega
    have hnext : next = now.after (p.delay (job.attempts + 1)) := by rw [← hp]
    rw [hnext]
    exact ⟨fun hnow => Instant.nanos_after hnow hdelay,
      fun hnow => Instant.nanos_after_of_isLeap hnow hdelay,
      Instant.le_after hdelay (Int.le_refl _)⟩
  · have hcoherent := Store.Coherent.of_reachable hs
    have hunfinished : job.status.isTerminal = false := by
      rw [hprocessing]
      rfl
    obtain ⟨-, hmessage, hkind, -⟩ :=
      (hcoherent.wellFormed job (Store.mem_of_find? hfound)).unfinished hunfinished
    refine ⟨hmessage, hkind, fun ops pre post now' lease j => ?_⟩
    exact Store.due_of_putsOff (hcoherent.settle hfound hallowed now) hput

/-- Mail that a worker has claimed at the epoch, under a lease of an hour. -/
def claimedMail : Job :=
  (Submission.pendingJob (.plain "mail" "send" (.object []) .epoch) .nil .epoch).leased "postman"
    (.ofSeconds 3600) .epoch

/-- The store in which it is. -/
def postOffice : Store :=
  (Store.empty.run
    [(.epoch, .enqueue .nil (.plain "mail" "send" (.object []) .epoch)),
      (.epoch, .claim "postman" ["mail"] (.ofSeconds 3600))]).2

/-- Claims by another worker, one and five minutes later. -/
def curiousClaims : List (Instant × Operation) :=
  [(Instant.epoch.after (.ofSeconds 60), .claim "clerk" ["mail"] .zero),
    (Instant.epoch.after (.ofSeconds 300), .claim "clerk" ["mail"] .zero)]

/-- Under the standard policy the mail is put off by five minutes, be it by hand or by the postman;
after one minute there is nothing to claim, and after five there is. -/
theorem torn_mail_put_off :
    let q := Queue.ofConfig .standard
    let duty : Duty Unit := ⟨["mail"], .ofSeconds 3600, 100, q.backoff, ⟨[("send", ())]⟩⟩
    let due := Instant.epoch.after (.ofSeconds 300)
    postOffice.find? claimedMail.id = some claimedMail ∧ claimedMail.status = .processing ∧
      claimedMail.attempts.toNat + 1 < claimedMail.maxAttempts.toNat ∧
      duty.backoff = q.backoff ∧ q.backoff = Policy.standard.delay ∧ postOffice.Reachable ∧
      ∃ t : Store,
        q.retry Backend.ofStore .epoch claimedMail.id postOffice = (.ok .applied, t) ∧
        Worker.report Backend.ofStore duty claimedMail (.panic "torn") 7 .epoch postOffice =
          (.ok (), t) ∧
        (t.history curiousClaims claimedMail.id).map Prod.fst = [due] ∧
        due.nanos = min (300000000000 : Int) Instant.greatest.nanos := by
  intro q duty due
  have hfound : postOffice.find? claimedMail.id = some claimedMail := rfl
  have hprocessing : claimedMail.status = .processing := rfl
  have hspare : claimedMail.attempts.toNat + 1 < claimedMail.maxAttempts.toNat := by decide
  have hbackoff : duty.backoff = q.backoff := rfl
  have hreachable : postOffice.Reachable := ⟨_, rfl⟩
  obtain ⟨t, hretry, hreport, -, hpolicy, -⟩ :=
    retries_agree hfound hprocessing hspare q hbackoff .epoch
  have hnanos := (hpolicy .standard rfl).1 (by decide)
  refine ⟨hfound, hprocessing, hspare, hbackoff, rfl, hreachable, t, hretry,
    hreport _ _ 7 (.panic "torn"), ?_, hnanos⟩
  obtain rfl : t = _ := (Prod.mk.inj (hretry.symm.trans rfl)).2
  rfl

end Queue

end LeaseQueue
