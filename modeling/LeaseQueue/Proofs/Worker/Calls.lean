import LeaseQueue.Proofs.Action
import LeaseQueue.Proofs.Time.After
import LeaseQueue.Proofs.Worker.Event
import LeaseQueue.Proofs.Worker.Shift

/-!
# What a tick asks of its backend

The calls to a backend can be written down, and the runs of handlers between them
(`Backend.observed`, `Worker.observed`); that changes nothing else.  `Worker.tick_seen` says what is
written down in a tick, whatever the backend answers and whatever the handler does to the world in
the meantime: one claim, and if that brings a job, the run of its handler, if it has one, and one
report.  `Worker.Reports` says which report that is, by how the run ended and by the job as it was
claimed; no answer of the backend but the job has a part in it.  In a pool the same calls are made
one step at a time (`Pool.request?`).
-/

namespace LeaseQueue

variable {σ η α : Type}

/-- Whether the calls that a worker makes always come back, be it with an error. -/
structure Backend.Answers (b : Backend σ) : Prop where
  claim : ∀ now worker queues lease s message,
    (b.claim now worker queues lease s).1 ≠ .error (.crash message)
  move : ∀ now id m s message, (b.move now id m s).1 ≠ .error (.crash message)

/-- Those to a store do. -/
lemma Backend.answers_ofStore : Backend.ofStore.Answers where
  claim := by
    intro now worker queues lease s message h
    cases h
  move := by
    intro now id m s message h
    change (answer (s.move now id m)).1 = _ at h
    rcases hmoved : s.move now id m with ⟨e | transition, t⟩ <;>
    · rw [hmoved] at h
      cases h

/-! ### Reports -/

/-- The failures after which a handler may be run again, by how its run ended. -/
inductive Ending.Faults : Ending → Failure → Prop
  | error (message : String) : Faults (.error message) ⟨.handler, message⟩
  | panic (message : String) : Faults (.panic message) ⟨.panic, message⟩
  | panicOf (task : String) : Faults (.panicOf task) ⟨.panic, "task " ++ task ++ " panicked"⟩

/-- A failure after which a handler may be run again is that of its run, and may be retried. -/
lemma Ending.Faults.failure {ending : Ending} {failure : Failure} (h : ending.Faults failure) :
    ending.failure? = some failure ∧ failure.isRetryable = true := by
  cases h <;> exact ⟨rfl, rfl⟩

namespace Worker

/-- What a worker has to report about a job, by how the run of its handler ended. -/
inductive Reports (backoff : UInt32 → Span) (job : Job) (millis : ℕ) (now : Instant) :
    Ending → Move → Prop
  /-- A success completes the job. -/
  | done : Reports backoff job millis now .success (.complete (result millis now))
  /-- While an attempt is left, the job is to be tried again after the delay for that attempt, which
  is added to the present as far as the calendar goes. -/
  | again {ending : Ending} {failure : Failure} {attempt : UInt32} {next : Instant}
      (hending : ending.Faults failure)
      (hspare : job.attempts.toNat + 1 < job.maxAttempts.toNat)
      (hattempt : attempt.toNat = job.attempts.toNat + 1)
      (hnext : next = now.after (backoff attempt))
      (hnanos : now.isLeap = false → Span.zero ≤ backoff attempt →
        next.nanos = min (now.nanos + (backoff attempt).nanos) Instant.greatest.nanos) :
      Reports backoff job millis now ending (.retry next)
  /-- With the last attempt the job fails as its handler did. -/
  | last {ending : Ending} {failure : Failure} (hending : ending.Faults failure)
      (hlast : job.maxAttempts.toNat ≤ job.attempts.toNat + 1) :
      Reports backoff job millis now ending (.fail failure)
  /-- When the run was stopped from outside, the job fails whatever attempts are left. -/
  | stopped (task : String) :
      Reports backoff job millis now (.aborted task)
        (.fail ⟨.infrastructure, "task " ++ task ++ " was cancelled"⟩)
  /-- So it does when there is no handler. -/
  | unhandled (type : String) :
      Reports backoff job millis now (.unhandled type)
        (.fail ⟨.noHandler, "no handler registered for job type: " ++ type⟩)

/-- After a failure that may go away a worker reports by the attempts that are left. -/
lemma reports_verdict_of_faults {backoff : UInt32 → Span} {job : Job} {ending : Ending}
    {failure : Failure} (hending : ending.Faults failure) (millis : ℕ) (now : Instant) :
    Reports backoff job millis now ending (verdict backoff job ending millis now) := by
  obtain ⟨hfailure, hretryable⟩ := hending.failure
  by_cases hspare : job.attempts.toNat + 1 < job.maxAttempts.toNat
  · rw [verdict_of_spare hfailure hretryable hspare]
    exact .again hending hspare (Job.toNat_attempts_succ (Nat.lt_of_succ_lt hspare)) rfl
      fun hnow hdelay => Instant.nanos_after hnow hdelay
  · rw [verdict_of_last hfailure (Nat.le_of_not_lt hspare)]
    exact .last hending (Nat.le_of_not_lt hspare)

/-- A worker reports what it has to. -/
lemma reports_verdict (backoff : UInt32 → Span) (job : Job) (ending : Ending) (millis : ℕ)
    (now : Instant) :
    Reports backoff job millis now ending (verdict backoff job ending millis now) := by
  cases ending with
  | success => exact .done
  | unhandled type => exact .unhandled type
  | aborted task => exact .stopped task
  | error message => exact reports_verdict_of_faults (.error message) millis now
  | panic message => exact reports_verdict_of_faults (.panic message) millis now
  | panicOf task => exact reports_verdict_of_faults (.panicOf task) millis now

/-! ### Ticks in a world that changes -/

/-- How the handling of a job ends, if its handler does to the world as told: at once when it has
none. -/
def handled (duty : Duty η) (run : η → Job → σ → Finish × σ) (job : Job) (now : Instant) :
    Action σ String Finish := fun s =>
  match duty.registry.get? job.type with
  | some handler => (.ok (run handler job s).1, (run handler job s).2)
  | none => (.ok ⟨.unhandled job.type, 0, now⟩, s)

/-- A whole tick in a world that may change while the handler runs. -/
def tickIn (b : Backend σ) (duty : Duty η) (worker : String) (run : η → Job → σ → Finish × σ)
    (now : Instant) : Action σ String (Option Ident) := do
  match ← claim b duty worker now with
  | none => return none
  | some job =>
    let finish ← handled duty run job now
    report b duty job finish.ending finish.millis finish.instant
    return some job.id

/-- The job that a claim brought, if it brought one. -/
def claimed? : Except Fault (Option Job) → Option Job
  | .ok job? => job?
  | .error _ => none

section Ticks

variable {b : Backend σ} {duty : Duty η} {worker : String} {run : η → Job → σ → Finish × σ}
  {now : Instant} {s t u : σ} {job : Job}

/-- A claim that brings no job. -/
lemma claim_ne_of_missed
    (hmissed : claimed? (b.claim now worker duty.queues duty.lease s).1 = none) (job : Job) :
    (claim b duty worker now s).1 ≠ .ok (some job) := by
  intro h
  rw [claim_eq] at h
  rcases hanswer : b.claim now worker duty.queues duty.lease s with ⟨(e | message) | job?, t⟩
  · rw [hanswer] at h
    cases h
  · rw [hanswer] at h
    cases h
  · rw [hanswer] at h hmissed
    obtain rfl : job? = none := hmissed
    cases h

/-- A claim that brings a job. -/
lemma claim_of_claimed
    (hclaimed : claimed? (b.claim now worker duty.queues duty.lease s).1 = some job) :
    claim b duty worker now s =
      (.ok (some job), (b.claim now worker duty.queues duty.lease s).2) := by
  rw [claim_eq]
  rcases hanswer : b.claim now worker duty.queues duty.lease s with ⟨fault | job?, t⟩
  · rw [hanswer] at hclaimed
    cases hclaimed
  · rw [hanswer] at hclaimed
    obtain rfl : job? = some job := hclaimed
    rfl

/-- A job whose type has a handler is handled by it. -/
lemma handled_of_some {handler : η} (hget : duty.registry.get? job.type = some handler) :
    handled duty run job now s = (.ok (run handler job s).1, (run handler job s).2) := by
  unfold handled
  rw [hget]

/-- A job whose type has none is not handled. -/
lemma handled_of_none (hget : duty.registry.get? job.type = none) :
    handled duty run job now s = (.ok ⟨.unhandled job.type, 0, now⟩, s) := by
  unfold handled
  rw [hget]

/-- A tick is one in a world that the handler leaves alone. -/
lemma tick_eq_tickIn (b : Backend σ) (duty : Duty η) (worker : String) (handle : η → Job → Finish)
    (now : Instant) :
    tick b duty worker handle now =
      tickIn b duty worker (fun handler job s => (handle handler job, s)) now := by
  have hhandled : ∀ job, handled duty (fun handler job (s : σ) => (handle handler job, s)) job now =
      pure (finish duty handle job now) := by
    intro job
    funext s
    unfold handled finish
    cases duty.registry.get? job.type <;> rfl
  unfold tick tickIn
  simp only [hhandled]
  rfl

/-- A tick whose claim brings no job ends there. -/
lemma tickIn_of_missed (hmissed : ∀ job, (claim b duty worker now s).1 ≠ .ok (some job)) :
    let r := claim b duty worker now s
    tickIn b duty worker run now s = (r.1.map fun _ => none, r.2) := by
  intro r
  rcases hclaim : r with ⟨message | _ | job, t⟩
  · exact Action.bind_of_error hclaim
  · exact Action.bind_of_ok hclaim
  · exact absurd (congrArg Prod.fst hclaim) (hmissed job)

/-- A tick whose claim brings a job goes on to the report about it. -/
lemma tickIn_of_claimed (hclaim : claim b duty worker now s = (.ok (some job), t)) {finish : Finish}
    (hhandled : handled duty run job now t = (.ok finish, u)) :
    let r := report b duty job finish.ending finish.millis finish.instant u
    tickIn b duty worker run now s = (r.1.map fun _ => some job.id, r.2) := by
  intro r
  refine (Action.bind_of_ok hclaim).trans ((Action.bind_of_ok hhandled).trans ?_)
  rcases hreport : r with ⟨message | _, v⟩
  · exact Action.bind_of_error hreport
  · exact Action.bind_of_ok hreport

/-- The handling of a job comes to an end. -/
lemma exists_handled (duty : Duty η) (run : η → Job → σ → Finish × σ) (job : Job) (now : Instant)
    (s : σ) : ∃ finish t, handled duty run job now s = (.ok finish, t) := by
  unfold handled
  cases duty.registry.get? job.type <;> exact ⟨_, _, rfl⟩

/-- If no call breaks off, a claim comes back with what the backend answered, errors dropped. -/
lemma claim_of_answers (hb : b.Answers) :
    (claim b duty worker now s).1 =
      .ok (claimed? (b.claim now worker duty.queues duty.lease s).1) := by
  rw [claim_eq]
  rcases hanswer : b.claim now worker duty.queues duty.lease s with ⟨(e | message) | job?, t⟩
  · rfl
  · exact absurd (congrArg Prod.fst hanswer) (hb.claim _ _ _ _ _ _)
  · rfl

/-- If no call breaks off, a report goes well. -/
lemma report_of_answers (hb : b.Answers) {ending : Ending} {millis : ℕ} :
    (report b duty job ending millis now s).1 = .ok () := by
  rw [report_eq]
  rcases htold : b.move now job.id (verdict duty.backoff job ending millis now) s with
    ⟨(e | message) | transition, t⟩
  · rfl
  · exact absurd (congrArg Prod.fst htold) (hb.move _ _ _ _ _)
  · rfl

/-- If no call breaks off, a tick comes back with the job that its claim brought. -/
lemma tickIn_of_answers (hb : b.Answers) :
    (tickIn b duty worker run now s).1 =
      .ok ((claimed? (b.claim now worker duty.queues duty.lease s).1).map Job.id) := by
  cases hclaimed : claimed? (b.claim now worker duty.queues duty.lease s).1 with
  | none =>
    rw [tickIn_of_missed (claim_ne_of_missed hclaimed)]
    dsimp only
    rw [claim_of_answers hb]
    rfl
  | some job =>
    obtain ⟨finish, u, hhandled⟩ := exists_handled duty run job now
      (b.claim now worker duty.queues duty.lease s).2
    rw [tickIn_of_claimed (claim_of_claimed hclaimed) hhandled]
    dsimp only
    rw [report_of_answers hb]
    rfl

end Ticks

end Worker

/-! ### Writing down -/

/-- What passes through a worker: a call to its backend, or the run of a handler. -/
inductive Seen (η : Type) where
  | call (op : Operation)
  | run (handler : η) (job : Job)

namespace Backend

/-- A call that is written down. -/
def noted (op : Operation) (call : Call σ α) : Call (σ × List (Seen η)) α := fun s =>
  ((call s.1).1, (call s.1).2, s.2 ++ [.call op])

/-- A backend whose calls are written down. -/
def observed (η : Type) (b : Backend σ) : Backend (σ × List (Seen η)) where
  enqueue now fresh submission := noted (.enqueue fresh submission) (b.enqueue now fresh submission)
  claim now worker queues lease :=
    noted (.claim worker queues lease) (b.claim now worker queues lease)
  move now id m := noted (.move id m) (b.move now id m)
  get id := noted (.get id) (b.get id)
  stats queue date := noted (.stats queue date) (b.stats queue date)
  select f := noted (.select f) (b.select f)

end Backend

namespace Worker

/-- Handlers whose runs are written down. -/
def observed (run : η → Job → σ → Finish × σ) :
    η → Job → σ × List (Seen η) → Finish × σ × List (Seen η) := fun handler job s =>
  ((run handler job s.1).1, (run handler job s.1).2, s.2 ++ [.run handler job])

section Observed

variable (b : Backend σ) (duty : Duty η) (worker : String) (run : η → Job → σ → Finish × σ)
  (now : Instant) (s : σ) (seen : List (Seen η))

/-- A claim is one call to the backend. -/
lemma claim_observed :
    let r := claim b duty worker now s
    claim (b.observed η) duty worker now (s, seen) =
      (r.1, r.2, seen ++ [.call (.claim worker duty.queues duty.lease)]) := by
  intro r
  have hr : r = _ := claim_eq b duty worker now s
  rw [claim_eq, hr]
  rcases hanswer : b.claim now worker duty.queues duty.lease s with ⟨(e | message) | job?, t⟩ <;>
    simp only [Backend.observed, Backend.noted, hanswer]

/-- A report is one call to the backend. -/
lemma report_observed (job : Job) (finish : Finish) :
    let r := report b duty job finish.ending finish.millis finish.instant s
    report (b.observed η) duty job finish.ending finish.millis finish.instant (s, seen) =
      (r.1, r.2, seen ++ [.call (.move job.id
        (verdict duty.backoff job finish.ending finish.millis finish.instant))]) := by
  intro r
  have hr : r = _ := report_eq b duty job finish.ending finish.millis finish.instant s
  rw [report_eq, hr]
  rcases hanswer : b.move finish.instant job.id
    (verdict duty.backoff job finish.ending finish.millis finish.instant) s with
      ⟨(e | message) | transition, t⟩ <;>
    simp only [Backend.observed, Backend.noted, hanswer]

/-- The handling of a job is one run of its handler, if it has one. -/
lemma handled_observed (job : Job) :
    let r := handled duty run job now s
    handled duty (observed run) job now (s, seen) =
      (r.1, r.2, seen ++ (duty.registry.get? job.type).toList.map (.run · job)) := by
  intro r
  unfold r handled
  cases duty.registry.get? job.type with
  | none => simp
  | some handler => rfl

variable {b duty worker run now s} {u : σ} {job : Job} {finish : Finish}

/-- What is written down in a tick whose claim brings no job. -/
lemma tickIn_observed_of_missed
    (hmissed : claimed? (b.claim now worker duty.queues duty.lease s).1 = none) :
    let r := tickIn b duty worker run now s
    tickIn (b.observed η) duty worker (observed run) now (s, []) =
      (r.1, r.2, [.call (.claim worker duty.queues duty.lease)]) := by
  intro r
  have hseen := claim_observed b duty worker now s []
  have hne : ∀ job, (claim (b.observed η) duty worker now (s, [])).1 ≠ .ok (some job) := by
    rw [hseen]
    exact claim_ne_of_missed hmissed
  have hr : r = _ := tickIn_of_missed (claim_ne_of_missed hmissed)
  rw [tickIn_of_missed hne, hseen, hr]
  rfl

/-- What is written down in a tick whose claim brings a job. -/
lemma tickIn_observed_of_claimed
    (hclaimed : claimed? (b.claim now worker duty.queues duty.lease s).1 = some job)
    (hhandled : handled duty run job now (b.claim now worker duty.queues duty.lease s).2 =
      (.ok finish, u)) :
    let r := tickIn b duty worker run now s
    let m := verdict duty.backoff job finish.ending finish.millis finish.instant
    tickIn (b.observed η) duty worker (observed run) now (s, []) =
      (r.1, r.2, .call (.claim worker duty.queues duty.lease) ::
        (duty.registry.get? job.type).toList.map (.run · job) ++ [.call (.move job.id m)]) := by
  intro r m
  have hclaim := claim_of_claimed hclaimed
  have hclaim' := claim_observed b duty worker now s []
  rw [hclaim] at hclaim'
  have hhandled' := handled_observed duty run now (b.claim now worker duty.queues duty.lease s).2
    [.call (.claim worker duty.queues duty.lease)] job
  rw [hhandled] at hhandled'
  have hr : r = _ := tickIn_of_claimed hclaim hhandled
  rw [tickIn_of_claimed hclaim' hhandled', hr]
  dsimp only
  rw [report_observed]
  rfl

end Observed

/-- Whatever the backend answers, and whatever the handler does to the world in the meantime, a tick
makes one claim, and if that brings a job, one report about it.  The report is decided by the job as
it was claimed and by how the run of its handler ended, or by its having none; in that case nothing
is run.  The tick comes back with the identifier of the job, whatever the answer to the report, as
long as no call breaks off. -/
theorem tick_seen (b : Backend σ) (duty : Duty η) (worker : String)
    (run : η → Job → σ → Finish × σ) (now : Instant) (s : σ) :
    let answer := b.claim now worker duty.queues duty.lease s
    let r := tickIn (b.observed η) duty worker (observed run) now (s, [])
    (∀ handle : η → Job → Finish, tick b duty worker handle now =
      tickIn b duty worker (fun handler job s => (handle handler job, s)) now) ∧
    (r.1, r.2.1) = tickIn b duty worker run now s ∧
    (b.Answers → r.1 = .ok ((claimed? answer.1).map Job.id)) ∧
    ∃ rest, r.2.2 = .call (.claim worker duty.queues duty.lease) :: rest ∧
      (claimed? answer.1 = none → rest = []) ∧
      ∀ job, claimed? answer.1 = some job →
        (duty.registry.get? job.type = none →
          rest = [.call (.move job.id (.fail (.noHandler job.type)))]) ∧
        ∀ handler, duty.registry.get? job.type = some handler →
          let finish := (run handler job answer.2).1
          let m := verdict duty.backoff job finish.ending finish.millis finish.instant
          rest = [.run handler job, .call (.move job.id m)] ∧
            Reports duty.backoff job finish.millis finish.instant finish.ending m := by
  intro answer r
  have hresult : b.Answers → (tickIn b duty worker run now s).1 = _ := tickIn_of_answers
  refine ⟨fun handle => tick_eq_tickIn b duty worker handle now, ?_⟩
  cases hclaimed : claimed? answer.1 with
  | none =>
    have hseen : r = _ := tickIn_observed_of_missed hclaimed
    rw [hclaimed] at hresult
    rw [hseen]
    exact ⟨rfl, hresult, [], rfl, fun _ => rfl,
      fun job hjob => absurd hjob.symm (Option.some_ne_none job)⟩
  | some job =>
    rw [hclaimed] at hresult
    cases hget : duty.registry.get? job.type with
    | none =>
      have hhandled : handled duty run job now answer.2 = _ := handled_of_none hget
      have hseen : r = _ := tickIn_observed_of_claimed hclaimed hhandled
      rw [hget] at hseen
      rw [hseen]
      refine ⟨rfl, hresult, _, rfl, fun hnone => absurd hnone (Option.some_ne_none job),
        fun job' hjob => ?_⟩
      obtain rfl := Option.some.inj hjob
      exact ⟨fun _ => rfl, fun handler hhandler =>
        absurd (hhandler.symm.trans hget) (Option.some_ne_none handler)⟩
    | some handler =>
      have hhandled : handled duty run job now answer.2 = _ := handled_of_some hget
      have hseen : r = _ := tickIn_observed_of_claimed hclaimed hhandled
      rw [hget] at hseen
      rw [hseen]
      refine ⟨rfl, hresult, _, rfl, fun hnone => absurd hnone (Option.some_ne_none job),
        fun job' hjob => ?_⟩
      obtain rfl := Option.some.inj hjob
      refine ⟨fun hnone => absurd (hget.symm.trans hnone) (Option.some_ne_none handler),
        fun handler' hhandler => ?_⟩
      obtain rfl := Option.some.inj (hget.symm.trans hhandler)
      exact ⟨rfl, reports_verdict _ _ _ _ _⟩

/-- A worker that runs mails, and tries them again ten seconds later. -/
def postman : Duty Unit where
  queues := ["mail"]
  lease := .ofSeconds 60
  periodMillis := 1000
  backoff := fun _ => .ofSeconds 10
  registry := Registry.empty.register "send" ()

/-- A mail without content. -/
def emptyMail : Submission := .plain "mail" "send" (.object []) .epoch

/-- A mail whose handler returns an error at its first of three attempts is run once, and then the
store is told to put it off for ten seconds. -/
theorem bounced_mail_put_off :
    let s := (Store.empty.run [(.epoch, .enqueue .nil emptyMail)]).2
    let mail := (emptyMail.pendingJob .nil .epoch).leased "postman" (.ofSeconds 60) .epoch
    let bounce : Unit → Job → Store → Finish × Store :=
      fun _ _ s => (⟨.error "bounced", 5, .epoch⟩, s)
    let r := tickIn (Backend.ofStore.observed Unit) postman "postman" (observed bounce) .epoch (s, [])
    Backend.ofStore.Answers ∧ r.1 = .ok (some .nil) ∧
      r.2.2 = [.call (.claim "postman" ["mail"] (.ofSeconds 60)), .run () mail,
        .call (.move .nil (.retry (Instant.epoch.after (.ofSeconds 10))))] := by
  intro s mail bounce r
  obtain ⟨-, -, hresult, rest, hseen, -, hrest⟩ :=
    tick_seen Backend.ofStore postman "postman" bounce .epoch s
  obtain ⟨-, hhandled⟩ := hrest mail rfl
  obtain ⟨hreported, -⟩ := hhandled () rfl
  refine ⟨Backend.answers_ofStore, (hresult Backend.answers_ofStore).trans rfl, ?_⟩
  rw [hseen, hreported]
  rfl

end Worker

end LeaseQueue
