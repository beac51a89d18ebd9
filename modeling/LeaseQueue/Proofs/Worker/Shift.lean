import LeaseQueue.Proofs.Worker.Fleet

/-!
# The life of a job under one worker

A worker has a store to itself and ticks on its only job (`Shift`), whose handler comes out as it
likes, run by run.  As long as the handler fails and attempts are left, a tick leaves the job
waiting for the next one (`Shift.after_of_lt`); the first success or the last attempt ends it
(`Shift.after_runsNeeded`), and from then on the ticks come back empty
(`Shift.after_add_of_terminal`).  `runsNeeded` says when that is.
-/

namespace LeaseQueue

/-! ### Outcomes -/

/-- Whether the run of a handler can end like this by the doing of the handler: it returns or
panics. -/
def Ending.IsOwn : Ending → Prop
  | .success | .error _ | .panic _ | .panicOf _ => True
  | .unhandled _ | .aborted _ => False

/-- How often a handler with these outcomes is run when `m` attempts are allowed: up to its first
success if that comes in time, and `m` times otherwise. -/
def runsNeeded (outcome : ℕ → Ending) (m : ℕ) : ℕ :=
  min m ((List.range m).findIdx (fun i => decide (outcome i = .success)) + 1)

section Outcomes

variable {outcome : ℕ → Ending} {m i : ℕ}

/-- No handler is run more often than allowed. -/
lemma runsNeeded_le : runsNeeded outcome m ≤ m := Nat.min_le_left _ _

/-- A handler that may be run is run. -/
lemma one_le_runsNeeded (hm : 1 ≤ m) : 1 ≤ runsNeeded outcome m :=
  Nat.le_min.2 ⟨hm, Nat.le_add_left _ _⟩

/-- A run that is followed by another one was no success. -/
lemma ne_success_of_lt (hi : i + 1 < runsNeeded outcome m) : outcome i ≠ .success := by
  have hfirst : i + 1 < (List.range m).findIdx (fun i => decide (outcome i = .success)) + 1 :=
    lt_of_lt_of_le hi (Nat.min_le_right _ _)
  have hnot := List.not_of_lt_findIdx (Nat.lt_of_succ_lt_succ hfirst)
  simpa using hnot

/-- The last run is a success if attempts are left. -/
lemma success_of_lt (hlt : runsNeeded outcome m < m) :
    outcome (runsNeeded outcome m - 1) = .success := by
  have hruns : runsNeeded outcome m =
      (List.range m).findIdx (fun i => decide (outcome i = .success)) + 1 := by
    unfold runsNeeded at hlt ⊢
    omega
  have hfound : (List.range m).findIdx (fun i => decide (outcome i = .success)) <
      (List.range m).length := by
    rw [List.length_range]
    omega
  have hsuccess := List.findIdx_getElem (w := hfound)
  rw [hruns]
  simpa using hsuccess

/-- A handler that comes to its own end fails for a reason that may go away, or succeeds. -/
lemma Ending.IsOwn.cases {ending : Ending} (h : ending.IsOwn) :
    ending = .success ∨
      ∃ failure, ending.failure? = some failure ∧ failure.isRetryable = true := by
  cases ending with
  | success => exact .inl rfl
  | error message => exact .inr ⟨_, rfl, rfl⟩
  | panic message => exact .inr ⟨_, rfl, rfl⟩
  | panicOf task => exact .inr ⟨_, rfl, rfl⟩
  | unhandled type => exact h.elim
  | aborted task => exact h.elim

end Outcomes

/-! ### Shifts -/

/-- When a tick happens, how long a handler that it starts runs, and when that is through. -/
structure Beat where
  now : Instant
  millis : ℕ
  reported : Instant

/-- What a worker did so far that has a store to itself. -/
structure Shift where
  store : Store
  /-- What the handlers were told, the first run first. -/
  runs : List (Context × String) := []
  /-- What the ticks came back with, the first tick first. -/
  ticks : List (Except String (Option Ident)) := []

variable {η : Type}

/-- What the handler of a claimed job is told, if it has one. -/
def Worker.told? (duty : Duty η) (name : String) (job : Job) : Option (Context × String) :=
  (duty.registry.get? job.type).map fun _ => (job.context name, job.payloadText)

namespace Shift

/-- One more tick; `outcome` lists how the runs of handlers come out. -/
def tick (duty : Duty η) (name : String) (outcome : ℕ → Ending) (s : Shift) (b : Beat) : Shift :=
  let claimed := (s.store.claim b.now name duty.queues duty.lease).1
  let r := Worker.tick Backend.ofStore duty name
    (fun _ _ => ⟨outcome s.runs.length, b.millis, b.reported⟩) b.now s.store
  { store := r.2
    runs := s.runs ++ (claimed.bind (Worker.told? duty name)).toList
    ticks := s.ticks ++ [r.1] }

/-- The shift after a number of ticks. -/
def after (duty : Duty η) (name : String) (outcome : ℕ → Ending) (beats : ℕ → Beat) (s : Store) :
    ℕ → Shift
  | 0 => { store := s }
  | n + 1 => (after duty name outcome beats s n).tick duty name outcome (beats n)

end Shift

/-! ### One tick -/

section Tick

variable {duty : Duty η} {name : String} {s t : Store} {job : Job} {now : Instant}

/-- A tick that finds no job does nothing. -/
lemma Worker.tick_of_none (handle : η → Job → Worker.Finish)
    (hclaim : s.claim now name duty.queues duty.lease = (none, s)) :
    Worker.tick Backend.ofStore duty name handle now s = (.ok none, s) := by
  have hcall := Worker.claim_ofStore duty name now s
  rw [hclaim] at hcall
  exact Action.bind_of_ok hcall

/-- A tick that finds a job runs its handler and reports how that ended. -/
lemma Worker.tick_of_some (handle : η → Job → Worker.Finish)
    (hclaim : s.claim now name duty.queues duty.lease = (some job, t)) :
    Worker.tick Backend.ofStore duty name handle now s =
      let finish := Worker.finish duty handle job now
      (.ok (some job.id), (t.step finish.instant (.move job.id
        (Worker.verdict duty.backoff job finish.ending finish.millis finish.instant))).2) := by
  have hcall := Worker.claim_ofStore duty name now s
  rw [hclaim] at hcall
  exact (Action.bind_of_ok hcall).trans (Action.bind_of_ok (Worker.report_ofStore ..))

/-- A failure that may go away is tried again while attempts are left. -/
lemma Worker.verdict_of_spare {backoff : UInt32 → Span} {ending : Ending} {millis : ℕ}
    {failure : Failure} (hfailure : ending.failure? = some failure)
    (hretryable : failure.isRetryable = true)
    (hspare : job.attempts.toNat + 1 < job.maxAttempts.toNat) :
    Worker.verdict backoff job ending millis now =
      .retry (now.after (backoff (job.attempts + 1))) := by
  have hlast : job.isFinalAttempt = false := by
    unfold Job.isFinalAttempt
    exact decide_eq_false (by omega)
  unfold Worker.verdict
  simp only [hfailure, hretryable, hlast, Bool.not_true, Bool.or_self, Bool.false_eq_true, if_false]

/-- A failure of the last attempt is final. -/
lemma Worker.verdict_of_last {backoff : UInt32 → Span} {ending : Ending} {millis : ℕ}
    {failure : Failure} (hfailure : ending.failure? = some failure)
    (hlast : job.maxAttempts.toNat ≤ job.attempts.toNat + 1) :
    Worker.verdict backoff job ending millis now = .fail failure := by
  have hfinal : job.isFinalAttempt = true := decide_eq_true hlast
  unfold Worker.verdict
  simp only [hfailure, hfinal, Bool.or_true, if_true]

/-- The only job is handed out if it is up for a claim. -/
lemma Store.claim_of_only (hjobs : s.jobs = [job]) {queues : List String}
    (hqueue : job.queue ∈ queues) (hclaim : job.isClaimable now = true) (name : String)
    (lease : Span) :
    s.claim now name queues lease =
      (some (job.leased name lease now), { s with jobs := [job.leased name lease now] }) := by
  have heligible : s.eligible queues now = [job] := by
    simp [Store.eligible, hjobs, hqueue, hclaim]
  have hforemost : Job.foremost? (s.eligible queues now) = some job := by
    rw [heligible]
    rfl
  rw [Store.claim_of_some hforemost]
  simp [Store.hand, Store.update, hjobs]

/-- Nothing is handed out if the only job is not up for a claim. -/
lemma Store.claim_of_only_closed (hjobs : s.jobs = [job]) (hclaim : job.isClaimable now = false)
    (name : String) (queues : List String) (lease : Span) :
    s.claim now name queues lease = (none, s) := by
  have heligible : s.eligible queues now = [] := by
    simp [Store.eligible, hjobs, hclaim]
  refine Store.claim_of_none ?_
  rw [heligible]
  rfl

/-- The only job is moved if the move applies to it. -/
lemma Store.step_move_of_only (hjobs : s.jobs = [job]) {m : Move}
    (hallowed : m.allowed job = true) :
    (s.step now (.move job.id m)).2.jobs = [m.apply now job] := by
  have hfound : s.find? job.id = some job := by
    simp [Store.find?, hjobs]
  rw [Store.step_move_snd, Store.move_of_allowed hfound hallowed, Store.settle_jobs]
  simp [Store.update, hjobs]

namespace Shift

variable {sh : Shift} {b : Beat}

/-- A tick on the only job, when that is up for a claim and has a handler: the handler is run with
the attempts so far and the payload, and the job is left as the worker sees fit. -/
lemma tick_of_only (hjobs : sh.store.jobs = [job]) (hqueue : job.queue ∈ duty.queues)
    (hclaim : job.isClaimable b.now = true) (hhandled : (duty.registry.get? job.type).isSome)
    (name : String) (outcome : ℕ → Ending) :
    (sh.tick duty name outcome b).store.jobs =
        [(Worker.verdict duty.backoff (job.leased name duty.lease b.now) (outcome sh.runs.length)
          b.millis b.reported).apply b.reported (job.leased name duty.lease b.now)] ∧
      (sh.tick duty name outcome b).runs = sh.runs ++ [(job.context name, job.payloadText)] ∧
      (sh.tick duty name outcome b).ticks = sh.ticks ++ [.ok (some job.id)] := by
  obtain ⟨handler, hhandler⟩ := Option.isSome_iff_exists.1 hhandled
  set leased := job.leased name duty.lease b.now with hleased
  have hclaimed := Store.claim_of_only hjobs hqueue hclaim name duty.lease
  rw [← hleased] at hclaimed
  have hprocessing : leased.status = .processing := rfl
  have hallowed := Worker.allowed_verdict hprocessing duty.backoff (outcome sh.runs.length)
    b.millis b.reported
  have htick := Worker.tick_of_some
    (fun _ _ => ⟨outcome sh.runs.length, b.millis, b.reported⟩) hclaimed
  have hfinish : Worker.finish duty
      (fun _ _ => ⟨outcome sh.runs.length, b.millis, b.reported⟩) leased b.now =
        ⟨outcome sh.runs.length, b.millis, b.reported⟩ := by
    have hget : duty.registry.get? leased.type = some handler := hhandler
    unfold Worker.finish
    rw [hget]
  have htold : Worker.told? duty name leased = some (job.context name, job.payloadText) := by
    have hget : duty.registry.get? leased.type = some handler := hhandler
    unfold Worker.told?
    rw [hget]
    rfl
  simp only [hfinish] at htick
  unfold tick
  simp only [htick, hclaimed, Option.bind_some, htold, Option.toList_some]
  exact ⟨Store.step_move_of_only rfl hallowed, trivial, rfl⟩

/-- A tick that finds the only job closed changes nothing. -/
lemma tick_of_closed (hjobs : sh.store.jobs = [job]) (hclaim : job.isClaimable b.now = false)
    (duty : Duty η) (name : String) (outcome : ℕ → Ending) :
    sh.tick duty name outcome b = { sh with ticks := sh.ticks ++ [.ok none] } := by
  have hclaimed :=
    Store.claim_of_only_closed hjobs hclaim name duty.queues duty.lease
  unfold tick
  simp only [Worker.tick_of_none _ hclaimed, hclaimed, Option.bind_none, Option.toList_none,
    List.append_nil]

end Shift

end Tick

/-! ### Tick after tick -/

/-- The job after `n` runs whose handler failed: it waits for the next one. -/
def Job.retried (job : Job) (backoff : UInt32 → Span) (beats : ℕ → Beat) : ℕ → Job
  | 0 => job
  | n + 1 =>
    { job.released with
      status := .pending
      attempts := .ofNat (n + 1)
      scheduledAt := (beats n).reported.after (backoff (.ofNat (n + 1)))
      startedAt := some (beats n).now
      updatedAt := (beats n).reported }

/-- What the handler of a job is told in its run number `i`, counted from zero. -/
def Job.call (job : Job) (name : String) (i : ℕ) : Context × String :=
  ({ job.context name with attempt := .ofNat i }, job.payloadText)

/-- Each of the `n` ticks of a shift ran the handler of the job. -/
structure Shift.RanEach (sh : Shift) (job : Job) (name : String) (n : ℕ) : Prop where
  runs : sh.runs = (List.range n).map (job.call name)
  ticks : sh.ticks = List.replicate n (.ok (some job.id))

/-- How a job stands after `n` runs that failed, with another one to come. -/
structure Job.WaitsAfter (j : Job) (n : ℕ) : Prop where
  pending : j.status = .pending
  attempts : j.attempts.toNat = n
  result : j.result = none
  errorMessage : j.errorMessage = none
  errorKind : j.errorKind = none
  worker : j.worker = none
  lockedAt : j.lockedAt = none
  lockedUntil : j.lockedUntil = none

/-- How a job stands after its last run: a success completes it, and otherwise it failed with what
the handler said. -/
def Job.EndsAs (j : Job) (b : Beat) : Ending → Prop
  | .success =>
    j.status = .completed ∧ j.result = some (Worker.result b.millis b.reported) ∧
      j.errorMessage = none ∧ j.errorKind = none
  | .error message =>
    j.status = .failed ∧ j.result = none ∧
      j.errorMessage = some message ∧ j.errorKind = some .handler
  | .panic message =>
    j.status = .failed ∧ j.result = none ∧
      j.errorMessage = some message ∧ j.errorKind = some .panic
  | .panicOf task =>
    j.status = .failed ∧ j.result = none ∧
      j.errorMessage = some ("task " ++ task ++ " panicked") ∧ j.errorKind = some .panic
  | .unhandled _ | .aborted _ => False

/-- A worker finds a fresh job that it can run, and no other one. -/
structure Shift.Start (duty : Duty η) (s : Store) (job : Job) : Prop where
  reachable : s.Reachable
  only : s.jobs = [job]
  pending : job.status = .pending
  fresh : job.attempts = 0
  queue : job.queue ∈ duty.queues
  handled : (duty.registry.get? job.type).isSome

namespace Shift

section Course

variable {duty : Duty η} {name : String} {outcome : ℕ → Ending} {beats : ℕ → Beat} {s : Store}
  {job : Job} {n : ℕ}

/-- The job has the shape of a pending one. -/
lemma Start.wellFormed (h : Start duty s job) : job.WellFormed :=
  (Store.Coherent.of_reachable h.reachable).wellFormed job (h.only ▸ List.mem_singleton_self job)

/-- The attempts of a waiting job are the runs so far. -/
lemma Start.attempts_retried (h : Start duty s job) (beats : ℕ → Beat)
    (hn : n < job.maxAttempts.toNat) :
    (job.retried duty.backoff beats n).attempts = .ofNat n ∧
      (job.retried duty.backoff beats n).attempts.toNat = n := by
  have hmax : job.maxAttempts.toNat < UInt32.size := job.maxAttempts.toNat_lt
  have heq : (job.retried duty.backoff beats n).attempts = .ofNat n := by
    cases n with
    | zero => exact h.fresh
    | succ n => rfl
  refine ⟨heq, ?_⟩
  rw [heq]
  exact UInt32.toNat_ofNat_of_lt' (by omega)

/-- Which attempt and which payload the handler of a waiting job is told. -/
lemma Start.call_retried (h : Start duty s job) (hn : n < job.maxAttempts.toNat) :
    ((job.retried duty.backoff beats n).context name,
        (job.retried duty.backoff beats n).payloadText) = job.call name n := by
  have hattempts := (h.attempts_retried beats hn).1
  cases n with
  | zero => simp [Job.call, Job.context, Job.retried, ← hattempts]
  | succ n => rfl

/-- A waiting job is up for a claim as soon as it is due. -/
lemma Start.isClaimable_retried (h : Start duty s job) {now : Instant}
    (hdue : (job.retried duty.backoff beats n).isDue now = true) :
    (job.retried duty.backoff beats n).isClaimable now = true := by
  have hstatus : (job.retried duty.backoff beats n).status = .pending := by
    cases n with
    | zero => exact h.pending
    | succ n => rfl
  unfold Job.isClaimable
  rw [hdue, hstatus]
  rfl

/-- The tick that a due job waits for. -/
lemma Start.tick_retried (h : Start duty s job) (hn : n < job.maxAttempts.toNat) {sh : Shift}
    {b : Beat} (hjobs : sh.store.jobs = [job.retried duty.backoff beats n])
    (hran : sh.RanEach job name n) (hdue : (job.retried duty.backoff beats n).isDue b.now = true)
    (outcome : ℕ → Ending) :
    let leased := (job.retried duty.backoff beats n).leased name duty.lease b.now
    (sh.tick duty name outcome b).store.jobs =
        [(Worker.verdict duty.backoff leased (outcome n) b.millis b.reported).apply b.reported
          leased] ∧
      (sh.tick duty name outcome b).RanEach job name (n + 1) := by
  obtain ⟨hruns, hticks⟩ := hran
  have hlength : sh.runs.length = n := by
    rw [hruns, List.length_map, List.length_range]
  have hid : (job.retried duty.backoff beats n).id = job.id := by cases n <;> rfl
  have hqueue : (job.retried duty.backoff beats n).queue ∈ duty.queues := by
    cases n <;> exact h.queue
  have hhandled : (duty.registry.get? (job.retried duty.backoff beats n).type).isSome := by
    cases n <;> exact h.handled
  obtain ⟨hjobs', hruns', hticks'⟩ :=
    tick_of_only hjobs hqueue (h.isClaimable_retried hdue) hhandled name outcome
  rw [hlength] at hjobs'
  refine ⟨hjobs', ?_, ?_⟩
  · rw [hruns', h.call_retried hn, hruns, List.range_succ, List.map_append]
    rfl
  · rw [hticks', hid, hticks, List.replicate_succ']

/-- A failed run with attempts left makes a waiting job wait once more. -/
lemma Start.apply_verdict_retried (h : Start duty s job) (hn : n + 1 < job.maxAttempts.toNat)
    {ending : Ending} {failure : Failure} (hfailure : ending.failure? = some failure)
    (hretryable : failure.isRetryable = true) :
    let leased := (job.retried duty.backoff beats n).leased name duty.lease (beats n).now
    (Worker.verdict duty.backoff leased ending (beats n).millis (beats n).reported).apply
      (beats n).reported leased = job.retried duty.backoff beats (n + 1) := by
  intro leased
  obtain ⟨hattempts, hcount⟩ := h.attempts_retried (n := n) beats (by omega)
  have hmax : leased.maxAttempts = job.maxAttempts := by cases n <;> rfl
  have hspare : leased.attempts.toNat + 1 < leased.maxAttempts.toNat := by
    rw [hmax]
    exact hcount.symm ▸ hn
  have hnext : leased.attempts + 1 = .ofNat (n + 1) := by
    rw [UInt32.ofNat_add]
    exact congrArg (· + 1) hattempts
  rw [Worker.verdict_of_spare hfailure hretryable hspare, Move.apply, hnext]
  cases n <;> rfl

/-- A job between two runs has neither a result nor an error nor a lease. -/
lemma Start.waitsAfter (h : Start duty s job) (beats : ℕ → Beat) (hn : n < job.maxAttempts.toNat) :
    (job.retried duty.backoff beats n).WaitsAfter n := by
  have hattempts := (h.attempts_retried beats hn).2
  have hopen : job.status.isTerminal = false := by
    rw [h.pending]
    rfl
  have hidle : ¬job.status = .processing := by
    rw [h.pending]
    exact Status.noConfusion
  obtain ⟨hresult, hmessage, hkind, -⟩ := h.wellFormed.unfinished hopen
  cases n with
  | zero =>
    exact
      { pending := h.pending
        attempts := hattempts
        result := hresult
        errorMessage := hmessage
        errorKind := hkind
        worker := Option.not_isSome_iff_eq_none.1 (mt h.wellFormed.worker_iff.1 hidle)
        lockedAt := Option.not_isSome_iff_eq_none.1 (mt h.wellFormed.lockedAt_iff.1 hidle)
        lockedUntil := Option.not_isSome_iff_eq_none.1 (mt h.wellFormed.lockedUntil_iff.1 hidle) }
  | succ n => exact ⟨rfl, hattempts, hresult, hmessage, hkind, rfl, rfl, rfl⟩

/-- A success, or a failure of the last attempt, ends the job and does not count as an attempt. -/
lemma Start.ends_retried (h : Start duty s job) (hn : n < job.maxAttempts.toNat) {ending : Ending}
    (hown : ending.IsOwn) (hlast : ending = .success ∨ n + 1 = job.maxAttempts.toNat) :
    let leased := (job.retried duty.backoff beats n).leased name duty.lease (beats n).now
    let ended :=
      (Worker.verdict duty.backoff leased ending (beats n).millis (beats n).reported).apply
        (beats n).reported leased
    ended.EndsAs (beats n) ending ∧ ended.attempts.toNat = n ∧ ended.status.isTerminal = true := by
  intro leased
  obtain ⟨-, hattempts, hresult, hmessage, hkind, -⟩ := h.waitsAfter beats hn
  by_cases hsuccess : ending = .success
  · subst hsuccess
    exact ⟨⟨rfl, rfl, hmessage, hkind⟩, hattempts, rfl⟩
  · have hmax : leased.maxAttempts = job.maxAttempts := by cases n <;> rfl
    have hcount : leased.maxAttempts.toNat ≤ leased.attempts.toNat + 1 := by
      have heq : leased.attempts.toNat = n := hattempts
      rw [hmax, heq, hlast.resolve_left hsuccess]
    cases ending with
    | success => exact absurd rfl hsuccess
    | error message =>
      have hfailure : (Ending.error message).failure? = some (.handler message) := rfl
      rw [Worker.verdict_of_last hfailure hcount]
      exact ⟨⟨rfl, hresult, rfl, rfl⟩, hattempts, rfl⟩
    | panic message =>
      have hfailure : (Ending.panic message).failure? = some ⟨.panic, message⟩ := rfl
      rw [Worker.verdict_of_last hfailure hcount]
      exact ⟨⟨rfl, hresult, rfl, rfl⟩, hattempts, rfl⟩
    | panicOf task =>
      have hfailure : (Ending.panicOf task).failure? =
          some ⟨.panic, "task " ++ task ++ " panicked"⟩ := rfl
      rw [Worker.verdict_of_last hfailure hcount]
      exact ⟨⟨rfl, hresult, rfl, rfl⟩, hattempts, rfl⟩
    | unhandled type => exact hown.elim
    | aborted task => exact hown.elim

variable (hstart : Start duty s job) (hown : ∀ i, (outcome i).IsOwn)
  (hdue : ∀ i < runsNeeded outcome job.maxAttempts.toNat,
    ∀ j ∈ (after duty name outcome beats s i).store.jobs, j.isDue (beats i).now = true)

include hstart hown hdue in
/-- Before its last run the job waits after every tick, and each tick has run its handler. -/
lemma after_of_lt (hn : n < runsNeeded outcome job.maxAttempts.toNat) :
    (after duty name outcome beats s n).store.jobs = [job.retried duty.backoff beats n] ∧
      (after duty name outcome beats s n).RanEach job name n := by
  induction n with
  | zero => exact ⟨hstart.only, rfl, rfl⟩
  | succ n ih =>
    obtain ⟨hjobs, hran⟩ := ih (by omega)
    have hspare : n + 1 < job.maxAttempts.toNat := lt_of_lt_of_le hn runsNeeded_le
    have hnow : (job.retried duty.backoff beats n).isDue (beats n).now = true :=
      hdue n (by omega) _ (by rw [hjobs]; exact List.mem_singleton_self _)
    obtain ⟨hjobs', hran'⟩ := hstart.tick_retried (by omega) hjobs hran hnow outcome
    obtain hsuccess | ⟨failure, hfailure, hretryable⟩ := (hown n).cases
    · exact absurd hsuccess (ne_success_of_lt hn)
    · rw [hstart.apply_verdict_retried hspare hfailure hretryable] at hjobs'
      exact ⟨hjobs', hran'⟩

include hstart hown hdue in
/-- The last tick that runs the handler ends the job. -/
lemma after_runsNeeded :
    let k := runsNeeded outcome job.maxAttempts.toNat
    (∃ j, (after duty name outcome beats s k).store.jobs = [j] ∧
        j.EndsAs (beats (k - 1)) (outcome (k - 1)) ∧ j.attempts.toNat = k - 1 ∧
        j.status.isTerminal = true) ∧
      (after duty name outcome beats s k).RanEach job name k := by
  intro k
  obtain ⟨n, hk⟩ : ∃ n, k = n + 1 :=
    Nat.exists_eq_add_of_le' (one_le_runsNeeded hstart.wellFormed.one_le_maxAttempts)
  have hle : k ≤ job.maxAttempts.toNat := runsNeeded_le
  have hlast : outcome n = .success ∨ n + 1 = job.maxAttempts.toNat := by
    rcases hle.lt_or_eq with hlt | heq
    · have hsuccess : outcome (k - 1) = .success := success_of_lt hlt
      rw [hk] at hsuccess
      exact .inl hsuccess
    · exact .inr (hk.symm.trans heq)
  obtain ⟨hjobs, hran⟩ := after_of_lt hstart hown hdue (n := n) (by omega)
  have hnow : (job.retried duty.backoff beats n).isDue (beats n).now = true :=
    hdue n (by omega) _ (by rw [hjobs]; exact List.mem_singleton_self _)
  obtain ⟨hjobs', hran'⟩ := hstart.tick_retried (by omega) hjobs hran hnow outcome
  rw [hk, Nat.add_sub_cancel]
  exact ⟨⟨_, hjobs', hstart.ends_retried (by omega) (hown n) hlast⟩, hran'⟩

/-- Ticks on a finished job come back empty. -/
lemma after_add_of_terminal {j : Job} {k : ℕ}
    (hjobs : (after duty name outcome beats s k).store.jobs = [j])
    (hterminal : j.status.isTerminal = true) (n : ℕ) :
    after duty name outcome beats s (k + n) =
      { after duty name outcome beats s k with
        ticks := (after duty name outcome beats s k).ticks ++ List.replicate n (.ok none) } := by
  induction n with
  | zero => simp
  | succ n ih =>
    have hclosed : j.isClaimable (beats (k + n)).now = false :=
      Bool.eq_false_iff.2 fun hclaim => Job.not_isTerminal_of_isClaimable hclaim hterminal
    have hjobs' : (after duty name outcome beats s (k + n)).store.jobs = [j] := by
      rw [ih]
      exact hjobs
    rw [← Nat.add_assoc, after, tick_of_closed hjobs' hclosed, ih, List.replicate_succ',
      ← List.append_assoc]

end Course

/-- How the shift of a worker goes that finds nothing but a fresh job, seen after every number of
ticks, when `k` is the number of runs of the handler. -/
structure Lifecycle (duty : Duty η) (job : Job) (name : String) (outcome : ℕ → Ending)
    (beats : ℕ → Beat) (k : ℕ) (shift : ℕ → Shift) : Prop where
  /-- The first `k` ticks run the handler, each time with one attempt more and with the payload of
  the job. -/
  runs : ∀ n, (shift n).runs = (List.range (min n k)).map (job.call name)
  /-- They come back with the job, and all others with nothing. -/
  ticks : ∀ n, (shift n).ticks =
    List.replicate (min n k) (.ok (some job.id)) ++ List.replicate (n - k) (.ok none)
  /-- As long as the last run is still to come the job waits. -/
  waiting : ∀ n < k, (shift n).store.jobs = [job.retried duty.backoff beats n] ∧
    (job.retried duty.backoff beats n).WaitsAfter n
  /-- The last run ends it, and is not counted as an attempt that was given up. -/
  ended : ∃ j, (shift k).store.jobs = [j] ∧ j.attempts.toNat = k - 1 ∧
    j.EndsAs (beats (k - 1)) (outcome (k - 1))
  /-- Later ticks change nothing. -/
  kept : ∀ n, k ≤ n → (shift n).store = (shift k).store

/-- A worker for mail that lets a second pass before it tries again. -/
def postDuty : Duty Unit := ⟨["mail"], .ofSeconds 60, 100, fun _ => .ofSeconds 1, ⟨[("send", ())]⟩⟩

/-- An error, a panic, and nothing but successes after that. -/
def thirdTimeLucky : ℕ → Ending
  | 0 => .error "busy"
  | 1 => .panic "boom"
  | _ => .success

/-- Two seconds from tick to tick; handlers take no time that a clock would show. -/
def everyOtherSecond (n : ℕ) : Beat :=
  let now := Instant.epoch.after (.ofSeconds (2 * n))
  ⟨now, 0, now⟩

end Shift

end LeaseQueue
