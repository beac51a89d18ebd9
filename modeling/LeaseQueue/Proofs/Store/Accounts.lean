import LeaseQueue.Proofs.Ledger
import LeaseQueue.Proofs.Store.Life
import Mathlib.Data.List.Induction

/-!
# What the statistics add up to

The ledger is written event by event, next to the jobs.  `Store.tally` counts instead what the jobs
themselves show, and `spent` sums the processing times over the events of a run.  The main
statement is that in every run the statistics of a queue on a day are this tally: nothing is
counted twice, missed, or put on another day, and a processing time runs from the last claim.
-/

namespace LeaseQueue

/-- The time of the last claim in a history. -/
def History.lastHanded (h : History) : Option Instant :=
  (h.filterMap fun x => match x.2 with
    | .handed _ _ => some x.1
    | _ => none).getLast?

/-- The job whose processing an operation that got a reply ended: it was completed, or it failed
while it was being processed. -/
def Store.ended? (s : Store) (op : Operation) (reply : Reply) : Option Job :=
  match op, reply with
  | .move id (.complete _), .moved .applied => s.find? id
  | .move id (.fail _), .moved .applied =>
    (s.find? id).filter fun j => decide (j.status = .processing)
  | _, _ => none

/-- The milliseconds that an event adds to the processing time of a queue on a day: those since
the last claim of the job whose processing it ended, none if they are negative. -/
def Event.millisOn (queue : String) (date : Date) (past : List Event) (e : Event) : Int :=
  match e.before.ended? e.op e.reply with
  | some job =>
    if job.queue = queue ∧ e.now.date = date then
      match (historyOf past job.id).lastHanded with
      | some last => max 0 (e.now.since last).toMillis
      | none => 0
    else 0
  | none => 0

/-- The processing time of a queue on a day, summed over events that follow others. -/
def spent (queue : String) (date : Date) : List Event → List Event → Int
  | _, [] => 0
  | past, e :: events => e.millisOn queue date past + spent queue date (past ++ [e]) events

namespace Job

/-- Whether a job was put into a queue on a day. -/
def enqueuedOn (queue : String) (date : Date) (j : Job) : Bool :=
  decide (j.queue = queue) && decide (j.createdAt.date = date)

/-- Whether a job of a queue came to an end with a status on a day. -/
def endedOn (queue : String) (date : Date) (status : Status) (j : Job) : Bool :=
  decide (j.queue = queue) && decide (j.status = status) &&
    j.completedAt.any fun t => decide (t.date = date)

end Job

namespace Store

/-- The statistics of a queue on a day as its jobs show them, with a given total of processing
time. -/
def tally (s : Store) (queue : String) (date : Date) (total : Int) : Stats :=
  Stats.ofCounts queue date (s.jobs.countP (Job.enqueuedOn queue date))
    (s.jobs.countP (Job.endedOn queue date .completed))
    (s.jobs.countP (Job.endedOn queue date .failed)) total

end Store

/-! ### Last claims -/

/-- The processing time of events goes on where that of the ones before them stopped. -/
lemma spent_append (queue : String) (date : Date) (past events more : List Event) :
    spent queue date past (events ++ more) =
      spent queue date past events + spent queue date (past ++ events) more := by
  induction events generalizing past with
  | nil => simp [spent]
  | cons e rest ih =>
    simp only [List.cons_append, spent, ih]
    rw [List.append_assoc, List.singleton_append, Int.add_assoc]

/-- A record was last started by the last claim in its history. -/
lemma Life.startedAt_eq {r r' : Option Job} {h : History} (hl : Life r h r') :
    r'.bind Job.startedAt = h.lastHanded.or (r.bind Job.startedAt) := by
  unfold History.lastHanded
  induction hl with
  | nil => rfl
  | @cons r r' r'' t d h hturns hlife ih =>
    rw [ih, List.filterMap_cons]
    cases hturns with
    | enqueued => rfl
    | @handed j worker lease hclaim =>
      rw [List.getLast?_cons]
      cases (h.filterMap _).getLast? <;> rfl
    | @moved j m hallowed => cases m <;> rfl

/-- What an event adds to the processing time, as the record of the job whose processing ends shows
it. -/
def Job.millisOn (queue : String) (date : Date) (now : Instant) (j : Job) : Int :=
  if j.queue = queue ∧ now.date = date then Stats.Delta.millisOf (j.startedAt.map now.since) else 0

/-- An event adds what the records show, if they were last started by the last claim. -/
lemma Event.millisOn_eq {e : Event} {past : List Event}
    (hstarted : ∀ job, e.before.ended? e.op e.reply = some job →
      job.startedAt = (historyOf past job.id).lastHanded) (queue : String) (date : Date) :
    e.millisOn queue date past =
      (e.before.ended? e.op e.reply).elim 0 (Job.millisOn queue date e.now) := by
  unfold millisOn
  cases hended : e.before.ended? e.op e.reply with
  | none => rfl
  | some job =>
    simp only [Option.elim_some, Job.millisOn, hstarted job hended]
    cases (historyOf past job.id).lastHanded with
    | none => rfl
    | some last =>
      simp only [Option.map_some, Stats.Delta.millisOf]
      rw [Int.max_comm]

/-- An operation whose reply reports no change ended no processing. -/
lemma Store.ended?_of_isIdle {s : Store} {op : Operation} {reply : Reply}
    (h : reply.isIdle = true) : s.ended? op reply = none := by
  unfold ended?
  split
  · exact absurd h Bool.false_ne_true
  · exact absurd h Bool.false_ne_true
  · rfl

/-- A job whose processing an operation ended is in the store that the operation found. -/
lemma Store.find?_of_ended? {s : Store} {op : Operation} {reply : Reply} {job : Job}
    (h : s.ended? op reply = some job) : s.find? job.id = some job := by
  unfold ended? at h
  split at h
  · exact id_of_find? h ▸ h
  · have hfound := (Option.filter_eq_some_iff.1 h).1
    exact id_of_find? hfound ▸ hfound
  · cases h

/-! ### Counts -/

namespace Job

/-- When a job was put in shows in its record. -/
lemma enqueuedOn_iff {j : Job} {queue : String} {date : Date} :
    j.enqueuedOn queue date = true ↔ j.queue = queue ∧ j.createdAt.date = date := by
  unfold enqueuedOn
  rw [Bool.and_eq_true, decide_eq_true_eq, decide_eq_true_eq]

/-- When a job came to an end shows in its record. -/
lemma endedOn_iff {j : Job} {queue : String} {date : Date} {status : Status} :
    j.endedOn queue date status = true ↔
      j.queue = queue ∧ j.status = status ∧ ∃ t, j.completedAt = some t ∧ t.date = date := by
  unfold endedOn
  rw [Bool.and_eq_true, Bool.and_eq_true, decide_eq_true_eq, decide_eq_true_eq, and_assoc,
    Option.any_eq_true]
  simp only [decide_eq_true_eq]

/-- A job did not come to an end with a status that it does not have. -/
lemma endedOn_of_ne {j : Job} {status : Status} (h : j.status ≠ status) (queue : String)
    (date : Date) : j.endedOn queue date status = false := by
  rw [Bool.eq_false_iff]
  intro hended
  exact h (endedOn_iff.1 hended).2.1

/-- A job that a move brings to an end ended on the day of the move. -/
lemma endedOn_apply {m : Move} {now : Instant} {j : Job} {status : Status}
    (hstatus : (m.apply now j).status = status)
    (hend : (m.apply now j).completedAt = some now) (queue : String) (date : Date) :
    (m.apply now j).endedOn queue date status = true ↔ j.queue = queue ∧ now.date = date := by
  rw [endedOn_iff, apply_queue, hend]
  simp [hstatus]

/-- A job that is not finished did not come to an end on any day. -/
lemma endedOn_of_unfinished {j : Job} (h : j.status.isTerminal = false) (queue : String)
    (date : Date) : j.endedOn queue date .completed = false ∧
      j.endedOn queue date .failed = false := by
  have hne : ∀ status : Status, status.isTerminal = true → j.status ≠ status := by
    intro status hterminal heq
    rw [heq, hterminal] at h
    exact Bool.noConfusion h
  exact ⟨endedOn_of_ne (hne .completed rfl) queue date, endedOn_of_ne (hne .failed rfl) queue date⟩

end Job

namespace Move

/-- What a move adds to the statistics of its queue and day. -/
def added (m : Move) (now : Instant) (j : Job) : Stats.Delta :=
  (m.delta? now j).getD ⟨0, 0, 0, 0⟩

/-- No move puts a job in. -/
lemma enqueued_added (m : Move) (now : Instant) (j : Job) : (m.added now j).enqueued = 0 := by
  cases m <;> rfl

section Shown

variable {m : Move} {now : Instant} {j : Job} {status : Status} {queue : String} {date : Date}

/-- A job that a move brings to an end shows it once, on the day of the move. -/
lemma shown_of_end (hstatus : (m.apply now j).status = status)
    (hend : (m.apply now j).completedAt = some now) :
    (if (m.apply now j).endedOn queue date status then (1 : Int) else 0) =
      if j.queue = queue ∧ now.date = date then 1 else 0 := by
  simp only [Job.endedOn_apply hstatus hend]

/-- A moved job shows no end with another status than its own. -/
lemma shown_of_ne (hne : (m.apply now j).status ≠ status) :
    (if (m.apply now j).endedOn queue date status then (1 : Int) else 0) =
      if j.queue = queue ∧ now.date = date then 0 else 0 := by
  rw [Job.endedOn_of_ne hne, ite_self]
  rfl

end Shown

/-- A moved job shows a completion where the move adds one. -/
lemma completed_added (m : Move) (now : Instant) (j : Job) (queue : String) (date : Date) :
    (if (m.apply now j).endedOn queue date .completed then (1 : Int) else 0) =
      if j.queue = queue ∧ now.date = date then (m.added now j).completed else 0 := by
  cases m with
  | complete result => exact shown_of_end rfl rfl
  | fail failure => exact shown_of_ne (by simp [apply])
  | retry next => exact shown_of_ne (by simp [apply])
  | cancel => exact shown_of_ne (by simp [apply])

/-- A moved job shows a failure where the move adds one. -/
lemma failed_added (m : Move) (now : Instant) (j : Job) (queue : String) (date : Date) :
    (if (m.apply now j).endedOn queue date .failed then (1 : Int) else 0) =
      if j.queue = queue ∧ now.date = date then (m.added now j).failed else 0 := by
  cases m with
  | complete result => exact shown_of_ne (by simp [apply])
  | fail failure => exact shown_of_end rfl rfl
  | retry next => exact shown_of_ne (by simp [apply])
  | cancel => exact shown_of_ne (by simp [apply])

end Move

namespace Store

/-- The processing that a move ends shows in the time that the move adds. -/
lemma millisOn_added {s : Store} {id : Ident} {job : Job} (hfound : s.find? id = some job)
    (m : Move) (now : Instant) (queue : String) (date : Date) :
    (s.ended? (.move id m) (.moved .applied)).elim 0 (Job.millisOn queue date now) =
      if job.queue = queue ∧ now.date = date then (m.added now job).millis else 0 := by
  cases m with
  | complete result =>
    have hended : s.ended? (.move id (.complete result)) (.moved .applied) = some job := hfound
    rw [hended]
    rfl
  | fail failure =>
    have hended : s.ended? (.move id (.fail failure)) (.moved .applied) =
        if job.status = .processing then some job else none := by
      simp only [ended?, hfound, Option.filter_some, decide_eq_true_eq]
    rw [hended]
    -- A failure always counts, but takes time only if the job was being processed.
    by_cases hprocessing : job.status = .processing
    · simp only [Move.added, Move.delta?, if_pos hprocessing]
      rfl
    · simp only [Move.added, Move.delta?, if_neg hprocessing]
      exact (ite_self _).symm
  | retry next => exact (ite_self _).symm
  | cancel => exact (ite_self _).symm

/-- Changing one job changes a count by what the job counted before and counts now. -/
lemma countP_update {s : Store} (hs : s.Distinct) {job : Job} (hjob : job ∈ s.jobs)
    (change : Job → Job) (p : Job → Bool) :
    (s.update job.id change).jobs.countP p + (if p job then 1 else 0) =
      s.jobs.countP p + (if p (change job) then 1 else 0) := by
  unfold Distinct at hs
  unfold update
  dsimp only
  generalize s.jobs = jobs at hs hjob ⊢
  induction jobs with
  | nil => exact absurd hjob List.not_mem_nil
  | cons head rest ih =>
    rw [List.map_cons, List.nodup_cons] at hs
    simp only [List.map_cons, List.countP_cons]
    rcases List.mem_cons.1 hjob with rfl | hmem
    · have hrest : (rest.map fun j => if j.id = job.id then change j else j) = rest := by
        refine (List.map_congr_left fun j hj => ?_).trans (List.map_id rest)
        exact if_neg fun heq : j.id = job.id => hs.1 (heq ▸ List.mem_map_of_mem hj)
      rw [hrest, if_pos rfl]
      omega
    · have hne : head.id ≠ job.id := fun heq =>
        hs.1 (heq ▸ List.mem_map_of_mem hmem)
      have hih := ih hs.2 hmem
      simp only [if_neg hne]
      omega

/-- The tally after a change to an unfinished job: the changed job may have come to an end. -/
lemma tally_update {s : Store} (hs : s.Distinct) {job : Job} (hjob : job ∈ s.jobs)
    (hopen : job.status.isTerminal = false) (change : Job → Job)
    (hqueue : (change job).queue = job.queue) (hcreated : (change job).createdAt = job.createdAt)
    (queue : String) (date : Date) (total : Int) :
    (s.update job.id change).tally queue date total =
      Stats.ofCounts queue date (s.jobs.countP (Job.enqueuedOn queue date))
        (s.jobs.countP (Job.endedOn queue date .completed) +
          if (change job).endedOn queue date .completed then 1 else 0)
        (s.jobs.countP (Job.endedOn queue date .failed) +
          if (change job).endedOn queue date .failed then 1 else 0) total := by
  have henqueued := countP_update hs hjob change (Job.enqueuedOn queue date)
  have hcompleted := countP_update hs hjob change (Job.endedOn queue date .completed)
  have hfailed := countP_update hs hjob change (Job.endedOn queue date .failed)
  obtain ⟨hnotCompleted, hnotFailed⟩ := Job.endedOn_of_unfinished hopen queue date
  have hsame : (change job).enqueuedOn queue date = job.enqueuedOn queue date := by
    unfold Job.enqueuedOn
    rw [hqueue, hcreated]
  rw [hsame] at henqueued
  rw [hnotCompleted, if_neg Bool.false_ne_true] at hcompleted
  rw [hnotFailed, if_neg Bool.false_ne_true] at hfailed
  unfold tally
  congr 1
  · omega
  · split_ifs at hcompleted ⊢ <;> omega
  · split_ifs at hfailed ⊢ <;> omega

/-- The tally after an unfinished job was put in. -/
lemma tally_put (s : Store) (now : Instant) {job : Job} (hopen : job.status.isTerminal = false)
    (queue : String) (date : Date) (total : Int) :
    (s.put now job).tally queue date total =
      Stats.ofCounts queue date
        (s.jobs.countP (Job.enqueuedOn queue date) + if job.enqueuedOn queue date then 1 else 0)
        (s.jobs.countP (Job.endedOn queue date .completed))
        (s.jobs.countP (Job.endedOn queue date .failed)) total := by
  obtain ⟨hnotCompleted, hnotFailed⟩ := Job.endedOn_of_unfinished hopen queue date
  unfold tally put
  simp only [List.countP_append, List.countP_singleton, hnotCompleted, hnotFailed]
  congr 1
  split_ifs <;> simp

/-- The tally after a move is that after the update it makes. -/
lemma tally_settle (s : Store) (now : Instant) (id : Ident) (m : Move) (job : Job)
    (queue : String) (date : Date) (total : Int) :
    (s.settle now id m job).tally queue date total =
      (s.update id (m.apply now)).tally queue date total := by
  unfold tally
  rw [settle_jobs]

/-! ### Steps -/

section Steps

variable {s : Store} {queue : String} {date : Date} {total : Int}

/-- The statistics after a move: what it adds goes to its queue and day. -/
lemma statsOn_settle (h : s.statsOn queue date = s.tally queue date total) (now : Instant)
    (id : Ident) (m : Move) (job : Job) :
    (s.settle now id m job).statsOn queue date =
      if job.queue = queue ∧ now.date = date then
        (s.tally queue date total).apply (m.added now job)
      else s.tally queue date total := by
  unfold settle Move.added
  cases m.delta? now job with
  | none =>
    have hnothing : (s.tally queue date total).apply ⟨0, 0, 0, 0⟩ = s.tally queue date total := by
      rw [tally, Stats.apply_ofCounts]
      simp
    rw [Option.getD_none, hnothing, ite_self]
    exact h
  | some d =>
    rw [← h]
    exact Ledger.on_record s.ledger queue job.queue date now.date d

/-- A job that is put in is counted where it shows. -/
lemma statsOn_put (h : s.statsOn queue date = s.tally queue date total) (fresh : Ident)
    (submission : Submission) (now : Instant) :
    (s.put now (submission.pendingJob fresh now)).statsOn queue date =
      (s.put now (submission.pendingJob fresh now)).tally queue date total := by
  have hstats : (s.put now (submission.pendingJob fresh now)).statsOn queue date =
      if submission.queue = queue ∧ now.date = date then (s.statsOn queue date).apply .ofEnqueue
      else s.statsOn queue date :=
    Ledger.on_record s.ledger queue submission.queue date now.date .ofEnqueue
  have hshows : (submission.pendingJob fresh now).enqueuedOn queue date = true ↔
      submission.queue = queue ∧ now.date = date := Job.enqueuedOn_iff
  rw [hstats, h, tally_put s now rfl]
  by_cases hhere : submission.queue = queue ∧ now.date = date
  · rw [if_pos hhere, if_pos (hshows.2 hhere), tally, Stats.apply_ofCounts]
    simp [Stats.Delta.ofEnqueue]
  · rw [if_neg hhere, if_neg (mt hshows.1 hhere), tally]
    simp

/-- A job that is handed out is counted as before. -/
lemma statsOn_hand (hs : s.Coherent) (h : s.statsOn queue date = s.tally queue date total)
    {job : Job} {now : Instant} (hjob : job ∈ s.jobs) (hclaim : job.isClaimable now = true)
    (worker : String) (lease : Span) :
    (s.hand now worker lease job.id).statsOn queue date =
      (s.hand now worker lease job.id).tally queue date total := by
  have hopen := Job.isTerminal_of_isClaimable hclaim
  obtain ⟨hnotCompleted, hnotFailed⟩ :=
    Job.endedOn_of_unfinished (j := job.leased worker lease now) rfl queue date
  have hstats : (s.hand now worker lease job.id).statsOn queue date = s.statsOn queue date := rfl
  rw [hstats, h, hand]
  rw [tally_update hs.distinct hjob hopen (fun j => j.leased worker lease now) rfl rfl]
  rw [hnotCompleted, hnotFailed, tally]
  simp

/-- A job that is moved is counted where it shows, with the time that the move ends. -/
lemma statsOn_moved (hs : s.Coherent) (h : s.statsOn queue date = s.tally queue date total)
    {id : Ident} {m : Move} {job : Job} (hfound : s.find? id = some job)
    (hallowed : m.allowed job = true) (now : Instant) :
    (s.settle now id m job).statsOn queue date =
      (s.settle now id m job).tally queue date (total +
        (s.ended? (.move id m) (.moved .applied)).elim 0 (Job.millisOn queue date now)) := by
  have hopen := Job.isTerminal_of_allowed hallowed
  have hmillis := millisOn_added hfound m now queue date
  obtain rfl := id_of_find? hfound
  rw [statsOn_settle h, tally_settle, hmillis,
    tally_update hs.distinct (mem_of_find? hfound) hopen (m.apply now) (Job.apply_queue m now job)
      (Job.apply_createdAt m now job),
    Move.completed_added, Move.failed_added]
  by_cases hhere : job.queue = queue ∧ now.date = date
  · simp only [if_pos hhere]
    rw [tally, Stats.apply_ofCounts, Move.enqueued_added, Int.add_zero]
  · simp only [if_neg hhere, Int.add_zero]
    rfl

/-- If the statistics are the tally before an operation, they are after it. -/
lemma statsOn_step (hs : s.Coherent) (h : s.statsOn queue date = s.tally queue date total)
    {past : List Event}
    (hstarted : ∀ id, (s.find? id).bind Job.startedAt = (historyOf past id).lastHanded)
    (now : Instant) (op : Operation) :
    (s.step now op).2.statsOn queue date =
      (s.step now op).2.tally queue date
        (total + (Event.mk s now op).millisOn queue date past) := by
  have hmillis : (Event.mk s now op).millisOn queue date past =
      (s.ended? op (s.step now op).1).elim 0 (Job.millisOn queue date now) := by
    refine Event.millisOn_eq (fun job hended => ?_) queue date
    have hlast := hstarted job.id
    rw [find?_of_ended? hended] at hlast
    exact hlast
  have houtcome := step_outcome s now op
  rw [hmillis]
  generalize (s.step now op).1 = reply, (s.step now op).2 = t at houtcome ⊢
  cases houtcome with
  | @enqueued fresh submission =>
    have hended : s.ended? (.enqueue fresh submission)
        (.enqueued (submission.pendingJob fresh now).id) = none := rfl
    rw [hended, Option.elim_none, Int.add_zero]
    exact statsOn_put h fresh submission now
  | @claimed worker queues lease job hforemost =>
    obtain ⟨hmem, -, hclaim⟩ := eligible_of_foremost? hforemost
    have hended : s.ended? (.claim worker queues lease)
        (.claimed (some (job.leased worker lease now))) = none := rfl
    rw [hended, Option.elim_none, Int.add_zero]
    exact statsOn_hand hs h hmem hclaim worker lease
  | moved hfound hallowed => exact statsOn_moved hs h hfound hallowed now
  | kept hidle =>
    rw [ended?_of_isIdle hidle, Option.elim_none, Int.add_zero]
    exact h

end Steps

/-! ### Runs -/

/-- In every run the statistics are the tally, with the processing times of the run. -/
lemma statsOn_run (ops : List (Instant × Operation)) (queue : String) (date : Date) :
    (empty.run ops).2.statsOn queue date =
      (empty.run ops).2.tally queue date (spent queue date [] (empty.trace ops)) := by
  induction ops using List.reverseRecOn with
  | nil => rfl
  | append_singleton ops head ih =>
    obtain ⟨now, op⟩ := head
    have hstarted : ∀ id, ((empty.run ops).2.find? id).bind Job.startedAt =
        (historyOf (empty.trace ops) id).lastHanded := by
      intro id
      have hlife := (life_of_run Coherent.empty ops id).startedAt_eq
      rw [hlife]
      exact Option.or_none
    have hstep := statsOn_step (Coherent.empty.run ops) ih hstarted now op
    rw [trace_append, spent_append, run_append]
    simpa [trace, spent, run] using hstep

/-- In every run, the statistics of a queue on a day count the jobs as they show it, and the time
from the last claim of a job to the end of its processing, once for each job whose processing ended
there; the mean is over the jobs that came to an end. -/
theorem stats_account (ops : List (Instant × Operation)) (queue : String) (date : Date) :
    ∃ r : Stats, (∀ now, (empty.run ops).2.step now (.stats queue date) =
        (.stats r, (empty.run ops).2)) ∧
      r.queue = queue ∧ r.date = date ∧
      r.enqueued = (empty.run ops).2.jobs.countP (Job.enqueuedOn queue date) ∧
      r.completed = (empty.run ops).2.jobs.countP (Job.endedOn queue date .completed) ∧
      r.failed = (empty.run ops).2.jobs.countP (Job.endedOn queue date .failed) ∧
      r.totalMillis = spent queue date [] (empty.trace ops) ∧
      r.averageMillis = Stats.average r.totalMillis (r.completed + r.failed) ∧
      (r.completed + r.failed = 0 → r.averageMillis = Double.zero) := by
  refine ⟨(empty.run ops).2.statsOn queue date, fun _ => rfl, ?_⟩
  rw [statsOn_run]
  refine ⟨rfl, rfl, rfl, rfl, rfl, rfl, rfl, fun hnone => ?_⟩
  exact if_pos hnone

-- The job below fails while it waits for its second attempt: it counts, but no time does.
example :
    let late := Instant.epoch.after ⟨1000000000⟩
    (empty.run [(.epoch, .enqueue .nil (.plain "mail" "send" (.object []) .epoch)),
      (.epoch, .claim "worker" ["mail"] .zero), (late, .move .nil (.retry .epoch)),
      (late, .move .nil (.fail ⟨.handler, "late"⟩))]).2.statsOn "mail" Instant.epoch.date =
        .ofCounts "mail" Instant.epoch.date 1 0 1 0 := by decide

end Store

end LeaseQueue
