import LeaseQueue.Proofs.Store.Exclusive
import Mathlib.Data.List.DropRight
import Mathlib.Data.List.Induction

/-!
# What the attempts of a job pay for

Every retry costs a job one of its attempts, and every attempt is begun by one claim of the waiting
job; a claim that takes a job over from a worker whose lease has run out costs nothing.
`Store.attempts_budgeted` states this law for the events of all runs, together with its
consequences: claims are limited by the attempts, and a job comes to an end at most once.

The law is carried along a run by `Balanced`, which also says where the job stands: a pending job
has not been handed out since it was scheduled last, a processed one has.
-/

namespace LeaseQueue

namespace Deed

/-- Whether the job was handed out. -/
def isHanded : Deed → Bool
  | .handed _ _ => true
  | .enqueued _ | .moved _ => false

/-- Whether the job was completed, failed or cancelled. -/
def isEnd : Deed → Bool
  | .moved (.complete _) | .moved (.fail _) | .moved .cancel => true
  | .moved (.retry _) | .enqueued _ | .handed _ _ => false

end Deed

namespace History

/-- What was done to a job after it was put in or, if it was retried, after its last retry. -/
def sinceScheduled (h : History) : History := h.rtakeWhile fun x => x.2.schedule?.isNone

/-- Whether a job was handed out since it was put in or retried last. -/
def isBegun (h : History) : Bool := h.sinceScheduled.any fun x => x.2.isHanded

/-- How often a job was completed, failed or cancelled. -/
def ends (h : History) : ℕ := h.countP fun x => x.2.isEnd

/-- The retries of a history that ends with a given deed. -/
lemma retries_concat (h : History) (t : Instant) (d : Deed) :
    retries (h ++ [(t, d)]) = h.retries ++ d.postponed?.toList := by
  unfold retries
  rw [List.filterMap_append]
  cases hd : d.postponed? <;> simp [hd]

/-- A deed that schedules the job again makes a new beginning. -/
lemma isBegun_concat_of_schedule (h : History) (t : Instant) {d : Deed}
    (hd : d.schedule?.isSome = true) : isBegun (h ++ [(t, d)]) = false := by
  obtain ⟨next, hnext⟩ := Option.isSome_iff_exists.1 hd
  unfold isBegun sinceScheduled
  rw [List.rtakeWhile_concat_neg _ _ _ (by simp [hnext])]
  rfl

/-- Any other deed counts as a beginning if it hands the job out. -/
lemma isBegun_concat (h : History) (t : Instant) {d : Deed} (hd : d.schedule? = none) :
    isBegun (h ++ [(t, d)]) = (h.isBegun || d.isHanded) := by
  unfold isBegun sinceScheduled
  rw [List.rtakeWhile_concat_pos _ _ _ (by simp [hd]), List.any_append]
  simp

/-- The ends of a history that ends with a given deed. -/
lemma ends_concat (h : History) (t : Instant) (d : Deed) :
    ends (h ++ [(t, d)]) = h.ends + if d.isEnd then 1 else 0 := by
  unfold ends
  rw [List.countP_append, List.countP_singleton]

end History

namespace Event

/-- Whether an event handed out the job of an identifier. -/
def handsOut (e : Event) (id : Ident) : Bool := (e.deed? id).any Deed.isHanded

/-- Whether an event handed out a job that was waiting. -/
def takesWaiting (e : Event) (id : Ident) : Bool :=
  e.handsOut id && (e.before.find? id).any fun j => decide (j.status = .pending)

/-- Whether an event handed out a job that a worker held beyond its lease. -/
def takesOver (e : Event) (id : Ident) : Bool :=
  e.handsOut id && (e.before.find? id).any fun j => j.leaseExpired e.now

/-- What an event that handed a job out did to it. -/
lemma exists_handed_of_handsOut {e : Event} {id : Ident} (h : e.handsOut id = true) :
    ∃ lease job, e.deed? id = some (.handed lease job) := by
  obtain ⟨d, hdeed, hhanded⟩ := (Option.any_eq_true _ _).1 h
  cases d with
  | handed lease job => exact ⟨lease, job, hdeed⟩
  | enqueued submission => cases hhanded
  | moved m => cases hhanded

/-- A job that was handed out while it was not waiting had been kept beyond its lease. -/
lemma takesOver_of_handsOut {e : Event} (hs : e.before.Coherent) {id : Ident}
    (h : e.handsOut id = true) (hbusy : e.takesWaiting id = false) : e.takesOver id = true := by
  obtain ⟨lease, job, hdeed⟩ := exists_handed_of_handsOut h
  rcases Store.step_turns hs e.now e.op id with ⟨hnone, -⟩ | ⟨d, hsome, hturns⟩
  · rw [show e.deed? id = none from hnone] at hdeed
    cases hdeed
  · obtain rfl : d = .handed lease job := Option.some.inj (hsome.symm.trans hdeed)
    obtain ⟨j, worker, hbefore, hclaim, -, -⟩ := hturns.of_handed
    have hstatus : j.status ≠ .pending := by
      intro hpending
      simp [takesWaiting, h, hbefore, hpending] at hbusy
    have hexpired := Job.leaseExpired_of_isClaimable hclaim hstatus
    simp [takesOver, h, hbefore, hexpired]

/-- A worker whose lease has run out had a job that was not waiting. -/
lemma takesWaiting_of_not_takesOver {e : Event} (hs : e.before.Coherent) {id : Ident}
    (h : (e.handsOut id && !e.takesOver id) = true) : e.takesWaiting id = true := by
  obtain ⟨hhands, hkept⟩ := Bool.and_eq_true_iff.1 h
  by_contra hbusy
  rw [takesOver_of_handsOut hs hhands (Bool.eq_false_iff.2 hbusy)] at hkept
  cases hkept

end Event

/-- The history of a job in events that end with a given one. -/
lemma historyOf_concat (events : List Event) (e : Event) (id : Ident) :
    historyOf (events ++ [e]) id =
      historyOf events id ++ ((e.deed? id).map fun d => (e.now, d)).toList := by
  unfold historyOf
  rw [List.filterMap_append]
  cases hd : e.deed? id <;> simp [hd]

/-! ### The balance of a job -/

/-- How the record of a job balances with the events that led to it. -/
structure Balanced (events : List Event) (id : Ident) (j : Job) : Prop where
  retried : j.attempts.toNat = (historyOf events id).retries.length
  /-- Every attempt, the current one included if it has begun, was begun by one claim. -/
  begun : events.countP (·.takesWaiting id) =
    j.attempts.toNat + if (historyOf events id).isBegun then 1 else 0
  unbegun_of_pending : j.status = .pending → (historyOf events id).isBegun = false
  begun_of_processing : j.status = .processing → (historyOf events id).isBegun = true
  ends : (historyOf events id).ends = if j.status.isTerminal then 1 else 0

/-- The balance of a record that may not be there: then nothing has happened to it. -/
def Balance (events : List Event) (id : Ident) : Option Job → Prop
  | none => ∀ e ∈ events, e.deed? id = none
  | some j => Balanced events id j

namespace Balance

variable {events : List Event} {id : Ident} {e : Event} {r r' : Option Job}

/-- An event that does nothing to a job leaves its balance as it is. -/
lemma idle (h : Balance events id r) (hdeed : e.deed? id = none) :
    Balance (events ++ [e]) id r := by
  have hhistory : historyOf (events ++ [e]) id = historyOf events id := by
    rw [historyOf_concat, hdeed]
    exact List.append_nil _
  have hcount : (events ++ [e]).countP (·.takesWaiting id) =
      events.countP (·.takesWaiting id) := by
    rw [List.countP_append, List.countP_singleton]
    simp [Event.takesWaiting, Event.handsOut, hdeed]
  cases r with
  | none =>
    intro e' he'
    rcases List.mem_append.1 he' with hold | hnew
    · exact h e' hold
    · rw [List.mem_singleton.1 hnew]
      exact hdeed
  | some j =>
    obtain ⟨hretried, hbegun, hpending, hprocessing, hends⟩ := h
    refine ⟨?_, ?_, ?_, ?_, ?_⟩
    · rw [hhistory, hretried]
    · rw [hhistory, hcount, hbegun]
    · rw [hhistory]
      exact hpending
    · rw [hhistory]
      exact hprocessing
    · rw [hhistory, hends]

/-- A job that is put in has not been handed out, nor retried, nor finished. -/
lemma enqueued {submission : Submission} (h : Balance events id none)
    (hdeed : e.deed? id = some (.enqueued submission)) (fresh : Ident) :
    Balance (events ++ [e]) id (some (submission.pendingJob fresh e.now)) := by
  have hnone : historyOf events id = [] := by
    unfold historyOf
    rw [List.filterMap_eq_nil_iff]
    intro e' he'
    rw [h e' he']
    rfl
  have hhistory : historyOf (events ++ [e]) id = [(e.now, .enqueued submission)] := by
    rw [historyOf_concat, hnone, hdeed]
    rfl
  have hcount : (events ++ [e]).countP (·.takesWaiting id) = 0 := by
    rw [List.countP_eq_zero]
    intro e' he'
    rcases List.mem_append.1 he' with hold | hnew
    · simp [Event.takesWaiting, Event.handsOut, h e' hold]
    · rw [List.mem_singleton.1 hnew]
      simp [Event.takesWaiting, Event.handsOut, hdeed, Deed.isHanded]
  have hunbegun : (historyOf (events ++ [e]) id).isBegun = false := by
    rw [hhistory]
    exact History.isBegun_concat_of_schedule [] e.now rfl
  refine ⟨?_, ?_, fun _ => hunbegun, ?_, ?_⟩
  · rw [hhistory]
    rfl
  · rw [hcount, hunbegun]
    rfl
  · intro hprocessing
    cases hprocessing
  · rw [hhistory]
    rfl

/-- A claim begins an attempt of a waiting job, and goes on with the one of a processed job. -/
lemma handed {j : Job} {lease : Span} {worker : String} (h : Balance events id (some j))
    (hbefore : e.before.find? id = some j) (hclaim : j.isClaimable e.now = true)
    (hdeed : e.deed? id = some (.handed lease (j.leased worker lease e.now))) :
    Balance (events ++ [e]) id (some (j.leased worker lease e.now)) := by
  have hhistory : historyOf (events ++ [e]) id =
      historyOf events id ++ [(e.now, .handed lease (j.leased worker lease e.now))] := by
    rw [historyOf_concat, hdeed]
    rfl
  have hcount : (events ++ [e]).countP (·.takesWaiting id) =
      events.countP (·.takesWaiting id) + if j.status = .pending then 1 else 0 := by
    rw [List.countP_append, List.countP_singleton]
    simp [Event.takesWaiting, Event.handsOut, hdeed, Deed.isHanded, hbefore]
  have hbegun : (historyOf (events ++ [e]) id).isBegun = true := by
    rw [hhistory, History.isBegun_concat _ _ rfl]
    exact Bool.or_true _
  have hunfinished := Job.isTerminal_of_isClaimable hclaim
  have hattempts : (j.leased worker lease e.now).attempts = j.attempts := rfl
  refine ⟨?_, ?_, ?_, fun _ => hbegun, ?_⟩
  · rw [hhistory, History.retries_concat, hattempts, h.retried]
    simp [Deed.postponed?]
  · rw [hcount, hbegun, hattempts, h.begun]
    cases hstatus : j.status with
    | pending =>
      rw [h.unbegun_of_pending hstatus]
      rfl
    | processing =>
      rw [h.begun_of_processing hstatus]
      rfl
    | completed | failed | cancelled =>
      rw [hstatus] at hunfinished
      cases hunfinished
  · intro hpending
    cases hpending
  · rw [hhistory, History.ends_concat, h.ends, hunfinished]
    rfl

/-- A retry pays for the attempt that was begun; any other report ends the job. -/
lemma moved {j : Job} {m : Move} (h : Balance events id (some j)) (hallowed : m.allowed j = true)
    (hdeed : e.deed? id = some (.moved m)) :
    Balance (events ++ [e]) id (some (m.apply e.now j)) := by
  have hhistory : historyOf (events ++ [e]) id = historyOf events id ++ [(e.now, .moved m)] := by
    rw [historyOf_concat, hdeed]
    rfl
  have hcount : (events ++ [e]).countP (·.takesWaiting id) =
      events.countP (·.takesWaiting id) := by
    rw [List.countP_append, List.countP_singleton]
    simp [Event.takesWaiting, Event.handsOut, hdeed, Deed.isHanded]
  have hunfinished := Job.isTerminal_of_allowed hallowed
  have hends := History.ends_concat (historyOf events id) e.now (.moved m)
  rw [h.ends, hunfinished] at hends
  cases m with
  | retry next =>
    obtain ⟨hsucc, -⟩ := Job.attempts_succ_of_allowed hallowed
    have hunbegun : (historyOf (events ++ [e]) id).isBegun = false := by
      rw [hhistory]
      exact History.isBegun_concat_of_schedule _ _ rfl
    have hattempts : (Move.apply (.retry next) e.now j).attempts.toNat = j.attempts.toNat + 1 :=
      hsucc
    refine ⟨?_, ?_, fun _ => hunbegun, ?_, ?_⟩
    · rw [hhistory, History.retries_concat, hattempts, h.retried]
      simp [Deed.postponed?]
    · rw [hcount, hunbegun, hattempts, h.begun,
        h.begun_of_processing (Job.processing_of_retry hallowed)]
      rfl
    · intro hprocessing
      cases hprocessing
    · rw [hhistory, hends]
      rfl
  | complete _ | fail _ | cancel =>
    have hbegun : (historyOf (events ++ [e]) id).isBegun = (historyOf events id).isBegun := by
      rw [hhistory, History.isBegun_concat _ _ rfl]
      exact Bool.or_false _
    refine ⟨?_, ?_, ?_, ?_, ?_⟩
    · rw [hhistory, History.retries_concat]
      simpa [Deed.postponed?, Move.apply, Job.released] using h.retried
    · rw [hcount, hbegun]
      exact h.begun
    · intro hpending
      cases hpending
    · intro hprocessing
      cases hprocessing
    · rw [hhistory, hends]
      rfl

/-- Every operation keeps the balance. -/
lemma step {s : Store} (hs : s.Coherent) (now : Instant) (op : Operation)
    (h : Balance events id (s.find? id)) :
    Balance (events ++ [⟨s, now, op⟩]) id ((s.step now op).2.find? id) := by
  rcases Store.step_turns hs now op id with ⟨hdeed, hsame⟩ | ⟨d, hdeed, hturns⟩
  · rw [hsame]
    exact h.idle hdeed
  · generalize hbefore : s.find? id = before, (s.step now op).2.find? id = after at h hturns ⊢
    cases hturns with
    | enqueued hvalid => exact h.enqueued (e := ⟨s, now, op⟩) hdeed _
    | handed hclaim => exact h.handed (e := ⟨s, now, op⟩) hbefore hclaim hdeed
    | moved hallowed => exact h.moved (e := ⟨s, now, op⟩) hallowed hdeed

end Balance

/-! ### Runs -/

/-- What a job has cost, and what it may cost, after the given events. -/
structure Budgeted (events : List Event) (id : Ident) (j : Job) : Prop where
  /-- The attempts that were given up are the retries, and there are no more of them than the job
  has attempts. -/
  retried : j.attempts.toNat = (historyOf events id).retries.length
  within : j.attempts.toNat ≤ j.maxAttempts.toNat
  /-- The job was claimed while it waited once for each attempt that was given up, and once more
  exactly when it was claimed since it was put in or retried last. -/
  begun : events.countP (·.takesWaiting id) =
    j.attempts.toNat + if (historyOf events id).isBegun then 1 else 0
  /-- Whoever claimed it otherwise found that a lease had run out. -/
  overdue : ∀ e ∈ events, e.handsOut id = true → e.takesWaiting id = false → e.takesOver id = true
  /-- So there is a limit to the other claims. -/
  claims : events.countP (fun e => e.handsOut id && !e.takesOver id) ≤ j.maxAttempts.toNat + 1
  /-- The job was completed, failed or cancelled at most once. -/
  ends : (historyOf events id).ends ≤ 1

namespace Store

/-- Every event of a run finds a coherent store. -/
lemma Coherent.before_of_mem_trace {s : Store} (hs : s.Coherent) {ops : List (Instant × Operation)}
    {e : Event} (he : e ∈ s.trace ops) : e.before.Coherent := by
  induction ops generalizing s with
  | nil => cases he
  | cons head rest ih =>
    rcases List.mem_cons.1 he with rfl | hrest
    · exact hs
    · exact ih (hs.step head.1 head.2) hrest

/-- Every run keeps the balance of every job. -/
lemma balance_run (ops : List (Instant × Operation)) (id : Ident) :
    Balance (empty.trace ops) id ((empty.run ops).2.find? id) := by
  induction ops using List.reverseRecOn with
  | nil =>
    intro e he
    cases he
  | append_singleton ops head ih =>
    rw [trace_append, run_append]
    exact ih.step (Coherent.empty.run ops) head.1 head.2

/-- In every run, with any callers in any order and any clock readings, the claims and retries of a
job are paid for by its attempts. -/
theorem attempts_budgeted (ops : List (Instant × Operation)) (id : Ident) (j : Job)
    (hj : (empty.run ops).2.find? id = some j) : Budgeted (empty.trace ops) id j := by
  have hbalance := balance_run ops id
  rw [hj] at hbalance
  obtain ⟨hretried, hbegun, -, -, hends⟩ := hbalance
  have hwithin : j.attempts.toNat ≤ j.maxAttempts.toNat :=
    ((Coherent.empty.run ops).wellFormed j (mem_of_find? hj)).attempts_le
  have hcoherent : ∀ e ∈ empty.trace ops, e.before.Coherent := fun e he =>
    Coherent.empty.before_of_mem_trace he
  refine ⟨hretried, hwithin, hbegun, ?_, ?_, ?_⟩
  · intro e he hhands hbusy
    exact Event.takesOver_of_handsOut (hcoherent e he) hhands hbusy
  · calc (empty.trace ops).countP (fun e => e.handsOut id && !e.takesOver id)
        ≤ (empty.trace ops).countP (·.takesWaiting id) := by
          refine List.countP_mono_left fun e he h => ?_
          exact Event.takesWaiting_of_not_takesOver (hcoherent e he) h
      _ = j.attempts.toNat + if (historyOf (empty.trace ops) id).isBegun then 1 else 0 := hbegun
      _ ≤ j.maxAttempts.toNat + 1 := by split <;> omega
  · rw [hends]
    split <;> omega

/-- A job is claimed, taken over when the lease of the first worker has run out, retried, claimed
again and completed; then the first worker reports. -/
def takenOverRun : List (Instant × Operation) :=
  let late := Instant.epoch.after (.ofSeconds 2)
  [(.epoch, .enqueue .nil (.plain "mail" "send" (.object []) .epoch)),
    (.epoch, .claim "first" ["mail"] (.ofSeconds 1)),
    (late, .claim "second" ["mail"] (.ofSeconds 1)), (late, .move .nil (.retry late)),
    (late, .claim "second" ["mail"] (.ofSeconds 1)), (late, .move .nil (.complete [])),
    (late, .move .nil (.fail ⟨.handler, "late"⟩))]

/-- Of its three claims two are paid for, and one was a takeover; it ended once. -/
theorem taken_over_job_budgeted :
    ∃ j, (empty.run takenOverRun).2.find? .nil = some j ∧
      Budgeted (empty.trace takenOverRun) .nil j ∧ j.attempts.toNat = 1 ∧
      (empty.trace takenOverRun).countP (·.takesWaiting .nil) = 2 ∧
      (empty.trace takenOverRun).countP (·.takesOver .nil) = 1 ∧
      (historyOf (empty.trace takenOverRun) .nil).ends = 1 := by
  obtain ⟨j, hj⟩ : ∃ j, (empty.run takenOverRun).2.find? .nil = some j :=
    Option.isSome_iff_exists.1 (by decide)
  have hattempts : ((empty.run takenOverRun).2.find? .nil).any
      (fun j => decide (j.attempts.toNat = 1)) = true := by decide
  rw [hj] at hattempts
  refine ⟨j, hj, attempts_budgeted takenOverRun .nil j hj, of_decide_eq_true hattempts, ?_⟩
  decide

end Store

end LeaseQueue
