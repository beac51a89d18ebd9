import LeaseQueue.Proofs.Action
import LeaseQueue.Proofs.Store.Life
import LeaseQueue.Worker.Fleet
import Mathlib.Data.Fintype.Defs
import Mathlib.Tactic.Set

/-!
# Where the jobs of a fleet are

`Fleet.Sits` says how a job, the workers and the number of its handler runs fit together: a job is
unknown, waits, is run by one worker whose snapshot is the stored record, was cancelled under the
hands of one worker, or is finished.  A turn of a fleet asks one thing of the store and touches one
worker, so it leaves every other job where it is (`Fleet.Placed.stays`).
-/

namespace LeaseQueue

/-! ### Turns and the calls of a worker -/

section Calls

variable {η : Type}

/-- A worker of a store claims what the store hands out. -/
lemma Worker.claim_ofStore (duty : Duty η) (worker : String) (now : Instant) (s : Store) :
    Worker.claim Backend.ofStore duty worker now s =
      (.ok (s.claim now worker duty.queues duty.lease).1,
        (s.claim now worker duty.queues duty.lease).2) := by
  rfl

/-- A worker of a store reports by a move, whatever becomes of it. -/
lemma Worker.report_ofStore (duty : Duty η) (job : Job) (ending : Ending) (millis : Nat)
    (now : Instant) (s : Store) :
    Worker.report Backend.ofStore duty job ending millis now s =
      (.ok (), (s.step now (.move job.id (verdict duty.backoff job ending millis now))).2) := by
  set m := verdict duty.backoff job ending millis now with hm
  have hcall : dropping (Backend.ofStore.move now job.id m) s =
      (.ok (s.move now job.id m).1.toOption, (s.move now job.id m).2) := by
    rcases hmove : s.move now job.id m with ⟨e | t, u⟩ <;>
      simp [dropping, Backend.ofStore, Backend.answer, hmove, Except.toOption]
  have hstep : (s.step now (.move job.id m)).2 = (s.move now job.id m).2 := by
    rcases hmove : s.move now job.id m with ⟨e | t, u⟩ <;> simp [Store.step, hmove]
  have hreport : Worker.report Backend.ofStore duty job ending millis now s =
      (dropping (Backend.ofStore.move now job.id m) >>= fun _ => pure ()) s := rfl
  rw [hreport, hstep]
  exact Action.bind_of_ok hcall

/-- A worker completes a job, fails it, or, after an error that may go away and with attempts left,
has it tried again. -/
lemma Worker.verdict_cases (backoff : UInt32 → Span) (job : Job) (ending : Ending) (millis : ℕ)
    (now : Instant) :
    (∃ result, verdict backoff job ending millis now = .complete result) ∨
      (∃ failure, verdict backoff job ending millis now = .fail failure) ∨
      ∃ failure next, verdict backoff job ending millis now = .retry next ∧
        ending.failure? = some failure ∧ failure.isRetryable = true ∧
        job.attempts.toNat + 1 < job.maxAttempts.toNat := by
  unfold verdict
  cases hfailure : ending.failure? with
  | none => exact .inl ⟨_, rfl⟩
  | some failure =>
    by_cases hlast : (!failure.isRetryable || job.isFinalAttempt) = true
    · exact .inr (.inl ⟨failure, if_pos hlast⟩)
    · refine .inr (.inr ⟨failure, _, if_neg hlast, rfl, ?_⟩)
      simpa [Job.isFinalAttempt] using hlast

/-- What a worker makes of a job applies to it while it is processed. -/
lemma Worker.allowed_verdict {job : Job} (hstatus : job.status = .processing)
    (backoff : UInt32 → Span) (ending : Ending) (millis : ℕ) (now : Instant) :
    (verdict backoff job ending millis now).allowed job = true := by
  rcases verdict_cases backoff job ending millis now with
    ⟨result, hm⟩ | ⟨failure, hm⟩ | ⟨failure, next, hm, -, -, hspare⟩
  · rw [hm, Move.allowed, hstatus]
    rfl
  · rw [hm, Move.allowed, hstatus]
    rfl
  · have hlt : job.attempts < job.maxAttempts := UInt32.lt_iff_toNat_lt.2 (by omega)
    rw [hm, Move.allowed, hstatus, decide_eq_true hlt]
    rfl

namespace Holding

/-- A report completes a job, fails it, or, after its handler ran and with attempts left, has it
tried again. -/
lemma report_cases (h : Holding η) (outcome : Ending) (millis : ℕ) (now : Instant) :
    (∃ result, h.report outcome millis now = .complete result) ∨
      (∃ failure, h.report outcome millis now = .fail failure) ∨
      ∃ next, h.report outcome millis now = .retry next ∧ h.isHandled = true ∧
        h.job.attempts.toNat + 1 < h.job.maxAttempts.toNat := by
  unfold report
  dsimp only
  rcases Worker.verdict_cases h.duty.backoff h.job
      (Worker.finish h.duty (fun _ _ => ⟨outcome, millis, now⟩) h.job now).ending
      (Worker.finish h.duty (fun _ _ => ⟨outcome, millis, now⟩) h.job now).millis
      (Worker.finish h.duty (fun _ _ => ⟨outcome, millis, now⟩) h.job now).instant with
    hcomplete | hfail | ⟨failure, next, hretry, hending, hretryable, hspare⟩
  · exact .inl hcomplete
  · exact .inr (.inl hfail)
  · refine .inr (.inr ⟨next, hretry, ?_, hspare⟩)
    -- Without a handler the failure would be one that does not go away.
    unfold isHandled
    cases hhandler : h.duty.registry.get? h.job.type with
    | some handler => rfl
    | none =>
      rw [Worker.finish, hhandler] at hending
      obtain rfl := Option.some.inj hending
      cases hretryable

/-- A report applies to the job that it is about while that is processed. -/
lemma allowed_report (h : Holding η) (hstatus : h.job.status = .processing) (outcome : Ending)
    (millis : ℕ) (now : Instant) : (h.report outcome millis now).allowed h.job = true :=
  Worker.allowed_verdict hstatus _ _ _ _

/-- No report applies to a cancelled job. -/
lemma report_not_allowed (h : Holding η) {j : Job} (hstatus : j.status = .cancelled)
    (outcome : Ending) (millis : ℕ) (now : Instant) :
    (h.report outcome millis now).allowed j = false := by
  rcases h.report_cases outcome millis now with ⟨result, hm⟩ | ⟨failure, hm⟩ | ⟨next, hm, -⟩ <;>
  · rw [hm, Move.allowed, hstatus]
    rfl

end Holding

end Calls

namespace Fleet

variable {ω η : Type}

/-! ### Leases that are respected -/

/-- Whether no lease is over, at a time, under which a worker still runs its job. -/
def Timely (f : Fleet ω η) (now : Instant) : Prop :=
  ∀ w h, f.held w = some h → h.job.leaseExpired now = false

/-- Whether, at each of some turns, no worker still runs a job whose lease is over. -/
def Punctual [DecidableEq ω] : Fleet ω η → List (Instant × Turn ω η) → Prop
  | _, [] => True
  | f, (now, turn) :: rest => f.Timely now ∧ (f.take now turn).Punctual rest

section Decidable

variable [Fintype ω]

instance (f : Fleet ω η) (now : Instant) : Decidable (f.Timely now) :=
  decidable_of_iff (∀ w, (f.held w).all (fun h => !h.job.leaseExpired now) = true) <| by
    simp [Timely, Option.all_eq_true]

/-- Punctuality can be checked turn by turn. -/
def decidePunctual [DecidableEq ω] :
    (f : Fleet ω η) → (turns : List (Instant × Turn ω η)) → Decidable (f.Punctual turns)
  | _, [] => isTrue trivial
  | f, (now, turn) :: rest =>
    have := (f.take now turn).decidePunctual rest
    inferInstanceAs (Decidable (f.Timely now ∧ (f.take now turn).Punctual rest))

instance [DecidableEq ω] (f : Fleet ω η) (turns : List (Instant × Turn ω η)) :
    Decidable (f.Punctual turns) :=
  f.decidePunctual turns

end Decidable

/-! ### Situations of a job -/

/-- Whether no worker runs the job of an identifier. -/
def Free (f : Fleet ω η) (id : Ident) : Prop := ∀ w h, f.held w = some h → h.job.id ≠ id

/-- Whether a worker runs the job of an identifier and no other worker does. -/
structure Alone (f : Fleet ω η) (id : Ident) (w : ω) (h : Holding η) : Prop where
  held : f.held w = some h
  id_eq : h.job.id = id
  only : ∀ v g, f.held v = some g → g.job.id = id → v = w

/-- Whether the turns since a worker claimed the job that it runs are the given ones. -/
def Since (f : Fleet ω η) (w : ω) (h : Holding η) (since : List (Entry ω η)) : Prop :=
  (∃ before now, f.log = before ++ ⟨now, .claim w h.duty, .claimed (some h.job)⟩ :: since) ∧
    ∀ e ∈ since, e.turn.worker? ≠ some w

/-- Whether one of some turns cancelled the job of an identifier. -/
def Cancels (since : List (Entry ω η)) (id : Ident) : Prop :=
  ∃ e ∈ since, e.turn = .cancel id ∧ e.reply = .moved .applied

/-- Where a job is whose handler ran a number of times. -/
inductive Sits (f : Fleet ω η) (id : Ident) (runs : ℕ) : Prop
  | unknown (hrecord : f.store.find? id = none) (hfree : f.Free id) (hruns : runs = 0)
  | waiting {j : Job} (hrecord : f.store.find? id = some j) (hstatus : j.status = .pending)
      (hspare : j.attempts.toNat < j.maxAttempts.toNat) (hfree : f.Free id)
      (hruns : runs = j.attempts.toNat)
  | running {w : ω} {h : Holding η} (hrecord : f.store.find? id = some h.job)
      (hstatus : h.job.status = .processing) (hname : h.job.worker = some (f.name w))
      (hspare : h.job.attempts.toNat < h.job.maxAttempts.toNat) (halone : f.Alone id w h)
      (hsince : ∃ since, f.Since w h since)
      (hruns : runs = h.job.attempts.toNat + if h.isHandled then 1 else 0)
  | revoked {w : ω} {h : Holding η} {j : Job} (hrecord : f.store.find? id = some j)
      (hstatus : j.status = .cancelled) (hspare : j.attempts.toNat < j.maxAttempts.toNat)
      (halone : f.Alone id w h) (hsince : ∃ since, f.Since w h since ∧ Cancels since id)
      (hruns : runs ≤ j.maxAttempts.toNat)
  | finished {j : Job} (hrecord : f.store.find? id = some j)
      (hstatus : j.status.isTerminal = true) (hspare : j.attempts.toNat < j.maxAttempts.toNat)
      (hfree : f.Free id) (hruns : runs ≤ j.maxAttempts.toNat)

/-! ### What one turn changes -/

/-- Only a claim that brings a job leaves a worker with one. -/
lemma claimed_of_holding? {turn : Turn ω η} {reply : Reply} {h : Holding η}
    (hnew : holding? turn reply = some h) :
    (∃ w, turn = .claim w h.duty) ∧ reply = .claimed (some h.job) := by
  unfold holding? at hnew
  split at hnew
  · obtain rfl := Option.some.inj hnew
    exact ⟨⟨_, rfl⟩, rfl⟩
  · cases hnew

section Asked

variable {f : Fleet ω η} {now : Instant} {w : ω} {h : Holding η}

/-- A worker that runs nothing claims under its name. -/
lemma operation?_claim_of_none (hheld : f.held w = none) (now : Instant) (duty : Duty η) :
    f.operation? now (.claim w duty) = some (.claim (f.name w) duty.queues duty.lease) := by
  simp only [operation?, hheld]

/-- A worker that runs something does not claim. -/
lemma operation?_claim_of_some (hheld : f.held w = some h) (now : Instant) (duty : Duty η) :
    f.operation? now (.claim w duty) = none := by
  simp only [operation?, hheld]

/-- A worker that runs nothing has nothing to report. -/
lemma operation?_report_of_none (hheld : f.held w = none) (now : Instant) (outcome : Ending)
    (millis : ℕ) : f.operation? now (.report w outcome millis) = none := by
  simp only [operation?, hheld, Option.map_none]

/-- A worker reports about what it runs. -/
lemma operation?_report_of_some (hheld : f.held w = some h) (now : Instant) (outcome : Ending)
    (millis : ℕ) :
    f.operation? now (.report w outcome millis) =
      some (.move h.job.id (h.report outcome millis now)) := by
  simp only [operation?, hheld, Option.map_some]

end Asked

section Take

variable [DecidableEq ω] {f : Fleet ω η} {now : Instant} {turn : Turn ω η} {op : Operation}

/-- Nothing happens when the worker is not ready for its turn. -/
lemma take_of_none (hop : f.operation? now turn = none) : f.take now turn = f := by
  unfold take
  rw [hop]

/-- What happens when it is. -/
lemma take_of_some (hop : f.operation? now turn = some op) :
    f.take now turn =
      { f with
        store := (f.store.step now op).2
        held := fun v =>
          if turn.worker? = some v then holding? turn (f.store.step now op).1 else f.held v
        log := f.log ++ [⟨now, turn, (f.store.step now op).1⟩] } := by
  unfold take
  rw [hop]

/-- The store after a turn. -/
lemma store_take (hop : f.operation? now turn = some op) :
    (f.take now turn).store = (f.store.step now op).2 := by
  rw [take_of_some hop]

/-- A turn keeps the store coherent. -/
lemma coherent_take (hf : f.store.Coherent) (now : Instant) (turn : Turn ω η) :
    (f.take now turn).store.Coherent := by
  cases hop : f.operation? now turn with
  | none =>
    rw [take_of_none hop]
    exact hf
  | some op =>
    rw [store_take hop]
    exact hf.step now op

/-- Workers keep their names. -/
lemma name_take (hop : f.operation? now turn = some op) : (f.take now turn).name = f.name := by
  rw [take_of_some hop]

/-- What the worker whose turn it was runs now. -/
lemma held_take_of_eq (hop : f.operation? now turn = some op) {w : ω}
    (hw : turn.worker? = some w) :
    (f.take now turn).held w = holding? turn (f.store.step now op).1 := by
  rw [take_of_some hop]
  exact if_pos hw

/-- The other workers run what they ran. -/
lemma held_take_of_ne (hop : f.operation? now turn = some op) {w : ω}
    (hw : turn.worker? ≠ some w) : (f.take now turn).held w = f.held w := by
  rw [take_of_some hop]
  exact if_neg hw

/-- The handler runs after a turn: one more if the turn starts one. -/
lemma attempts_take (hop : f.operation? now turn = some op) (id : Ident) :
    (f.take now turn).attempts id = f.attempts id ++
      (((Entry.mk now turn (f.store.step now op).1).context? f.name).toList.filterMap fun c =>
        if c.id = id then some c.attempt.toNat else none) := by
  rw [take_of_some hop]
  unfold attempts
  rw [List.filterMap_append, List.filterMap_append]
  congr 1

end Take

/-! ### Jobs that a turn leaves alone -/

/-- What a step must keep for the job of an identifier to stay where it is. -/
structure Spares (f g : Fleet ω η) (id : Ident) : Prop where
  name : g.name = f.name
  record : g.store.find? id = f.store.find? id
  held : ∀ w h, h.job.id = id → (g.held w = some h ↔ f.held w = some h)
  log : ∃ more, g.log = f.log ++ more ∧
    ∀ e ∈ more, ∀ w h, f.Alone id w h → e.turn.worker? ≠ some w

namespace Spares

variable {f g : Fleet ω η} {id : Ident}

/-- A job that nobody runs is run by nobody. -/
lemma free (hs : f.Spares g id) (hfree : f.Free id) : g.Free id := by
  intro w h hheld hid
  exact hfree w h ((hs.held w h hid).1 hheld) hid

/-- A job that a worker runs is run by it. -/
lemma alone (hs : f.Spares g id) {w : ω} {h : Holding η} (halone : f.Alone id w h) :
    g.Alone id w h where
  held := (hs.held w h halone.id_eq).2 halone.held
  id_eq := halone.id_eq
  only v k hheld hid := halone.only v k ((hs.held v k hid).1 hheld) hid

/-- The turns since the claim are those of before, and perhaps more. -/
lemma since (hs : f.Spares g id) {w : ω} {h : Holding η} (halone : f.Alone id w h)
    {since : List (Entry ω η)} (hsince : f.Since w h since) :
    ∃ more, g.Since w h (since ++ more) := by
  obtain ⟨more, hlog, hother⟩ := hs.log
  obtain ⟨⟨before, now, hbefore⟩, hsilent⟩ := hsince
  refine ⟨more, ⟨before, now, ?_⟩, fun e he => ?_⟩
  · rw [hlog, hbefore, List.append_assoc, List.cons_append]
  · rcases List.mem_append.1 he with hold | hnew
    · exact hsilent e hold
    · exact hother e hnew w h halone

/-- The job stays where it is. -/
lemma sits (hs : f.Spares g id) {runs : ℕ} (hsits : f.Sits id runs) : g.Sits id runs := by
  cases hsits with
  | unknown hrecord hfree hruns => exact .unknown (hs.record.trans hrecord) (hs.free hfree) hruns
  | waiting hrecord hstatus hspare hfree hruns =>
    exact .waiting (hs.record.trans hrecord) hstatus hspare (hs.free hfree) hruns
  | running hrecord hstatus hname hspare halone hsince hruns =>
    obtain ⟨since, hsince⟩ := hsince
    obtain ⟨more, hmore⟩ := hs.since halone hsince
    exact .running (hs.record.trans hrecord) hstatus (hs.name ▸ hname) hspare (hs.alone halone)
      ⟨_, hmore⟩ hruns
  | revoked hrecord hstatus hspare halone hsince hruns =>
    obtain ⟨since, hsince, e, he, hcancel⟩ := hsince
    obtain ⟨more, hmore⟩ := hs.since halone hsince
    exact .revoked (hs.record.trans hrecord) hstatus hspare (hs.alone halone)
      ⟨_, hmore, e, List.mem_append_left more he, hcancel⟩ hruns
  | finished hrecord hstatus hspare hfree hruns =>
    exact .finished (hs.record.trans hrecord) hstatus hspare (hs.free hfree) hruns

end Spares

section Turns

variable [DecidableEq ω] {f : Fleet ω η} {now : Instant} {turn : Turn ω η} {op : Operation}
  {id : Ident}

/-- A turn spares the jobs whose record it leaves alone and that its worker runs neither before nor
after. -/
lemma spares_take (hop : f.operation? now turn = some op)
    (hrecord : (f.store.step now op).2.find? id = f.store.find? id)
    (hbefore : ∀ w h, turn.worker? = some w → f.held w = some h → h.job.id ≠ id)
    (hafter : ∀ h, holding? turn (f.store.step now op).1 = some h → h.job.id ≠ id) :
    f.Spares (f.take now turn) id := by
  rw [take_of_some hop]
  refine ⟨rfl, hrecord, fun w h hid => ?_, _, rfl, fun e he w h halone hturn => ?_⟩
  · dsimp only
    by_cases hw : turn.worker? = some w
    · rw [if_pos hw]
      exact ⟨fun hnew => absurd hid (hafter h hnew), fun hold => absurd hid (hbefore w h hw hold)⟩
    · rw [if_neg hw]
  · rw [List.mem_singleton.1 he] at hturn
    exact hbefore w h hturn halone.held halone.id_eq

/-- A job that nobody ran is run by the one worker who got it. -/
lemma Free.alone_take (hfree : f.Free id) (hop : f.operation? now turn = some op) {w : ω}
    (hw : turn.worker? = some w) {h : Holding η}
    (hnew : holding? turn (f.store.step now op).1 = some h) (hid : h.job.id = id) :
    (f.take now turn).Alone id w h where
  held := (held_take_of_eq hop hw).trans hnew
  id_eq := hid
  only := by
    intro v g hheld hgid
    by_contra hv
    have hother : turn.worker? ≠ some v := by
      rw [hw]
      exact fun h => hv (Option.some.inj h).symm
    rw [held_take_of_ne hop hother] at hheld
    exact hfree v g hheld hgid

/-- A job that one worker ran is run by nobody once that worker runs nothing. -/
lemma Alone.free_take {w : ω} {h : Holding η} (halone : f.Alone id w h)
    (hop : f.operation? now turn = some op) (hw : turn.worker? = some w)
    (hnew : holding? turn (f.store.step now op).1 = none) : (f.take now turn).Free id := by
  intro v g hheld hgid
  by_cases hv : turn.worker? = some v
  · rw [held_take_of_eq hop hv, hnew] at hheld
    cases hheld
  · rw [held_take_of_ne hop hv] at hheld
    obtain rfl := halone.only v g hheld hgid
    exact hv hw

/-- A turn that leaves its worker with another job starts no handler of this one. -/
lemma attempts_take_of_other (hop : f.operation? now turn = some op)
    (hafter : ∀ h, holding? turn (f.store.step now op).1 = some h → h.job.id ≠ id) :
    (f.take now turn).attempts id = f.attempts id := by
  rw [attempts_take hop]
  refine List.append_right_eq_self.2 ?_
  unfold Entry.context?
  dsimp only
  cases turn.worker? with
  | none => rfl
  | some w =>
    cases hnew : holding? turn (f.store.step now op).1 with
    | none => rfl
    | some h =>
      have hne : (h.job.context (f.name w)).id ≠ id := hafter h hnew
      cases hhandled : h.isHandled <;> simp [hhandled, hne]

/-- A turn that leaves its worker with this job starts its handler, if it has one. -/
lemma attempts_take_of_holding (hop : f.operation? now turn = some op) {w : ω}
    (hw : turn.worker? = some w) {h : Holding η}
    (hnew : holding? turn (f.store.step now op).1 = some h) (hid : h.job.id = id) :
    (f.take now turn).attempts id =
      f.attempts id ++ if h.isHandled then [h.job.attempts.toNat] else [] := by
  rw [attempts_take hop]
  unfold Entry.context?
  dsimp only
  have hcontext : (h.job.context (f.name w)).id = id := hid
  cases hhandled : h.isHandled with
  | false => simp [hw, hnew, hhandled]
  | true =>
    simp [hw, hnew, hhandled, hcontext]
    rfl

/-- Where a job is after a turn: in one of the listed situations, its handler having run for the
attempts from the first one on. -/
def Placed (f : Fleet ω η) (id : Ident) : Prop :=
  ∃ runs, f.attempts id = List.range runs ∧ f.Sits id runs

/-- A turn that leaves the record of a job alone, and whose worker runs it neither before nor after,
leaves it in its place. -/
lemma Placed.stays (hplaced : f.Placed id) (hop : f.operation? now turn = some op)
    (hrecord : (f.store.step now op).2.find? id = f.store.find? id)
    (hbefore : ∀ w h, turn.worker? = some w → f.held w = some h → h.job.id ≠ id)
    (hafter : ∀ h, holding? turn (f.store.step now op).1 = some h → h.job.id ≠ id) :
    (f.take now turn).Placed id := by
  obtain ⟨runs, hattempts, hsits⟩ := hplaced
  refine ⟨runs, ?_, (spares_take hop hrecord hbefore hafter).sits hsits⟩
  rw [attempts_take_of_other hop hafter, hattempts]

end Turns

end Fleet

end LeaseQueue
