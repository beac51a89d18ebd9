import LeaseQueue.Proofs.Store.Refusal
import LeaseQueue.Proofs.Worker.Fleet

/-!
# Late reports

A worker may still run a job when its lease is over, and then somebody else may get the job.  What
becomes of its report is up to the status of the job alone: nothing in a report says who makes it.
Still a lease is worth something.  As long as it lasts nobody gets the job a second time
(`Fleet.run_of_leased`), unless somebody who had the job before reports about it: such a report can
take the job out of the hands of the worker that has the lease.
-/

namespace LeaseQueue

namespace Job

/-- A lease that is over stays over. -/
lemma leaseExpired_mono {j : Job} {now later : Instant} (hle : now ≤ later)
    (h : j.leaseExpired now = true) : j.leaseExpired later = true := by
  unfold leaseExpired at h ⊢
  cases hlocked : j.lockedUntil with
  | none => simp [hlocked] at h
  | some limit =>
    simp only [hlocked, Option.any_some, Bool.and_eq_true, decide_eq_true_eq] at h ⊢
    exact ⟨h.1, lt_of_lt_of_le (Instant.lt_def.1 h.2) (Instant.le_def.1 hle)⟩

end Job

/-- What was done to a job leaves a job. -/
lemma Deed.Turns.isSome {now : Instant} {d : Deed} {r r' : Option Job} (h : d.Turns now r r') :
    r'.isSome = true := by
  cases h <;> rfl

/-- Nothing is done to a finished job. -/
lemma Deed.Turns.not_isTerminal {now : Instant} {d : Deed} {j : Job} {r : Option Job}
    (h : d.Turns now (some j) r) : j.status.isTerminal = false := by
  cases h with
  | handed hclaim => exact Job.isTerminal_of_isClaimable hclaim
  | moved hallowed => exact Job.isTerminal_of_allowed hallowed

/-! ### What turns do to a job -/

namespace Turn

variable {ω η : Type}

/-- Whether a worker claims. -/
def isClaim : Turn ω η → Bool
  | .claim _ _ => true
  | _ => false

/-- Whether a worker reports. -/
def isReport : Turn ω η → Bool
  | .report _ _ _ => true
  | _ => false

/-- Whether a job is cancelled. -/
def isCancel : Turn ω η → Bool
  | .cancel _ => true
  | _ => false

/-- Who cancels a job does not claim one. -/
lemma isClaim_of_isCancel {turn : Turn ω η} (h : turn.isCancel = true) : turn.isClaim = false := by
  cases turn with
  | cancel id => rfl
  | claim w duty => cases h
  | report w outcome millis => cases h
  | enqueue fresh submission => cases h

end Turn

namespace Fleet

variable {ω η : Type}

/-- What the store replies to a turn, if that asks anything of it. -/
def reply? (f : Fleet ω η) (now : Instant) (turn : Turn ω η) : Option Reply :=
  (f.operation? now turn).map fun op => (f.store.step now op).1

/-- What a turn does to the job of an identifier. -/
def deed? (f : Fleet ω η) (now : Instant) (turn : Turn ω η) (id : Ident) : Option Deed :=
  (f.operation? now turn).bind fun op => op.deed? (f.store.step now op).1 id

/-- Whether one of some turns, of the given kind, does anything to the job of an identifier. -/
def marks [DecidableEq ω] (kind : Turn ω η → Bool) (id : Ident) :
    Fleet ω η → List (Instant × Turn ω η) → Bool
  | _, [] => false
  | f, (now, turn) :: rest =>
    (kind turn && (f.deed? now turn id).isSome) || marks kind id (f.take now turn) rest

/-- What the claim of a worker does to a job is to hand it out. -/
lemma handed_of_claim {f : Fleet ω η} {now : Instant} {id : Ident} {w : ω} {duty : Duty η}
    {d : Deed} (hdeed : f.deed? now (.claim w duty) id = some d) :
    ∃ lease job, d = .handed lease job := by
  unfold deed? at hdeed
  cases hheld : f.held w with
  | some h =>
    rw [operation?_claim_of_some hheld] at hdeed
    cases hdeed
  | none =>
    rw [operation?_claim_of_none hheld] at hdeed
    obtain ⟨job, -, -, hd⟩ := Operation.eq_of_deed?_claim hdeed
    exact ⟨_, _, hd⟩

section Turns

variable [DecidableEq ω] {f : Fleet ω η} {now : Instant} {turn : Turn ω η} {id : Ident}
  {turns : List (Instant × Turn ω η)}

/-- A turn that does nothing to a job leaves no mark on it. -/
lemma marks_cons_of_none (hdeed : f.deed? now turn id = none) (kind : Turn ω η → Bool)
    (rest : List (Instant × Turn ω η)) :
    f.marks kind id ((now, turn) :: rest) = (f.take now turn).marks kind id rest := by
  rw [marks, hdeed]
  simp

/-- A turn leaves a record alone or makes of it what its deed says. -/
lemma take_turns (hf : f.store.Coherent) (now : Instant) (turn : Turn ω η) (id : Ident) :
    (f.deed? now turn id = none ∧ (f.take now turn).store.find? id = f.store.find? id) ∨
      ∃ d, f.deed? now turn id = some d ∧
        d.Turns now (f.store.find? id) ((f.take now turn).store.find? id) := by
  unfold deed?
  cases hop : f.operation? now turn with
  | none =>
    rw [take_of_none hop]
    exact .inl ⟨rfl, rfl⟩
  | some op =>
    rw [store_take hop]
    exact Store.step_turns hf now op id

/-- A job that was put in stays there. -/
lemma isSome_take (hf : f.store.Coherent) (hfound : (f.store.find? id).isSome = true) :
    ((f.take now turn).store.find? id).isSome = true := by
  rcases take_turns hf now turn id with ⟨-, hsame⟩ | ⟨d, -, hturns⟩
  · rw [hsame]
    exact hfound
  · exact hturns.isSome

/-- A job that was put in stays there all along. -/
lemma isSome_run (hf : f.store.Coherent) (hfound : (f.store.find? id).isSome = true) :
    ((f.run turns).store.find? id).isSome = true := by
  induction turns generalizing f with
  | nil => exact hfound
  | cons head rest ih => exact ih (coherent_take hf head.1 head.2) (isSome_take hf hfound)

/-- All turns keep the store coherent. -/
lemma coherent_run (hf : f.store.Coherent) : (f.run turns).store.Coherent := by
  induction turns generalizing f with
  | nil => exact hf
  | cons head rest ih => exact ih (coherent_take hf head.1 head.2)

/-- A worker runs the same job as long as it has no turn. -/
lemma held_run {w : ω} (hturns : ∀ x ∈ turns, x.2.worker? ≠ some w) :
    (f.run turns).held w = f.held w := by
  induction turns generalizing f with
  | nil => rfl
  | cons head rest ih =>
    have hrest : ∀ x ∈ rest, x.2.worker? ≠ some w := fun x hx =>
      hturns x (List.mem_cons_of_mem _ hx)
    have hhead : (f.take head.1 head.2).held w = f.held w := by
      cases hop : f.operation? head.1 head.2 with
      | none => rw [take_of_none hop]
      | some op => exact held_take_of_ne hop (hturns head List.mem_cons_self)
    exact (ih hrest).trans hhead

/-! ### Under a lease -/

/-- A turn does nothing to a finished job. -/
lemma take_of_isTerminal (hf : f.store.Coherent) {j : Job} (hrecord : f.store.find? id = some j)
    (hfinished : j.status.isTerminal = true) (now : Instant) (turn : Turn ω η) :
    f.deed? now turn id = none ∧ (f.take now turn).store.find? id = some j := by
  rcases take_turns hf now turn id with ⟨hdeed, hsame⟩ | ⟨d, -, hturns⟩
  · exact ⟨hdeed, hsame.trans hrecord⟩
  · rw [hrecord] at hturns
    rw [hturns.not_isTerminal] at hfinished
    cases hfinished

/-- Turns do nothing to a finished job. -/
lemma run_of_isTerminal (hf : f.store.Coherent) {j : Job} (hrecord : f.store.find? id = some j)
    (hfinished : j.status.isTerminal = true) (kind : Turn ω η → Bool) :
    f.marks kind id turns = false ∧ (f.run turns).store.find? id = some j := by
  induction turns generalizing f with
  | nil => exact ⟨rfl, hrecord⟩
  | cons head rest ih =>
    obtain ⟨hdeed, hafter⟩ := take_of_isTerminal hf hrecord hfinished head.1 head.2
    obtain ⟨hmarks, hrun⟩ := ih (coherent_take hf head.1 head.2) hafter
    exact ⟨(marks_cons_of_none hdeed kind rest).trans hmarks, hrun⟩

/-- What a turn may do to a job under a lease, reports apart: cancel it. -/
lemma take_of_leased (hf : f.store.Coherent) {job : Job} (hrecord : f.store.find? id = some job)
    (hstatus : job.status = .processing) (hlease : job.leaseExpired now = false)
    (hreport : turn.isReport = true → f.deed? now turn id = none) :
    (f.deed? now turn id = none ∧ (f.take now turn).store.find? id = some job) ∨
      (turn.isCancel = true ∧ (f.deed? now turn id).isSome = true ∧
        ∃ j : Job, (f.take now turn).store.find? id = some j ∧ j.status = .cancelled) := by
  rcases take_turns hf now turn id with ⟨hdeed, hsame⟩ | ⟨d, hdeed, hturns⟩
  · exact .inl ⟨hdeed, hsame.trans hrecord⟩
  rw [hrecord] at hturns
  cases turn with
  | claim w duty =>
    -- The job would be up for a claim only if the lease were over.
    obtain ⟨lease, k, rfl⟩ := handed_of_claim hdeed
    obtain ⟨j, -, hbefore, hclaim, -, -⟩ := hturns.of_handed
    obtain rfl := Option.some.inj hbefore
    have hopen : job.status ≠ .pending := by
      rw [hstatus]
      exact Status.noConfusion
    rw [Job.leaseExpired_of_isClaimable hclaim hopen] at hlease
    cases hlease
  | report w outcome millis =>
    rw [hreport rfl] at hdeed
    cases hdeed
  | enqueue fresh submission =>
    obtain rfl := Operation.eq_of_deed?_enqueue hdeed
    cases hturns.of_enqueued.2.1
  | cancel other =>
    obtain ⟨-, -, rfl⟩ := Operation.eq_of_deed?_move hdeed
    obtain ⟨j, -, -, hafter⟩ := hturns.of_moved
    exact .inr ⟨rfl, by rw [hdeed]; rfl, _, hafter, rfl⟩

/-- Without a report about it a job under a lease is not handed out again: it stays as it is, or is
cancelled. -/
lemma run_of_leased (hf : f.store.Coherent) {job : Job} (hrecord : f.store.find? id = some job)
    (hstatus : job.status = .processing) (hlease : ∀ x ∈ turns, job.leaseExpired x.1 = false)
    (hreports : f.marks Turn.isReport id turns = false) :
    f.marks Turn.isClaim id turns = false ∧
      ((f.run turns).store.find? id = some job ∨
        f.marks Turn.isCancel id turns = true ∧
          ∃ j : Job, (f.run turns).store.find? id = some j ∧ j.status = .cancelled) := by
  induction turns generalizing f with
  | nil => exact ⟨rfl, .inl hrecord⟩
  | cons head rest ih =>
    obtain ⟨now, turn⟩ := head
    obtain ⟨hhead, hrest⟩ := Bool.or_eq_false_iff.1 hreports
    have hcoherent := coherent_take hf now turn
    have hreport : turn.isReport = true → f.deed? now turn id = none := by
      intro hkind
      rw [hkind, Bool.true_and] at hhead
      simpa using hhead
    rcases take_of_leased hf hrecord hstatus (hlease _ List.mem_cons_self) hreport with
      ⟨hdeed, hafter⟩ | ⟨hcancel, hdeed, j, hafter, hcancelled⟩
    · obtain ⟨hclaims, hplace⟩ :=
        ih hcoherent hafter (fun x hx => hlease x (List.mem_cons_of_mem _ hx)) hrest
      rw [marks_cons_of_none hdeed, marks_cons_of_none hdeed]
      exact ⟨hclaims, hplace⟩
    · have hfinished : j.status.isTerminal = true := by
        rw [hcancelled]
        rfl
      obtain ⟨hclaims, hrun⟩ := run_of_isTerminal hcoherent hafter hfinished Turn.isClaim
      refine ⟨?_, .inr ⟨?_, j, hrun, hcancelled⟩⟩
      · rw [marks, Turn.isClaim_of_isCancel hcancel, hclaims]
        rfl
      · rw [marks, hcancel, hdeed]
        rfl

/-- A worker that claimed a job holds what the store has of it. -/
lemma record_of_claim (hf : f.store.Coherent) {w : ω} {duty : Duty η} {h : Holding η}
    (hfree : f.held w = none) (hclaim : (f.take now (.claim w duty)).held w = some h) :
    (f.take now (.claim w duty)).store.find? h.job.id = some h.job ∧
      h.job.status = .processing := by
  have hop := operation?_claim_of_none hfree now duty
  rw [held_take_of_eq hop rfl] at hclaim
  obtain ⟨-, hreply⟩ := claimed_of_holding? hclaim
  have hdeed : f.deed? now (.claim w duty) h.job.id = some (.handed duty.lease h.job) := by
    unfold deed?
    rw [hop, Option.bind_some, hreply]
    exact if_pos rfl
  rcases take_turns hf now (.claim w duty) h.job.id with ⟨hnone, -⟩ | ⟨d, hsome, hturns⟩
  · rw [hdeed] at hnone
    cases hnone
  · obtain rfl := Option.some.inj (hdeed.symm.trans hsome)
    obtain ⟨j, worker, -, -, hjob, hafter⟩ := hturns.of_handed
    exact ⟨hafter, by rw [hjob]; rfl⟩

end Turns

/-! ### Reports -/

section Reports

variable [DecidableEq ω] {f : Fleet ω η} {w : ω} {h : Holding η} {now : Instant}

/-- What becomes of the report of a worker about the job `h` that it claimed: `f` is the fleet right
after the claim, and `since` are the turns between the claim and the report. -/
structure Fenced (f : Fleet ω η) (since : List (Instant × Turn ω η)) (w : ω) (h : Holding η)
    (now : Instant) : Prop where
  /-- As long as the lease lasts, and no report of anybody else about the job was taken, nobody else
  got the job, and the report is taken, unless the job was cancelled. -/
  leased : h.job.leaseExpired now = false → f.marks Turn.isReport h.job.id since = false →
    f.marks Turn.isClaim h.job.id since = false ∧
      ∀ (outcome : Ending) (millis : ℕ),
        ((f.run since).store.find? h.job.id = some h.job ∧
          (f.run since).reply? now (.report w outcome millis) = some (.moved .applied)) ∨
        (f.marks Turn.isCancel h.job.id since = true ∧
          (f.run since).reply? now (.report w outcome millis) =
            some (.moved (.skipped .cancelled)) ∧
          ((f.run since).take now (.report w outcome millis)).store = (f.run since).store)
  /-- In any case the report is taken exactly if the job is in a state that admits it, and otherwise
  changes neither a job nor the statistics. -/
  answered : ∃ j : Job, (f.run since).store.find? h.job.id = some j ∧
    ∀ (outcome : Ending) (millis : ℕ),
      if (h.report outcome millis now).Admits j then
        (f.run since).reply? now (.report w outcome millis) = some (.moved .applied) ∧
          ((f.run since).take now (.report w outcome millis)).store.find? h.job.id =
            some ((h.report outcome millis now).apply now j)
      else
        (f.run since).reply? now (.report w outcome millis) = some (.moved (.skipped j.status)) ∧
          ((f.run since).take now (.report w outcome millis)).store = (f.run since).store

/-- A report that the state of the job admits is taken. -/
lemma report_of_admits (hheld : f.held w = some h) {j : Job}
    (hrecord : f.store.find? h.job.id = some j) {outcome : Ending} {millis : ℕ}
    (hadmits : (h.report outcome millis now).Admits j) :
    f.reply? now (.report w outcome millis) = some (.moved .applied) ∧
      (f.take now (.report w outcome millis)).store.find? h.job.id =
        some ((h.report outcome millis now).apply now j) := by
  have hop := operation?_report_of_some hheld now outcome millis
  have hallowed : (h.report outcome millis now).allowed j = true := Move.allowed_iff.2 hadmits
  refine ⟨?_, ?_⟩
  · rw [reply?, hop, Option.map_some, (Store.step_of_allowed hrecord hallowed).1]
  · rw [store_take hop, (Store.step_of_allowed hrecord hallowed).2]

/-- A report that the state of the job does not admit changes nothing. -/
lemma report_of_not_admits (hheld : f.held w = some h) {j : Job}
    (hrecord : f.store.find? h.job.id = some j) {outcome : Ending} {millis : ℕ}
    (hadmits : ¬(h.report outcome millis now).Admits j) :
    f.reply? now (.report w outcome millis) = some (.moved (.skipped j.status)) ∧
      (f.take now (.report w outcome millis)).store = f.store := by
  have hop := operation?_report_of_some hheld now outcome millis
  have hallowed : (h.report outcome millis now).allowed j = false :=
    Bool.eq_false_iff.2 fun hallowed => hadmits (Move.allowed_iff.1 hallowed)
  refine ⟨?_, ?_⟩
  · rw [reply?, hop, Option.map_some, Store.step_of_not_allowed hrecord hallowed]
  · rw [store_take hop, Store.step_of_not_allowed hrecord hallowed]

/-- In every fleet, with any workers, producers and people who cancel, in any order, and with
handlers that may outlive their leases: a worker's report about the job that it claimed is taken or
not by the state of the job, and it is safe from the others only as long as its lease lasts and none
of them reports about the job. -/
theorem reports_fenced (name : ω → String) (before since : List (Instant × Turn ω η)) (w : ω)
    (duty : Duty η) (h : Holding η) (claimed now : Instant)
    (hfree : (run { name } before).held w = none)
    (hclaim : ((run { name } before).take claimed (.claim w duty)).held w = some h)
    (hsilent : ∀ x ∈ since, x.2.worker? ≠ some w) (hclock : ∀ x ∈ since, x.1 ≤ now) :
    Fenced ((run { name } before).take claimed (.claim w duty)) since w h now := by
  have hbefore : (run ({ name } : Fleet ω η) before).store.Coherent :=
    coherent_run Store.Coherent.empty
  obtain ⟨hrecord, hstatus⟩ := record_of_claim hbefore hfree hclaim
  set f := (run { name } before).take claimed (.claim w duty) with hf
  have hcoherent : f.store.Coherent := coherent_take hbefore claimed (.claim w duty)
  have hheld : (f.run since).held w = some h := (held_run hsilent).trans hclaim
  constructor
  · intro hlease hreports
    have hlive : ∀ x ∈ since, h.job.leaseExpired x.1 = false := by
      intro x hx
      refine Bool.eq_false_iff.2 fun hexpired => ?_
      rw [Job.leaseExpired_mono (hclock x hx) hexpired] at hlease
      cases hlease
    obtain ⟨hclaims, hplace⟩ := run_of_leased hcoherent hrecord hstatus hlive hreports
    refine ⟨hclaims, fun outcome millis => ?_⟩
    rcases hplace with hsame | ⟨hcancel, j, hafter, hcancelled⟩
    · have hallowed := h.allowed_report hstatus outcome millis now
      exact .inl ⟨hsame, (report_of_admits hheld hsame (Move.allowed_iff.1 hallowed)).1⟩
    · have hallowed := h.report_not_allowed hcancelled outcome millis now
      have hadmits : ¬(h.report outcome millis now).Admits j := fun hadmits => by
        rw [Move.allowed_iff.2 hadmits] at hallowed
        cases hallowed
      obtain ⟨hreply, hkept⟩ := report_of_not_admits hheld hafter hadmits
      rw [hcancelled] at hreply
      exact .inr ⟨hcancel, hreply, hkept⟩
  · have hfound : ((f.run since).store.find? h.job.id).isSome = true :=
      isSome_run hcoherent (by rw [hrecord]; rfl)
    obtain ⟨j, hj⟩ := Option.isSome_iff_exists.1 hfound
    refine ⟨j, hj, fun outcome millis => ?_⟩
    split_ifs with hadmits
    · exact report_of_admits hheld hj hadmits
    · exact report_of_not_admits hheld hj hadmits

end Reports

/-- A worker for mail whose leases last some seconds. -/
def mailDuty (seconds : Int) : Duty Unit :=
  ⟨["mail"], .ofSeconds seconds, 100, fun _ => .zero, ⟨[("send", ())]⟩⟩

/-- Two workers who have just got a job to do. -/
def newMail : Fleet Bool Unit :=
  run { name := fun w => if w then "first" else "second" }
    [(.epoch, .enqueue .nil (.plain "mail" "send" (.object []) .epoch))]

/-- After two seconds the second worker asks for a job. -/
def secondClaims : List (Instant × Turn Bool Unit) :=
  [(Instant.epoch.after (.ofSeconds 2), .claim false (mailDuty 60))]

/-- If the first worker has claimed the job for a minute, the second one gets nothing, and the first
one's report is taken. -/
theorem leased_report_applied :
    let f := newMail.take .epoch (.claim true (mailDuty 60))
    let now := Instant.epoch.after (.ofSeconds 3)
    ∃ h, newMail.held true = none ∧ f.held true = some h ∧
      (∀ x ∈ secondClaims, x.2.worker? ≠ some true) ∧ (∀ x ∈ secondClaims, x.1 ≤ now) ∧
      f.Fenced secondClaims true h now ∧ f.marks Turn.isClaim .nil secondClaims = false ∧
      (f.run secondClaims).reply? now (.report true (.error "busy") 3000) =
        some (.moved .applied) := by
  intro f now
  have hsilent : ∀ x ∈ secondClaims, x.2.worker? ≠ some true := by decide
  have hclock : ∀ x ∈ secondClaims, x.1 ≤ now := by decide
  have hfenced := reports_fenced _ _ secondClaims true (mailDuty 60) _ .epoch now
    (show newMail.held true = none from rfl) rfl hsilent hclock
  obtain ⟨hclaims, hreport⟩ := hfenced.leased (by decide +kernel) (by decide +kernel)
  refine ⟨_, rfl, rfl, hsilent, hclock, hfenced, hclaims, ?_⟩
  rcases hreport (.error "busy") 3000 with ⟨-, happlied⟩ | ⟨hcancel, -⟩
  · exact happlied
  · exact absurd hcancel (by decide +kernel)

/-- If the first worker has claimed the job for a second only, the second one gets the job, and a
lease of its own; still the first one's report is taken after three seconds.  An error spends an
attempt and the lease of the second worker, and a success is counted. -/
theorem late_report_applied :
    let f := newMail.take .epoch (.claim true (mailDuty 1))
    let now := Instant.epoch.after (.ofSeconds 3)
    let failed : Turn Bool Unit := .report true (.error "busy") 3000
    let succeeded : Turn Bool Unit := .report true .success 3000
    let seen (g : Fleet Bool Unit) :=
      (g.store.find? .nil).map fun j => (j.status, j.attempts, j.worker, j.leaseExpired now)
    (∃ h, f.held true = some h ∧ h.job.leaseExpired now = true) ∧
      f.marks Turn.isClaim .nil secondClaims = true ∧
      seen (f.run secondClaims) = some (.processing, 0, some "second", false) ∧
      (f.run secondClaims).reply? now failed = some (.moved .applied) ∧
      seen ((f.run secondClaims).take now failed) = some (.pending, 1, none, false) ∧
      (f.run secondClaims).reply? now succeeded = some (.moved .applied) ∧
      ((f.run secondClaims).store.statsOn "mail" now.date).completed = 0 ∧
      (((f.run secondClaims).take now succeeded).store.statsOn "mail" now.date).completed = 1 := by
  refine ⟨⟨_, rfl, by decide +kernel⟩, by decide +kernel, by decide +kernel, rfl,
    by decide +kernel, rfl, ?_, ?_⟩
  · decide +kernel
  · decide +kernel

end Fleet

end LeaseQueue
