import LeaseQueue.Proofs.Worker.Fleet

/-!
# The attempts of a fleet

As long as no lease runs out under a worker (`Fleet.Punctual`), every turn takes the job that it is
about from one of the situations of `Fleet.Sits` to another one: a claim from waiting to running, a
report from running back to waiting or to the end, a cancellation to the end or out of the hands of
a worker.  Hence these situations are all there is, in every fleet that begins with an empty store
(`Fleet.Sound.run`).  Read together they say that the snapshot by which a worker decides what to
report is as good as the record: `Fleet.Accounted` is the account of all attempts that follows.
-/

namespace LeaseQueue

namespace Fleet

variable {ω η : Type}

/-! ### The turns one by one -/

section Kinds

variable [DecidableEq ω] {f : Fleet ω η} {now : Instant} {id : Ident}

/-- Every job has a place after a job is put in. -/
lemma Placed.enqueue (hs : f.store.Coherent) (hplaced : f.Placed id) (fresh : Ident)
    (submission : Submission) : (f.take now (.enqueue fresh submission)).Placed id := by
  have hop : f.operation? now (.enqueue fresh submission) = some (.enqueue fresh submission) := rfl
  have hsame : (f.take now (.enqueue fresh submission)).attempts id = f.attempts id :=
    attempts_take_of_other hop fun _ hnew => by cases hnew
  rcases Store.step_turns hs now (.enqueue fresh submission) id with
    ⟨-, hrecord⟩ | ⟨d, hdeed, hturns⟩
  · exact hplaced.stays hop hrecord (fun _ _ hw => by cases hw) (fun _ hnew => by cases hnew)
  · obtain rfl := Operation.eq_of_deed?_enqueue hdeed
    obtain ⟨hvalid, hbefore, fresh', hafter⟩ := hturns.of_enqueued
    obtain ⟨runs, hattempts, hsits⟩ := hplaced
    refine ⟨runs, hsame.trans hattempts, ?_⟩
    cases hsits with
    | unknown _ hfree hruns =>
      rw [take_of_some hop]
      exact .waiting hafter rfl (Submission.one_le_maxAttempts hvalid) hfree hruns
    | waiting hrecord | running hrecord | revoked hrecord | finished hrecord =>
      rw [hbefore] at hrecord
      cases hrecord

/-- Every job has a place after a job is cancelled. -/
lemma Placed.cancel (hs : f.store.Coherent) (hplaced : f.Placed id) (other : Ident) :
    (f.take now (.cancel other)).Placed id := by
  have hop : f.operation? now (.cancel other) = some (.move other .cancel) := rfl
  have hsame : (f.take now (.cancel other)).attempts id = f.attempts id :=
    attempts_take_of_other hop fun _ hnew => by cases hnew
  rcases Store.step_turns hs now (.move other .cancel) id with ⟨-, hrecord⟩ | ⟨d, hdeed, hturns⟩
  · exact hplaced.stays hop hrecord (fun _ _ hw => by cases hw) (fun _ hnew => by cases hnew)
  · obtain ⟨rfl, hreply, rfl⟩ := Operation.eq_of_deed?_move hdeed
    obtain ⟨j, hbefore, hallowed, hafter⟩ := hturns.of_moved
    have hopen : ¬j.status.isTerminal = true :=
      Bool.eq_false_iff.1 (Job.isTerminal_of_allowed hallowed)
    obtain ⟨runs, hattempts, hsits⟩ := hplaced
    refine ⟨runs, hsame.trans hattempts, ?_⟩
    rw [take_of_some hop, hreply]
    cases hsits with
    | unknown hrecord =>
      rw [hbefore] at hrecord
      cases hrecord
    | waiting hrecord hstatus hspare hfree hruns =>
      obtain rfl := Option.some.inj (hbefore.symm.trans hrecord)
      exact .finished hafter rfl hspare hfree (hruns ▸ Nat.le_of_lt hspare)
    | @running w h hrecord hstatus hname hspare halone hsince hruns =>
      obtain rfl := Option.some.inj (hbefore.symm.trans hrecord)
      obtain ⟨since, ⟨before, t, hlog⟩, hsilent⟩ := hsince
      set e : Entry ω η := ⟨now, .cancel other, .moved .applied⟩
      have hle : runs ≤ h.job.maxAttempts.toNat := by split_ifs at hruns <;> omega
      have hlog' : f.log ++ [e] =
          before ++ ⟨t, .claim w h.duty, .claimed (some h.job)⟩ :: (since ++ [e]) := by
        rw [hlog, List.append_assoc, List.cons_append]
      have hsilent' : ∀ e' ∈ since ++ [e], e'.turn.worker? ≠ some w := by
        intro e' he'
        rcases List.mem_append.1 he' with hold | hnew
        · exact hsilent e' hold
        · rw [List.mem_singleton.1 hnew]
          exact (Option.some_ne_none w).symm
      exact .revoked hafter rfl hspare ⟨halone.held, halone.id_eq, halone.only⟩
        ⟨since ++ [e], ⟨⟨before, t, hlog'⟩, hsilent'⟩, e, by simp, rfl, rfl⟩ hle
    | revoked hrecord hstatus =>
      obtain rfl := Option.some.inj (hbefore.symm.trans hrecord)
      rw [hstatus] at hopen
      exact absurd rfl hopen
    | finished hrecord hstatus =>
      obtain rfl := Option.some.inj (hbefore.symm.trans hrecord)
      exact absurd hstatus hopen

/-- Every job has a place after a claim, if no lease has run out under a worker. -/
lemma Placed.claim (hs : f.store.Coherent) (htimely : f.Timely now) (hplaced : f.Placed id) (w : ω)
    (duty : Duty η) : (f.take now (.claim w duty)).Placed id := by
  cases hheld : f.held w with
  | some h =>
    rwa [take_of_none (operation?_claim_of_some hheld now duty)]
  | none =>
    have hop := operation?_claim_of_none hheld now duty
    rcases Store.step_turns hs now (.claim (f.name w) duty.queues duty.lease) id with
      ⟨hdeed, hrecord⟩ | ⟨d, hdeed, hturns⟩
    · have hidle : ∀ v h, (Turn.claim w duty).worker? = some v → f.held v = some h →
          h.job.id ≠ id := by
        intro v h hv hheld'
        obtain rfl := Option.some.inj hv
        rw [hheld] at hheld'
        cases hheld'
      refine hplaced.stays hop hrecord hidle fun h hnew => ?_
      obtain ⟨-, hreply⟩ := claimed_of_holding? hnew
      rw [hreply] at hdeed
      exact Operation.id_ne_of_deed?_claim hdeed
    · obtain ⟨job, hreply, hid, rfl⟩ := Operation.eq_of_deed?_claim hdeed
      have hworker := Store.worker_of_claimed hreply
      obtain ⟨j, worker, hbefore, hclaim, hjob, hafter⟩ := hturns.of_handed
      obtain ⟨runs, hattempts, hsits⟩ := hplaced
      cases hsits with
      | unknown hrecord =>
        rw [hbefore] at hrecord
        cases hrecord
      | waiting hrecord hstatus hspare hfree hruns =>
        obtain rfl := Option.some.inj (hbefore.symm.trans hrecord)
        have hnew : holding? (.claim w duty)
            (f.store.step now (.claim (f.name w) duty.queues duty.lease)).1 = some ⟨job, duty⟩ := by
          rw [hreply]
          rfl
        have hbegun := attempts_take_of_holding (w := w) hop rfl hnew hid
        have hcount : job.attempts.toNat = runs := by rw [hjob, hruns]; rfl
        refine ⟨runs + if (Holding.mk job duty).isHandled then 1 else 0, ?_, ?_⟩
        · rw [hbegun, hattempts, hcount]
          cases (Holding.mk job duty).isHandled with
          | false => simp
          | true => simp [List.range_succ]
        · have hsince : (f.take now (.claim w duty)).Since w ⟨job, duty⟩ [] := by
            rw [take_of_some hop, hreply]
            exact ⟨⟨f.log, now, rfl⟩, by simp⟩
          refine .running (by rw [store_take hop, hafter]) (by rw [hjob]; rfl)
            (by rw [name_take hop, hworker]) (by rw [hjob]; exact hspare)
            (hfree.alone_take hop rfl hnew hid) ⟨[], hsince⟩ (by rw [hcount])
      | running hrecord hstatus hname hspare halone =>
        obtain rfl := Option.some.inj (hbefore.symm.trans hrecord)
        have hexpired := Job.leaseExpired_of_isClaimable hclaim (by rw [hstatus]; decide)
        rw [htimely _ _ halone.held] at hexpired
        cases hexpired
      | revoked hrecord hstatus =>
        obtain rfl := Option.some.inj (hbefore.symm.trans hrecord)
        exact absurd (hstatus ▸ rfl) (Job.not_isTerminal_of_isClaimable hclaim)
      | finished hrecord hstatus =>
        obtain rfl := Option.some.inj (hbefore.symm.trans hrecord)
        exact absurd hstatus (Job.not_isTerminal_of_isClaimable hclaim)

/-- Every job has a place after a worker reports. -/
lemma Placed.report (hs : f.store.Coherent) (hplaced : f.Placed id) (w : ω) (outcome : Ending)
    (millis : ℕ) : (f.take now (.report w outcome millis)).Placed id := by
  cases hheld : f.held w with
  | none =>
    rwa [take_of_none (operation?_report_of_none hheld now outcome millis)]
  | some h =>
    set m := h.report outcome millis now
    have hop : f.operation? now (.report w outcome millis) = some (.move h.job.id m) :=
      operation?_report_of_some hheld now outcome millis
    have hsame : (f.take now (.report w outcome millis)).attempts id = f.attempts id :=
      attempts_take_of_other hop fun _ hnew => by cases hnew
    by_cases hid : h.job.id = id
    · obtain ⟨runs, hattempts, hsits⟩ := hplaced
      refine ⟨runs, hsame.trans hattempts, ?_⟩
      cases hsits with
      | unknown _ hfree | waiting _ _ _ hfree | finished _ _ _ hfree =>
        exact absurd hid (hfree w h hheld)
      | running hrecord hstatus hname hspare halone hsince hruns =>
        obtain rfl := halone.only w h hheld hid
        obtain rfl := Option.some.inj (hheld.symm.trans halone.held)
        have hfree := halone.free_take hop rfl rfl
        have hallowed := h.allowed_report hstatus outcome millis now
        have hafter : (f.take now (.report w outcome millis)).store.find? id =
            some (m.apply now h.job) := by
          rw [store_take hop, hid]
          exact (Store.step_of_allowed hrecord hallowed).2
        have hle : runs ≤ h.job.maxAttempts.toNat := by split_ifs at hruns <;> omega
        rcases h.report_cases outcome millis now with
          ⟨result, hm⟩ | ⟨failure, hm⟩ | ⟨next, hm, hhandled, hagain⟩
        · rw [show m = .complete result from hm] at hafter
          exact .finished hafter rfl hspare hfree hle
        · rw [show m = .fail failure from hm] at hafter
          exact .finished hafter rfl hspare hfree hle
        · rw [show m = .retry next from hm] at hafter
          rw [hm] at hallowed
          have hsucc := (Job.attempts_succ_of_allowed hallowed).1
          rw [if_pos hhandled] at hruns
          exact .waiting hafter rfl (hsucc ▸ hagain) hfree (hruns.trans hsucc.symm)
      | @revoked _ _ j hrecord hstatus hspare halone hsince hruns =>
        obtain rfl := halone.only w h hheld hid
        obtain rfl := Option.some.inj (hheld.symm.trans halone.held)
        have hfree := halone.free_take hop rfl rfl
        have hallowed := h.report_not_allowed hstatus outcome millis now
        have hafter : (f.take now (.report w outcome millis)).store.find? id = some j := by
          rw [store_take hop, hid, Store.step_of_not_allowed hrecord hallowed]
          exact hrecord
        exact .finished hafter (hstatus ▸ rfl) hspare hfree hruns
    · have hrecord : (f.store.step now (.move h.job.id m)).2.find? id = f.store.find? id := by
        rcases Store.step_turns hs now (.move h.job.id m) id with ⟨-, hrecord⟩ | ⟨d, hdeed, -⟩
        · exact hrecord
        · exact absurd (Operation.eq_of_deed?_move hdeed).1 hid
      refine hplaced.stays hop hrecord (fun v g hv hg => ?_) (fun _ hnew => by cases hnew)
      obtain rfl := Option.some.inj hv
      obtain rfl := Option.some.inj (hheld.symm.trans hg)
      exact hid

end Kinds

/-! ### Whole runs -/

/-- What holds of a fleet all the time: its store is coherent, and every job has a place. -/
structure Sound [DecidableEq ω] (f : Fleet ω η) : Prop where
  coherent : f.store.Coherent
  placed : ∀ id, f.Placed id

section Runs

variable [DecidableEq ω] {f : Fleet ω η}

/-- A fleet that has done nothing yet. -/
lemma Sound.begin (name : ω → String) : Sound ({ name } : Fleet ω η) where
  coherent := Store.Coherent.empty
  placed id := ⟨0, rfl, .unknown rfl (fun _ _ hheld => by cases hheld) rfl⟩

/-- Every turn keeps a fleet sound, if no lease has run out under a worker. -/
lemma Sound.take (hf : f.Sound) {now : Instant} (htimely : f.Timely now) (turn : Turn ω η) :
    (f.take now turn).Sound where
  coherent := coherent_take hf.coherent now turn
  placed id := by
    cases turn with
    | claim w duty => exact (hf.placed id).claim hf.coherent htimely w duty
    | report w outcome millis => exact (hf.placed id).report hf.coherent w outcome millis
    | enqueue fresh submission => exact (hf.placed id).enqueue hf.coherent fresh submission
    | cancel other => exact (hf.placed id).cancel hf.coherent other

/-- Punctual turns keep a fleet sound. -/
lemma Sound.run (hf : f.Sound) {turns : List (Instant × Turn ω η)} (hturns : f.Punctual turns) :
    (f.run turns).Sound := by
  induction turns generalizing f with
  | nil => exact hf
  | cons head rest ih => exact ih (hf.take hturns.1 head.2) hturns.2

end Runs

/-! ### The account of all attempts -/

/-- What becomes of the jobs of a fleet and of their attempts. -/
structure Accounted (f : Fleet ω η) : Prop where
  /-- No two workers run the same job. -/
  exclusive : ∀ v w g h, f.held v = some g → f.held w = some h → g.job.id = h.job.id → v = w
  /-- Every processed job is run by exactly one worker: the one that it names, and whose snapshot
  is the record. -/
  processing : ∀ j ∈ f.store.jobs, j.status = .processing →
    ∃ w h, f.Alone j.id w h ∧ j.worker = some (f.name w) ∧ h.job = j
  /-- The handler of a job runs for one attempt after the other, from the first one on, and no
  more often than the job has attempts. -/
  attempts : ∀ id, ∃ runs, f.attempts id = List.range runs ∧
    match f.store.find? id with
    | some j => runs ≤ j.maxAttempts.toNat
    | none => runs = 0
  /-- No attempt beyond the last one is counted. -/
  spare : ∀ j ∈ f.store.jobs, j.attempts.toNat + 1 ≤ j.maxAttempts.toNat
  /-- Whatever a worker may report about the job that it runs is taken, unless the job was cancelled
  since the worker claimed it. -/
  reports : ∀ w h, f.held w = some h → ∀ outcome millis now op,
    f.operation? now (.report w outcome millis) = some op →
      (f.store.step now op).1 = .moved .applied ∨
        (f.store.step now op).1 = .moved (.skipped .cancelled) ∧
          ∃ since, f.Since w h since ∧ Cancels since h.job.id

/-- In a sound fleet all attempts are accounted for. -/
lemma Sound.accounted [DecidableEq ω] {f : Fleet ω η} (hf : f.Sound) : f.Accounted where
  exclusive := by
    intro v w g h hg hh hid
    obtain ⟨runs, -, hsits⟩ := hf.placed g.job.id
    cases hsits with
    | unknown _ hfree | waiting _ _ _ hfree | finished _ _ _ hfree =>
      exact absurd rfl (hfree v g hg)
    | running _ _ _ _ halone | revoked _ _ _ halone =>
      exact (halone.only v g hg rfl).trans (halone.only w h hh hid.symm).symm
  processing := by
    intro j hj hstatus
    have hfound := Store.find?_of_mem hf.coherent.distinct hj
    obtain ⟨runs, -, hsits⟩ := hf.placed j.id
    cases hsits with
    | unknown hrecord =>
      rw [hfound] at hrecord
      cases hrecord
    | running hrecord _ hname _ halone =>
      obtain rfl := Option.some.inj (hfound.symm.trans hrecord)
      exact ⟨_, _, halone, hname, rfl⟩
    | waiting hrecord hother | revoked hrecord hother | finished hrecord hother =>
      obtain rfl := Option.some.inj (hfound.symm.trans hrecord)
      rw [hstatus] at hother
      cases hother
  attempts := by
    intro id
    obtain ⟨runs, hattempts, hsits⟩ := hf.placed id
    refine ⟨runs, hattempts, ?_⟩
    cases hsits with
    | unknown hrecord _ hruns =>
      rw [hrecord]
      exact hruns
    | waiting hrecord _ hspare _ hruns =>
      rw [hrecord]
      exact hruns ▸ Nat.le_of_lt hspare
    | running hrecord _ _ hspare _ _ hruns =>
      rw [hrecord]
      show runs ≤ _
      split_ifs at hruns <;> omega
    | revoked hrecord _ _ _ _ hruns | finished hrecord _ _ _ hruns =>
      rw [hrecord]
      exact hruns
  spare := by
    intro j hj
    have hfound := Store.find?_of_mem hf.coherent.distinct hj
    obtain ⟨runs, -, hsits⟩ := hf.placed j.id
    cases hsits with
    | unknown hrecord =>
      rw [hfound] at hrecord
      cases hrecord
    | waiting hrecord _ hspare | running hrecord _ _ hspare | revoked hrecord _ hspare
    | finished hrecord _ hspare =>
      obtain rfl := Option.some.inj (hfound.symm.trans hrecord)
      exact hspare
  reports := by
    intro w h hheld outcome millis now op hop
    rw [operation?_report_of_some hheld] at hop
    obtain rfl := Option.some.inj hop
    obtain ⟨runs, -, hsits⟩ := hf.placed h.job.id
    cases hsits with
    | unknown _ hfree | waiting _ _ _ hfree | finished _ _ _ hfree =>
      exact absurd rfl (hfree w h hheld)
    | running hrecord hstatus _ _ halone =>
      obtain rfl := halone.only w h hheld rfl
      obtain rfl := Option.some.inj (hheld.symm.trans halone.held)
      exact .inl (Store.step_of_allowed hrecord
        (h.allowed_report hstatus outcome millis now)).1
    | revoked hrecord hstatus _ halone hsince =>
      obtain rfl := halone.only w h hheld rfl
      obtain rfl := Option.some.inj (hheld.symm.trans halone.held)
      rw [Store.step_of_not_allowed hrecord (h.report_not_allowed hstatus outcome millis now),
        hstatus]
      exact .inr ⟨rfl, hsince⟩

/-- Whatever workers, producers and people who cancel do with a store that was empty, and in
whatever order: as long as no worker runs a job beyond its lease, all attempts are accounted for. -/
theorem attempts_accounted [DecidableEq ω] (name : ω → String) (turns : List (Instant × Turn ω η))
    (h : Punctual { name } turns) : (run { name } turns).Accounted :=
  ((Sound.begin name).run h).accounted

/-- One of two workers fails at a job, the other one takes it over, and then it is cancelled. -/
def relay : List (Instant × Turn Bool Unit) :=
  let duty : Duty Unit := ⟨["mail"], .ofSeconds 60, 100, fun _ => .zero, ⟨[("send", ())]⟩⟩
  let later := Instant.epoch.after (.ofSeconds 1)
  [(.epoch, .enqueue .nil (.plain "mail" "send" (.object []) .epoch)), (.epoch, .claim true duty),
    (later, .report true (.error "busy") 1000), (later, .claim false duty),
    (later, .cancel .nil)]

/-- The handler ran for the attempts 0 and 1, and the second worker, which has not heard of the
cancellation, is told of it when it reports. -/
theorem relay_accounted :
    let name := fun w => if w then "first" else "second"
    let f := run { name } relay
    Punctual { name } relay ∧ f.Accounted ∧ f.attempts .nil = [0, 1] ∧
      ∃ h, f.held false = some h ∧
        (f.store.step .greatest (.move .nil (h.report .success 5 .greatest))).1 =
          .moved (.skipped .cancelled) := by
  intro name f
  have hpunctual : Punctual { name } relay := by decide +kernel
  refine ⟨hpunctual, attempts_accounted name relay hpunctual, by decide +kernel, _, rfl, rfl⟩

end Fleet

end LeaseQueue
