import LeaseQueue.Proofs.Store.Trace

/-!
# The life of a single job

`Deed.Turns` says what a deed makes of a record, with the guard under which it can be done, and
`Life` chains such steps.  `Store.life_of_run` is the bridge from stores to jobs: seen from one
identifier, every run of a store is a life of its job, made of the deeds in its history.  Questions
about the order of claims, retries and reports of one job are thereby questions about lives, in
which neither the other jobs nor the choice among them occurs any more.
-/

namespace LeaseQueue

/-- The record that a deed makes of another one, and when it can be done. -/
inductive Deed.Turns (now : Instant) : Deed → Option Job → Option Job → Prop
  | enqueued {fresh : Ident} {submission : Submission} (hvalid : submission.validate = .ok ()) :
      Turns now (.enqueued submission) none (some (submission.pendingJob fresh now))
  | handed {j : Job} {worker : String} {lease : Span} (hclaim : j.isClaimable now = true) :
      Turns now (.handed lease (j.leased worker lease now)) (some j)
        (some (j.leased worker lease now))
  | moved {j : Job} {m : Move} (hallowed : m.allowed j = true) :
      Turns now (.moved m) (some j) (some (m.apply now j))

namespace Deed.Turns

variable {now : Instant} {r r' : Option Job}

/-- A job is put in where there was none. -/
lemma of_enqueued {submission : Submission} (h : Turns now (.enqueued submission) r r') :
    submission.validate = .ok () ∧ r = none ∧
      ∃ fresh, r' = some (submission.pendingJob fresh now) := by
  cases h with
  | enqueued hvalid => exact ⟨hvalid, rfl, _, rfl⟩

/-- A job is handed out that can be claimed. -/
lemma of_handed {lease : Span} {job : Job} (h : Turns now (.handed lease job) r r') :
    ∃ (j : Job) (worker : String), r = some j ∧ j.isClaimable now = true ∧
      job = j.leased worker lease now ∧ r' = some job := by
  cases h with
  | handed hclaim => exact ⟨_, _, rfl, hclaim, rfl, rfl⟩

/-- A job is moved that the move applies to. -/
lemma of_moved {m : Move} (h : Turns now (.moved m) r r') :
    ∃ j : Job, r = some j ∧ m.allowed j = true ∧ r' = some (m.apply now j) := by
  cases h with
  | moved hallowed => exact ⟨_, rfl, hallowed, rfl⟩

end Deed.Turns

/-- Deeds one after the other, from the record before them to the one after them. -/
inductive Life : Option Job → History → Option Job → Prop
  | nil {r : Option Job} : Life r [] r
  | cons {r r' r'' : Option Job} {now : Instant} {d : Deed} {h : History}
      (hturns : d.Turns now r r') (hlife : Life r' h r'') : Life r ((now, d) :: h) r''

namespace Life

/-- A life can be cut in two anywhere. -/
lemma split {r r'' : Option Job} {h h' : History} (hl : Life r (h ++ h') r'') :
    ∃ r', Life r h r' ∧ Life r' h' r'' := by
  induction h generalizing r with
  | nil => exact ⟨r, Life.nil, hl⟩
  | cons head rest ih =>
    cases hl with
    | cons hturns hlife =>
      obtain ⟨r', hbefore, hafter⟩ := ih hlife
      exact ⟨r', Life.cons hturns hbefore, hafter⟩

/-- The first deed of a life that is not over. -/
lemma uncons {r r'' : Option Job} {now : Instant} {d : Deed} {h : History}
    (hl : Life r ((now, d) :: h) r'') : ∃ r', d.Turns now r r' ∧ Life r' h r'' := by
  cases hl with
  | cons hturns hlife => exact ⟨_, hturns, hlife⟩

/-- Nothing is done to a finished job any more. -/
lemma eq_nil_of_isTerminal {j : Job} {r : Option Job} {h : History} (hl : Life (some j) h r)
    (hfinished : j.status.isTerminal = true) : h = [] ∧ r = some j := by
  cases hl with
  | nil => exact ⟨rfl, rfl⟩
  | cons hturns _ =>
    cases hturns with
    | handed hclaim => exact absurd hfinished (Job.not_isTerminal_of_isClaimable hclaim)
    | moved hallowed =>
      exact absurd hfinished (Bool.eq_false_iff.1 (Job.isTerminal_of_allowed hallowed))

end Life

namespace Store

/-- Seen from one identifier, an operation either leaves the record alone, and did nothing to it,
or turns it into another one by what it did. -/
lemma step_turns {s : Store} (hs : s.Coherent) (now : Instant) (op : Operation) (id : Ident) :
    (op.deed? (s.step now op).1 id = none ∧ (s.step now op).2.find? id = s.find? id) ∨
      ∃ d, op.deed? (s.step now op).1 id = some d ∧
        d.Turns now (s.find? id) ((s.step now op).2.find? id) := by
  have houtcome := step_outcome s now op
  generalize (s.step now op).1 = reply, (s.step now op).2 = t at houtcome ⊢
  cases houtcome with
  | @enqueued fresh submission hvalid hnew =>
    have hput := find?_put s now (submission.pendingJob fresh now) id
    by_cases hid : (submission.pendingJob fresh now).id = id
    · right
      refine ⟨.enqueued submission, if_pos hid, ?_⟩
      have hbefore : s.find? id = none := hid ▸ hnew
      rw [hbefore, Option.none_or, if_pos hid] at hput
      rw [hbefore, hput]
      exact Deed.Turns.enqueued hvalid
    · left
      rw [if_neg hid, Option.or_none] at hput
      exact ⟨if_neg hid, hput⟩
  | @claimed worker queues lease job hforemost =>
    obtain ⟨hmem, -, hclaim⟩ := eligible_of_foremost? hforemost
    have hupdate := find?_update s job.id id fun j => Job.leased_id j worker lease now
    by_cases hid : job.id = id
    · right
      refine ⟨.handed lease (job.leased worker lease now), if_pos hid, ?_⟩
      have hbefore : s.find? id = some job := hid ▸ find?_of_mem hs.distinct hmem
      rw [if_pos hid.symm, hid, hbefore] at hupdate
      rw [hbefore, hand, hid, hupdate]
      exact Deed.Turns.handed hclaim
    · left
      rw [if_neg (Ne.symm hid)] at hupdate
      exact ⟨if_neg hid, hupdate⟩
  | @moved i m job hfound hallowed =>
    have hupdate := find?_update s i id (Job.apply_id m now)
    rw [find?_settle]
    by_cases hid : i = id
    · right
      subst hid
      refine ⟨.moved m, if_pos rfl, ?_⟩
      rw [hupdate, if_pos rfl, hfound]
      exact Deed.Turns.moved hallowed
    · left
      rw [if_neg (Ne.symm hid)] at hupdate
      exact ⟨if_neg hid, hupdate⟩
  | kept hidle =>
    left
    exact ⟨Operation.deed?_of_isIdle hidle id, rfl⟩

/-- Seen from one identifier, a run is a life of its job. -/
theorem life_of_run {s : Store} (hs : s.Coherent) (ops : List (Instant × Operation)) (id : Ident) :
    Life (s.find? id) (s.history ops id) ((s.run ops).2.find? id) := by
  induction ops generalizing s with
  | nil => exact Life.nil
  | cons head rest ih =>
    obtain ⟨now, op⟩ := head
    have hrest := ih (hs.step now op)
    rw [history_cons]
    rcases step_turns hs now op id with ⟨hdeed, hsame⟩ | ⟨d, hdeed, hturns⟩
    · rw [show (Event.mk s now op).deed? id = none from hdeed]
      rw [hsame] at hrest
      exact hrest
    · rw [show (Event.mk s now op).deed? id = some d from hdeed]
      exact Life.cons hturns hrest

end Store

end LeaseQueue
