import LeaseQueue.Proofs.Store.Drain

/-!
# Which job a claim takes

The jobs of a store stand in the order in which they were put in (`Store.map_id_run`).  A claim
takes the foremost of those that are available to it, which splits the list: what is available
before that job is less urgent or due later, and what is available behind it is not more urgent and
not due earlier (`Store.exists_foremost`).  The job is changed in its place, and nothing else is
(`Store.exists_split_of_claim`).
-/

namespace LeaseQueue

namespace Job

/-- Whether a worker that serves some queues may take a job: its time has come, and it waits or its
lease has run out. -/
def Available (queues : List String) (now : Instant) (j : Job) : Prop :=
  j.queue ∈ queues ∧ j.scheduledAt ≤ now ∧
    (j.status = .pending ∨
      j.status = .processing ∧ ∃ limit, j.lockedUntil = some limit ∧ limit < now)

/-- Whether a job is the one to take, between those before and those behind it: of the available
ones it is the most urgent, among these the one due first, and among these the first one. -/
structure Foremost (queues : List String) (now : Instant) (before : List Job) (j : Job)
    (behind : List Job) : Prop where
  available : j.Available queues now
  of_before : ∀ k ∈ before, k.Available queues now →
    k.priority < j.priority ∨ k.priority = j.priority ∧ j.scheduledAt < k.scheduledAt
  of_behind : ∀ k ∈ behind, k.Available queues now →
    k.priority < j.priority ∨ k.priority = j.priority ∧ j.scheduledAt ≤ k.scheduledAt

/-- A job precedes another one when it is more urgent, or as urgent and due earlier. -/
lemma precedes_iff_lt {j k : Job} : j.precedes k = true ↔
    k.priority < j.priority ∨ k.priority = j.priority ∧ j.scheduledAt < k.scheduledAt := by
  simp only [precedes, Bool.or_eq_true, Bool.and_eq_true, decide_eq_true_eq]
  exact or_congr_right (and_congr_left' eq_comm)

/-- A job does not precede another one when that is more urgent, or as urgent and due no later. -/
lemma precedes_eq_false_iff {j k : Job} : k.precedes j = false ↔
    k.priority < j.priority ∨ k.priority = j.priority ∧ j.scheduledAt ≤ k.scheduledAt := by
  rw [← Bool.not_eq_true, precedes_iff, not_not]
  simp only [notAfter, Bool.or_eq_true, Bool.and_eq_true, decide_eq_true_eq]
  exact or_congr_right (and_congr_left' eq_comm)

/-- The foremost job of a list precedes all that come before it. -/
lemma exists_split_of_foremost? {jobs : List Job} {j : Job} (h : foremost? jobs = some j) :
    ∃ before behind, jobs = before ++ j :: behind ∧ ∀ k ∈ before, j.precedes k = true := by
  induction jobs generalizing j with
  | nil => simp [foremost?] at h
  | cons head rest ih =>
    unfold foremost? at h
    cases hrest : foremost? rest with
    | none =>
      rw [hrest] at h
      obtain rfl : head = j := Option.some.inj h
      exact ⟨[], rest, rfl, by simp⟩
    | some first =>
      simp only [hrest] at h
      split at h
      next hprecedes =>
        obtain rfl : first = j := Option.some.inj h
        obtain ⟨before, behind, rfl, hbefore⟩ := ih hrest
        exact ⟨head :: before, behind, rfl, List.forall_mem_cons.2 ⟨hprecedes, hbefore⟩⟩
      next =>
        obtain rfl : head = j := Option.some.inj h
        exact ⟨[], rest, rfl, by simp⟩

end Job

/-- The identifier of the job that was put in, if one was. -/
def Reply.enqueued? : Reply → Option Ident
  | .enqueued id => some id
  | _ => none

/-- No job is put in by an operation whose reply reports no change. -/
lemma Reply.enqueued?_of_isIdle {reply : Reply} (h : reply.isIdle = true) :
    reply.enqueued? = none := by
  cases reply with
  | enqueued id => cases h
  | claimed | moved | found | stats | selected | refused => rfl

namespace Store

/-! ### The order of the jobs -/

/-- An operation adds the job that it puts in behind the others, and leaves those where they are. -/
lemma map_id_step (s : Store) (now : Instant) (op : Operation) :
    (s.step now op).2.jobs.map Job.id =
      s.jobs.map Job.id ++ (s.step now op).1.enqueued?.toList := by
  have houtcome := step_outcome s now op
  generalize (s.step now op).1 = reply, (s.step now op).2 = t at houtcome ⊢
  cases houtcome with
  | enqueued => exact List.map_append
  | @claimed worker queues lease job =>
    refine Eq.trans ?_ (List.append_nil _).symm
    exact map_id_update s job.id fun j => Job.leased_id j worker lease now
  | @moved id m job =>
    refine Eq.trans ?_ (List.append_nil _).symm
    rw [settle_jobs]
    exact map_id_update s id (Job.apply_id m now)
  | kept hidle =>
    rw [Reply.enqueued?_of_isIdle hidle]
    exact (List.append_nil _).symm

/-- The jobs of a run stand in the order in which they were put in. -/
lemma map_id_run (s : Store) (ops : List (Instant × Operation)) :
    (s.run ops).2.jobs.map Job.id =
      s.jobs.map Job.id ++ (s.run ops).1.filterMap Reply.enqueued? := by
  induction ops generalizing s with
  | nil => exact (List.append_nil _).symm
  | cons head rest ih =>
    have hrest := ih (s.step head.1 head.2).2
    rw [map_id_step, List.append_assoc] at hrest
    simp only [run, hrest, List.filterMap_cons]
    cases (s.step head.1 head.2).1.enqueued? <;> rfl

/-! ### The claimed job -/

variable {s : Store} {now : Instant} {queues : List String} {j : Job}

/-- A change to the job of an identifier is made in its place. -/
lemma update_split (hs : s.Distinct) {before behind : List Job}
    (hsplit : s.jobs = before ++ j :: behind) (change : Job → Job) :
    (s.update j.id change).jobs = before ++ change j :: behind := by
  have hnodup := hs
  rw [Distinct, hsplit, List.map_append, List.map_cons, List.nodup_append,
    List.nodup_cons] at hnodup
  obtain ⟨-, ⟨hbehind, -⟩, hbefore⟩ := hnodup
  have hkept : ∀ jobs : List Job, (∀ k ∈ jobs, k.id ≠ j.id) →
      jobs.map (fun k => if k.id = j.id then change k else k) = jobs := fun jobs hjobs =>
    (List.map_congr_left fun k hk => if_neg (hjobs k hk)).trans (List.map_id jobs)
  unfold update
  rw [hsplit, List.map_append, List.map_cons, if_pos rfl, hkept before, hkept behind]
  · exact fun k hk heq => hbehind (heq ▸ List.mem_map_of_mem hk)
  · exact fun k hk => hbefore k.id (List.mem_map_of_mem hk) j.id List.mem_cons_self

/-- The job that is taken splits the list of jobs. -/
lemma exists_foremost (h : Job.foremost? (s.eligible queues now) = some j) :
    ∃ before behind, s.jobs = before ++ j :: behind ∧ Job.Foremost queues now before j behind := by
  obtain ⟨first, last, heligible, hfirst⟩ := Job.exists_split_of_foremost? h
  -- The jobs are cut before and behind the same occurrence among those that are eligible.
  obtain ⟨front, tail, hjobs, hfront, htail⟩ := List.filter_eq_append_iff.1 heligible
  obtain ⟨gap, behind, rfl, hgap, -, -⟩ := List.filter_eq_cons_iff.1 htail
  rw [← List.append_assoc] at hjobs
  have heach : ∀ k ∈ s.jobs, k.Available queues now → k ∈ s.eligible queues now :=
    fun k hk havailable => mem_eligible_iff.2 ⟨hk, havailable⟩
  refine ⟨front ++ gap, behind, hjobs,
    (mem_eligible_iff.1 (Job.mem_of_foremost? h)).2, ?_, ?_⟩
  · intro k hk havailable
    have hmem : k ∈ s.jobs := hjobs ▸ List.mem_append_left _ hk
    have hoffered := (List.mem_filter.1 (heach k hmem havailable)).2
    rcases List.mem_append.1 hk with hk | hk
    · exact Job.precedes_iff_lt.1 (hfirst k (hfront ▸ List.mem_filter.2 ⟨hk, hoffered⟩))
    · exact absurd hoffered (hgap k hk)
  · intro k hk havailable
    have hmem : k ∈ s.jobs := hjobs ▸ List.mem_append_right _ (List.mem_cons_of_mem j hk)
    exact Job.precedes_eq_false_iff.1
      (Job.not_precedes_of_foremost? h k (heach k hmem havailable))

/-- A claim brings a job exactly if one is available. -/
lemma isSome_claim_iff (s : Store) (now : Instant) (worker : String) (queues : List String)
    (lease : Span) : (s.claim now worker queues lease).1.isSome = true ↔
      ∃ j ∈ s.jobs, j.Available queues now := by
  cases hforemost : Job.foremost? (s.eligible queues now) with
  | none =>
    rw [claim_of_none hforemost]
    refine iff_of_false Bool.false_ne_true ?_
    rintro ⟨j, hj, havailable⟩
    have hmem := mem_eligible_iff.2 ⟨hj, havailable⟩
    rw [Job.foremost?_eq_none_iff.1 hforemost] at hmem
    exact absurd hmem List.not_mem_nil
  | some j =>
    rw [claim_of_some hforemost]
    have hmem := mem_eligible_iff.1 (Job.mem_of_foremost? hforemost)
    exact iff_of_true rfl ⟨j, hmem⟩

/-- A claim that brings no job changes nothing. -/
lemma claim_snd_of_none {worker : String} {lease : Span}
    (h : (s.claim now worker queues lease).1 = none) : (s.claim now worker queues lease).2 = s := by
  cases hforemost : Job.foremost? (s.eligible queues now) with
  | none => rw [claim_of_none hforemost]
  | some j =>
    rw [claim_of_some hforemost] at h
    cases h

/-- The job that a claim brings was the one to take, and is leased in its place. -/
lemma exists_split_of_claim (hs : s.Distinct) {worker : String} {lease : Span} {job : Job}
    (h : (s.claim now worker queues lease).1 = some job) :
    ∃ before j behind, s.jobs = before ++ j :: behind ∧
      Job.Foremost queues now before j behind ∧ job = j.leased worker lease now ∧
      (s.claim now worker queues lease).2 =
        { jobs := before ++ job :: behind, ledger := s.ledger } := by
  cases hforemost : Job.foremost? (s.eligible queues now) with
  | none =>
    rw [claim_of_none hforemost] at h
    cases h
  | some j =>
    rw [claim_of_some hforemost] at h ⊢
    obtain rfl := Option.some.inj h
    obtain ⟨before, behind, hsplit, htaken⟩ := exists_foremost hforemost
    have hjobs := update_split hs hsplit fun k => k.leased worker lease now
    refine ⟨before, j, behind, hsplit, htaken, rfl, ?_⟩
    rw [← hjobs]
    rfl

/-- In every store in use, at any time and under any lease: the jobs stand in the order in which
they were put in; a claim brings one exactly if one is available, and changes nothing otherwise.
The one it brings is the most urgent of those that are available, among these the one due first, and
among these the one that was put in first; it is leased in its place, and all else is as it was.
The lease ends after its length, or with the calendar where that is not an instant. -/
theorem claim_takes_foremost (ops : List (Instant × Operation)) (now : Instant) (worker : String)
    (queues : List String) (lease : Span) :
    let s := (empty.run ops).2
    let r := s.claim now worker queues lease
    s.jobs.map Job.id = (empty.run ops).1.filterMap Reply.enqueued? ∧
      (r.1.isSome = true ↔ ∃ j ∈ s.jobs, j.Available queues now) ∧
      (r.1 = none → r.2 = s) ∧
      (∀ job, r.1 = some job → ∃ before j behind, s.jobs = before ++ j :: behind ∧
        Job.Foremost queues now before j behind ∧
        job = { j with
          status := .processing, worker := some worker, lockedAt := some now,
          lockedUntil := some (now.after lease), startedAt := some now, updatedAt := now } ∧
        r.2 = { jobs := before ++ job :: behind, ledger := s.ledger }) ∧
      (now.isLeap = false →
        if Instant.least.nanos ≤ now.nanos + lease.nanos ∧
            now.nanos + lease.nanos ≤ Instant.greatest.nanos then
          (now.after lease).nanos = now.nanos + lease.nanos
        else now.after lease = Instant.greatest) := by
  intro s r
  have hdistinct : s.Distinct := (run_coherent ops).distinct
  exact ⟨map_id_run empty ops, s.isSome_claim_iff now worker queues lease, claim_snd_of_none,
    fun job h => exists_split_of_claim hdistinct h, fun hnow => Instant.after_of_settled hnow lease⟩

end Store

end LeaseQueue
