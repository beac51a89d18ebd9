import LeaseQueue.Proofs.Store.Coherent
import LeaseQueue.Proofs.Store.Urgency
import LeaseQueue.Proofs.Time.After

/-!
# Claiming until nothing is left

A worker that claims at one instant until it comes back with nothing takes the jobs that were
eligible at the start, one after the other in the order of urgency, and no others.  The induction is
on the number of eligible jobs: a claim takes the first of them in the sorted list
(`Job.mergeSort_of_foremost?`) and leaves the others eligible (`Store.eligible_hand`), since a lease
that does not run backwards has not run out at the instant at which it begins.
-/

namespace LeaseQueue

namespace Job

/-- A job is not up for another claim at the instant at which it was handed out. -/
lemma isClaimable_leased {now : Instant} (hnow : now ≤ Instant.greatest) {lease : Span}
    (hlease : Span.zero ≤ lease) (j : Job) (worker : String) :
    (j.leased worker lease now).isClaimable now = false := by
  have hle : now ≤ now.after lease := Instant.le_after hlease (Int.le_refl _) hnow
  have hnot : ¬now.after lease < now := Int.not_lt.2 hle
  simp [isClaimable, leaseExpired, leased, hnot]

end Job

namespace Store

/-- Whether a worker that serves some queues may take a job. -/
def offers (queues : List String) (now : Instant) (j : Job) : Bool :=
  queues.contains j.queue && j.isClaimable now

/-- A store after all jobs that a worker may take were handed to it. -/
def handAll (s : Store) (now : Instant) (worker : String) (queues : List String) (lease : Span) :
    Store :=
  { s with jobs := s.jobs.map fun j => if offers queues now j then j.leased worker lease now else j }

section Claims

variable {s : Store} {now : Instant} {worker : String} {queues : List String} {lease : Span}

/-- Handing out everything does nothing where there is nothing to hand out. -/
lemma handAll_of_eligible_nil (h : s.eligible queues now = []) :
    s.handAll now worker queues lease = s := by
  have hnone : ∀ j ∈ s.jobs, ¬offers queues now j = true := List.filter_eq_nil_iff.1 h
  have hjobs : (s.jobs.map fun j => if offers queues now j then j.leased worker lease now else j) =
      s.jobs := by
    refine (List.map_congr_left fun j hj => ?_).trans (List.map_id s.jobs)
    exact if_neg (hnone j hj)
  unfold handAll
  rw [hjobs]

/-- A claim leaves the other eligible jobs eligible, and takes its own from among them. -/
lemma eligible_hand (hnow : now ≤ Instant.greatest) (hlease : Span.zero ≤ lease) (id : Ident) :
    (s.hand now worker lease id).eligible queues now =
      (s.eligible queues now).filter fun k => decide (k.id ≠ id) := by
  unfold eligible hand update
  rw [List.filter_map, List.filter_filter]
  have hkept : ∀ j : Job,
      ((fun j => queues.contains j.queue && j.isClaimable now) ∘
        fun j => if j.id = id then j.leased worker lease now else j) j =
      (decide (j.id ≠ id) && (queues.contains j.queue && j.isClaimable now)) := by
    intro j
    have hleased := Job.isClaimable_leased hnow hlease j worker
    by_cases hid : j.id = id <;> simp [hid, hleased]
  rw [List.filter_congr fun j _ => hkept j]
  refine (List.map_congr_left fun j hj => ?_).trans (List.map_id _)
  have hne : j.id ≠ id := by
    have hboth := (List.mem_filter.1 hj).2
    simp only [Bool.and_eq_true, decide_eq_true_eq] at hboth
    exact hboth.1
  exact if_neg hne

/-- To hand out everything, one may begin with any of the eligible jobs. -/
lemma handAll_hand (hs : s.Distinct) (hnow : now ≤ Instant.greatest)
    (hlease : Span.zero ≤ lease) {job : Job} (hjob : job ∈ s.eligible queues now) :
    (s.hand now worker lease job.id).handAll now worker queues lease =
      s.handAll now worker queues lease := by
  obtain ⟨hmem, hoffers⟩ := List.mem_filter.1 hjob
  have hsame : ∀ j ∈ s.jobs,
      ((fun j => if offers queues now j then j.leased worker lease now else j) ∘
        fun j => if j.id = job.id then j.leased worker lease now else j) j =
      if offers queues now j then j.leased worker lease now else j := by
    intro j hj
    by_cases hid : j.id = job.id
    · obtain rfl : j = job := hs.eq_of_id_eq hj hmem hid
      have hoffered : offers queues now j = true := hoffers
      have hleased : offers queues now (j.leased worker lease now) = false := by
        simp [offers, Job.isClaimable_leased hnow hlease j worker]
      simp [hleased, hoffered]
    · simp [hid]
  unfold handAll hand update
  rw [List.map_map, List.map_congr_left hsame]

/-- Where nothing is eligible, claims come back with nothing, however often they are made. -/
lemma run_claims_of_eligible_nil (h : s.eligible queues now = []) (k : ℕ) :
    s.run (List.replicate k (now, .claim worker queues lease)) =
      (List.replicate k (.claimed none), s) := by
  have hforemost : Job.foremost? (s.eligible queues now) = none := by rw [h]; rfl
  have hstep : s.step now (.claim worker queues lease) = (.claimed none, s) := by
    simp only [step, claim_of_none hforemost]
  induction k with
  | zero => rfl
  | succ k ih =>
    rw [List.replicate_succ, List.replicate_succ]
    simp only [run, hstep, ih]

/-- Claims at one instant, one after the other, bring the eligible jobs in the order of urgency,
and nothing after the last of them. -/
lemma run_claims (hs : s.Coherent) (hnow : now ≤ Instant.greatest) (hlease : Span.zero ≤ lease)
    (k : ℕ) :
    s.run (List.replicate ((s.eligible queues now).length + k)
        (now, .claim worker queues lease)) =
      (((s.eligible queues now).mergeSort Job.notAfter).map
          (fun j => .claimed (some (j.leased worker lease now))) ++
        List.replicate k (.claimed none),
      s.handAll now worker queues lease) := by
  induction hn : (s.eligible queues now).length generalizing s with
  | zero =>
    have hnil : s.eligible queues now = [] := List.length_eq_zero_iff.1 hn
    rw [Nat.zero_add, run_claims_of_eligible_nil hnil, handAll_of_eligible_nil hnil, hnil,
      List.mergeSort_nil]
    rfl
  | succ n ih =>
    obtain ⟨job, hforemost⟩ : ∃ job, Job.foremost? (s.eligible queues now) = some job := by
      refine Option.ne_none_iff_exists'.1 fun hnone => ?_
      rw [Job.foremost?_eq_none_iff.1 hnone] at hn
      exact absurd hn (by simp)
    have hmem := Job.mem_of_foremost? hforemost
    have hids : ((s.eligible queues now).map Job.id).Nodup :=
      hs.distinct.sublist (List.filter_sublist.map Job.id)
    have hstep : s.step now (.claim worker queues lease) =
        (.claimed (some (job.leased worker lease now)), s.hand now worker lease job.id) := by
      simp only [step, claim_of_some hforemost]
    have hsort := Job.mergeSort_of_foremost? hids hforemost
    have hrest : (s.hand now worker lease job.id).eligible queues now =
        (s.eligible queues now).filter fun k => decide (k.id ≠ job.id) :=
      eligible_hand hnow hlease job.id
    have hlength : ((s.hand now worker lease job.id).eligible queues now).length = n := by
      have hsorted := congrArg List.length hsort
      rw [hrest]
      simp only [List.length_mergeSort, List.length_cons, hn] at hsorted
      omega
    have hih := ih (hs.hand (Job.mem_of_foremost? hforemost) worker lease) hlength
    rw [hsort, Nat.add_right_comm, List.replicate_succ, ← hrest,
      ← handAll_hand hs.distinct hnow hlease hmem]
    simp only [run, hstep, hih, List.map_cons, List.cons_append]

end Claims

/-- A job is up for a claim when it is in one of the queues, its time has come, and it waits or its
lease has run out. -/
lemma mem_eligible_iff {s : Store} {queues : List String} {now : Instant} {j : Job} :
    j ∈ s.eligible queues now ↔ j ∈ s.jobs ∧ j.queue ∈ queues ∧ j.scheduledAt ≤ now ∧
      (j.status = .pending ∨
        j.status = .processing ∧ ∃ limit, j.lockedUntil = some limit ∧ limit < now) := by
  unfold eligible Job.isClaimable Job.isDue Job.leaseExpired
  simp [Option.any_eq_true]

/-- In every store in use, at every instant that clocks show, and under every lease that does not run
backwards: claims made at that instant bring the jobs that were eligible at the start, each once and
in the order of urgency, and then nothing more, however often they are repeated.  After that these
jobs are in the hands of the worker until the end of the lease, and the others are as they were. -/
theorem claims_drain {s : Store} (hs : s.Reachable) {now : Instant} (hnow : now ≤ Instant.greatest)
    {lease : Span} (hlease : Span.zero ≤ lease) (worker : String) (queues : List String) :
    ∃ order : List Job, ∃ t : Store,
      order = (s.eligible queues now).mergeSort Job.notAfter ∧
      (order.map Job.id).Nodup ∧
      (∀ j, j ∈ order ↔ j ∈ s.jobs ∧ j.queue ∈ queues ∧ j.scheduledAt ≤ now ∧
        (j.status = .pending ∨
          j.status = .processing ∧ ∃ limit, j.lockedUntil = some limit ∧ limit < now)) ∧
      (∀ k, s.run (List.replicate (order.length + k) (now, .claim worker queues lease)) =
        (order.map (fun j => .claimed (some (j.leased worker lease now))) ++
          List.replicate k (.claimed none), t)) ∧
      t.ledger = s.ledger ∧ t.jobs.length = s.jobs.length ∧
      (∀ (n : ℕ) (j : Job), s.jobs[n]? = some j →
        (j ∈ order → t.jobs[n]? = some (j.leased worker lease now)) ∧
          (j ∉ order → t.jobs[n]? = some j)) ∧
      (now.isLeap = false →
        (now.after lease).nanos = min (now.nanos + lease.nanos) Instant.greatest.nanos) := by
  have hcoherent := Coherent.of_reachable hs
  have hsorted : ∀ j, j ∈ (s.eligible queues now).mergeSort Job.notAfter ↔
      j ∈ s.eligible queues now := fun j => List.mem_mergeSort
  refine ⟨_, s.handAll now worker queues lease, rfl, ?_, fun j => ?_, fun k => ?_, rfl,
    List.length_map _, fun n j hj => ?_, fun hleap => Instant.nanos_after hleap hlease⟩
  · have hids : ((s.eligible queues now).map Job.id).Nodup :=
      hcoherent.distinct.sublist (List.filter_sublist.map Job.id)
    exact ((List.mergeSort_perm _ _).map Job.id).nodup_iff.2 hids
  · rw [hsorted, mem_eligible_iff]
  · rw [List.length_mergeSort]
    exact run_claims hcoherent hnow hlease k
  · have hmem : j ∈ s.jobs := List.mem_of_getElem? hj
    have hget : (s.handAll now worker queues lease).jobs[n]? =
        some (if offers queues now j then j.leased worker lease now else j) := by
      unfold handAll
      rw [List.getElem?_map, hj, Option.map_some]
    have hoffers : j ∈ s.eligible queues now ↔ offers queues now j = true := by
      unfold eligible offers
      rw [List.mem_filter]
      exact and_iff_right hmem
    rw [hsorted, hoffers, hget]
    exact ⟨fun h => by rw [if_pos h], fun h => by rw [if_neg h]⟩

/-- Two urgent jobs of one queue, put in after one that is not urgent. -/
def urgentLast : List (Instant × Operation) :=
  let mail := Submission.plain "mail" "send" (.object []) .epoch
  [(.epoch, .enqueue (.ofNat 1) mail), (.epoch, .enqueue (.ofNat 2) { mail with priority := 5 }),
    (.epoch, .enqueue (.ofNat 3) { mail with priority := 5 })]

/-- With a lease of no length the urgent jobs come first, each once, and the fourth claim comes back
with nothing. -/
theorem urgent_jobs_first :
    ∃ order : List Job, order.map Job.id = [.ofNat 2, .ofNat 3, .ofNat 1] ∧
      (empty.run urgentLast).2.Reachable ∧ Instant.epoch ≤ Instant.greatest ∧
      Span.zero ≤ Span.zero ∧
      ((empty.run urgentLast).2.run
          (List.replicate 4 (.epoch, .claim "worker" ["mail"] .zero))).1 =
        order.map (fun j => .claimed (some (j.leased "worker" .zero .epoch))) ++
          [.claimed none] := by
  have hs : (empty.run urgentLast).2.Reachable := ⟨urgentLast, rfl⟩
  have hnow : Instant.epoch ≤ Instant.greatest := by decide
  have hlease : Span.zero ≤ Span.zero := by decide
  obtain ⟨order, t, horder, -, -, hrun, -⟩ := claims_drain hs hnow hlease "worker" ["mail"]
  have hids : order.map Job.id = [.ofNat 2, .ofNat 3, .ofNat 1] := by
    rw [horder, show (empty.run urgentLast).2.eligible ["mail"] .epoch =
      (empty.run urgentLast).2.jobs from rfl,
      show (empty.run urgentLast).2.jobs = [_, _, _] from rfl, Job.mergeSort_cons,
      Job.mergeSort_cons, Job.mergeSort_cons, List.mergeSort_nil]
    decide
  have hlength : order.length = 3 := by
    rw [← List.length_map Job.id, hids]
    rfl
  have hfour := hrun 1
  rw [hlength] at hfour
  exact ⟨order, hids, hs, hnow, hlease, congrArg Prod.fst hfour⟩

end Store

end LeaseQueue
