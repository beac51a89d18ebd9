import LeaseQueue.Proofs.Store.Life
import LeaseQueue.Proofs.Time.After
import LeaseQueue.Queue.Basic
import Mathlib.Tactic.Set

/-!
# Leases are exclusive

`History.Exclusive` says what the history of a job owes to those who claim it: between two claims
that follow one another there is a single retry, whose time has come, or the lease of the first
has run out; and no claim comes before the time for which the job was scheduled.  Histories of
runs are lives, and the guards of a life leave little room between two claims: a processed job can
only be retried or finished, a pending one only be finished, and a finished one is not claimed.
-/

namespace LeaseQueue

namespace Deed

/-- The instant to which a deed puts a job off, if it is a retry. -/
def postponed? : Deed → Option Instant
  | .moved (.retry next) => some next
  | _ => none

/-- The instant for which a deed schedules a job: putting it in and retrying it do. -/
def schedule? : Deed → Option Instant
  | .enqueued submission => some submission.scheduledAt
  | .moved (.retry next) => some next
  | _ => none

end Deed

namespace History

/-- The instants to which retries put the job off, in order. -/
def retries (h : History) : List Instant := h.filterMap fun x => x.2.postponed?

/-- The instants for which the job was scheduled, in order. -/
def schedules (h : History) : List Instant := h.filterMap fun x => x.2.schedule?

/-- Whether the job was never handed out. -/
def Unhanded (h : History) : Prop := ∀ t lease job, (t, .handed lease job) ∉ h

/-- Whether no lease under which the job was handed out ends before it begins. -/
def Forward (h : History) : Prop :=
  ∀ t lease job, (t, .handed lease job) ∈ h → Span.zero ≤ lease

/-- What a history owes to those who claim its job. -/
structure Exclusive (h : History) : Prop where
  /-- Of two claims in a row, the second comes after a single retry between them, and not before
  its time, or it comes without one, after the lease of the first has run out. -/
  successive : ∀ (pre mid post : History) (t₁ t₂ : Instant) (lease₁ lease₂ : Span) (j₁ j₂ : Job),
    h = pre ++ (t₁, .handed lease₁ j₁) :: mid ++ (t₂, .handed lease₂ j₂) :: post →
    mid.Unhanded →
      (∃ next, mid.retries = [next] ∧ next ≤ t₂) ∨
        mid.retries = [] ∧ ∃ limit, j₁.lockedUntil = some limit ∧ limit < t₂
  /-- The first claim does not come before the time with which the job was put in. -/
  first : ∀ (pre post : History) (t : Instant) (lease : Span) (j : Job),
    h = pre ++ (t, .handed lease j) :: post → pre.Unhanded →
      ∃ t₀ submission, pre = [(t₀, .enqueued submission)] ∧ submission.scheduledAt ≤ t
  /-- No claim comes before the time for which the job was scheduled last. -/
  due : ∀ (pre post : History) (t : Instant) (lease : Span) (j : Job),
    h = pre ++ (t, .handed lease j) :: post →
      ∃ next, pre.schedules.getLast? = some next ∧ next ≤ t
  /-- Of two claims at one instant under leases that do not run backwards, the second comes after a
  retry.  The instant is one that clocks show, outside the leap second that ends the calendar. -/
  simultaneous : ∀ (pre mid post : History) (t : Instant) (lease₁ lease₂ : Span) (j₁ j₂ : Job),
    h = pre ++ (t, .handed lease₁ j₁) :: mid ++ (t, .handed lease₂ j₂) :: post →
    t ≤ Instant.greatest → Span.zero ≤ lease₁ → mid.Forward → mid.retries ≠ []

/-- The retries of a history that begins with a given deed. -/
lemma retries_cons (t : Instant) (d : Deed) (h : History) :
    retries ((t, d) :: h) = d.postponed?.toList ++ h.retries := by
  unfold retries
  rw [List.filterMap_cons]
  cases d.postponed? <;> rfl

/-- The schedules of a history that begins with a given deed. -/
lemma schedules_cons (t : Instant) (d : Deed) (h : History) :
    schedules ((t, d) :: h) = d.schedule?.toList ++ h.schedules := by
  unfold schedules
  rw [List.filterMap_cons]
  cases d.schedule? <;> rfl

/-- Without its first deed a job was not handed out more often. -/
lemma Unhanded.tail {x : Instant × Deed} {h : History} (hun : Unhanded (x :: h)) : h.Unhanded :=
  fun t lease job hmem => hun t lease job (List.mem_cons_of_mem _ hmem)

/-- Without its first deed a history has no more leases. -/
lemma Forward.tail {x : Instant × Deed} {h : History} (hforward : Forward (x :: h)) : h.Forward :=
  fun t lease job hmem => hforward t lease job (List.mem_cons_of_mem _ hmem)

end History

/-! ### Between two claims -/

namespace Life

/-- A report other than a retry finishes its job for good. -/
lemma finished_of_moved {j : Job} {r : Option Job} {m : Move} {t : Instant} {h : History}
    (hm : (Deed.moved m).postponed? = none) (hl : Life (some (m.apply t j)) h r) :
    h = [] ∧ ∃ k, r = some k ∧ k.status.isTerminal = true := by
  have hfinished : (m.apply t j).status.isTerminal = true := by
    cases m with
    | complete result => rfl
    | fail failure => rfl
    | retry next => exact absurd hm (by simp [Deed.postponed?])
    | cancel => rfl
  obtain ⟨hnil, hr⟩ := hl.eq_nil_of_isTerminal hfinished
  exact ⟨hnil, _, hr, hfinished⟩

/-- A pending job stays as it is until it is claimed, unless it is finished before. -/
lemma of_pending {j : Job} {r : Option Job} {h : History} (hl : Life (some j) h r)
    (hj : j.status = .pending) (hun : h.Unhanded) :
    h = [] ∧ r = some j ∨ h.retries = [] ∧ ∃ k, r = some k ∧ k.status.isTerminal = true := by
  cases hl with
  | nil => exact Or.inl ⟨rfl, rfl⟩
  | @cons _ _ _ t d h hturns hlife =>
    right
    cases hturns with
    | handed => exact absurd List.mem_cons_self (hun t _ _)
    | @moved _ m hallowed =>
      have hm : (Deed.moved m).postponed? = none := by
        cases m with
        | retry next =>
          rw [Job.processing_of_retry hallowed] at hj
          exact absurd hj (by decide)
        | complete result => rfl
        | fail failure => rfl
        | cancel => rfl
      obtain ⟨rfl, hfinished⟩ := finished_of_moved hm hlife
      refine ⟨?_, hfinished⟩
      rw [History.retries_cons, hm]
      rfl

/-- A processed job that is not claimed again either stays as it is, or is retried once and then
waits, or is finished. -/
lemma of_processing {j : Job} {r : Option Job} {h : History} (hl : Life (some j) h r)
    (hun : h.Unhanded) :
    h = [] ∧ r = some j ∨
      (∃ next k, h.retries = [next] ∧ r = some k ∧ k.status = .pending ∧ k.scheduledAt = next) ∨
      ∃ k, r = some k ∧ k.status.isTerminal = true := by
  cases hl with
  | nil => exact Or.inl ⟨rfl, rfl⟩
  | @cons _ _ _ t d h hturns hlife =>
    right
    cases hturns with
    | handed => exact absurd List.mem_cons_self (hun t _ _)
    | @moved _ m hallowed =>
      cases hm : (Deed.moved m).postponed? with
      | none => exact Or.inr (finished_of_moved hm hlife).2
      | some next =>
        obtain rfl : m = .retry next := by
          cases m <;> simp [Deed.postponed?] at hm
          rw [hm]
        rcases of_pending hlife rfl hun.tail with ⟨rfl, hr⟩ | ⟨-, hfinished⟩
        · left
          refine ⟨next, _, ?_, hr, rfl, rfl⟩
          rw [History.retries_cons, hm]
          rfl
        · exact Or.inr hfinished

/-- As long as a job is not retried, its leases stretch beyond every instant that one of them
stretches beyond, provided they do not run backwards. -/
lemma lease_reaches {j k : Job} {h : History} (hl : Life (some j) h (some k)) {u limit : Instant}
    (hj : j.status = .processing) (hlimit : j.lockedUntil = some limit) (hu : u ≤ limit)
    (hgreatest : u ≤ Instant.greatest) (hretries : h.retries = []) (hforward : h.Forward) :
    k.status.isTerminal = true ∨
      k.status = .processing ∧ ∃ last, k.lockedUntil = some last ∧ u ≤ last := by
  induction h generalizing j limit with
  | nil =>
    cases hl with
    | nil => exact Or.inr ⟨hj, limit, hlimit, hu⟩
  | cons head rest ih =>
    obtain ⟨t, d⟩ := head
    obtain ⟨r, hturns, hlife⟩ := hl.uncons
    rw [History.retries_cons, List.append_eq_nil_iff] at hretries
    cases hturns with
    | @handed _ worker lease hclaim =>
      have hexpired : limit < t := by
        simpa [Job.isClaimable, Job.leaseExpired, hj, hlimit] using
          (Bool.and_eq_true_iff.1 hclaim).2
      have hlease : Span.zero ≤ lease := hforward t lease _ List.mem_cons_self
      have hreach : u ≤ t.after lease :=
        Instant.le_after hlease (Int.le_of_lt (Int.lt_of_le_of_lt hu hexpired)) hgreatest
      exact ih hlife rfl rfl hreach hretries.2 hforward.tail
    | @moved _ m hallowed =>
      have hm : (Deed.moved m).postponed? = none := by simpa using hretries.1
      obtain ⟨-, k', hk', hfinished⟩ := finished_of_moved hm hlife
      obtain rfl : k = k' := Option.some.inj hk'
      exact Or.inl hfinished

/-- A record is scheduled for the last instant for which its history scheduled it. -/
lemma scheduledAt_eq {r r' : Option Job} {h : History} (hl : Life r h r') :
    r'.map Job.scheduledAt = h.schedules.getLast?.or (r.map Job.scheduledAt) := by
  induction hl with
  | nil => rfl
  | @cons r r' r'' t d h hturns hlife ih =>
    rw [History.schedules_cons, List.getLast?_append, Option.or_assoc, ih]
    congr 1
    cases hturns with
    | enqueued => rfl
    | handed => rfl
    | @moved j m hallowed => cases m <;> rfl

/-- A claim in a life finds a record that can be claimed, and goes on from the one it hands out. -/
lemma at_claim {r r' : Option Job} {pre post : History} {t : Instant} {lease : Span} {j : Job}
    (hl : Life r (pre ++ (t, .handed lease j) :: post) r') :
    ∃ k worker, Life r pre (some k) ∧ k.isClaimable t = true ∧ j = k.leased worker lease t ∧
      Life (some j) post r' := by
  obtain ⟨r₀, hpre, hrest⟩ := hl.split
  obtain ⟨r₁, hturns, hpost⟩ := hrest.uncons
  cases hturns with
  | @handed k worker _ hclaim => exact ⟨k, worker, hpre, hclaim, rfl, hpost⟩

/-- Nothing happens to a pending job before the next claim of it. -/
lemma eq_of_pending {j k : Job} {h : History} {t : Instant} (hl : Life (some j) h (some k))
    (hj : j.status = .pending) (hun : h.Unhanded) (hclaim : k.isClaimable t = true) :
    h = [] ∧ k = j := by
  rcases hl.of_pending hj hun with ⟨hnil, hk⟩ | ⟨-, k', hk', hfinished⟩
  · exact ⟨hnil, Option.some.inj hk⟩
  · obtain rfl : k = k' := Option.some.inj hk'
    exact absurd hfinished (Job.not_isTerminal_of_isClaimable hclaim)

end Life

namespace Job

/-- A job that can be claimed is due. -/
lemma scheduledAt_le_of_isClaimable {j : Job} {now : Instant} (h : j.isClaimable now = true) :
    j.scheduledAt ≤ now :=
  of_decide_eq_true (Bool.and_eq_true_iff.1 h).1

/-- A processed job that can be claimed has a lease that ran out. -/
lemma lt_of_isClaimable {j : Job} {now limit : Instant} (h : j.isClaimable now = true)
    (hj : j.status = .processing) (hlimit : j.lockedUntil = some limit) : limit < now := by
  simpa [isClaimable, leaseExpired, hj, hlimit] using (Bool.and_eq_true_iff.1 h).2

end Job

/-! ### Histories of runs -/

/-- Every life of a job from its beginning is exclusive. -/
lemma Life.exclusive {h : History} {r : Option Job} (hl : Life none h r) : h.Exclusive where
  successive := by
    intro pre mid post t₁ t₂ lease₁ lease₂ j₁ j₂ hh hun
    rw [hh, List.append_assoc, List.cons_append] at hl
    obtain ⟨k, worker, -, -, rfl, hafter⟩ := hl.at_claim
    obtain ⟨k', worker', hbetween, hclaim, -, -⟩ := hafter.at_claim
    rcases hbetween.of_processing hun with ⟨rfl, hk⟩ | ⟨next, k₀, hretries, hk, hpending, hnext⟩ |
        ⟨k₀, hk, hfinished⟩
    · right
      obtain rfl := Option.some.inj hk
      exact ⟨rfl, t₁.after lease₁, rfl, Job.lt_of_isClaimable hclaim rfl rfl⟩
    · left
      obtain rfl := Option.some.inj hk
      exact ⟨next, hretries, hnext ▸ Job.scheduledAt_le_of_isClaimable hclaim⟩
    · obtain rfl := Option.some.inj hk
      exact absurd hfinished (Job.not_isTerminal_of_isClaimable hclaim)
  first := by
    intro pre post t lease j hh hun
    rw [hh] at hl
    obtain ⟨k, worker, hbefore, hclaim, -, -⟩ := hl.at_claim
    cases hbefore with
    | @cons _ r₀ _ t₀ d rest hturns hlife =>
      cases hturns with
      | @enqueued fresh submission hvalid =>
        obtain ⟨rfl, rfl⟩ := hlife.eq_of_pending rfl hun.tail hclaim
        exact ⟨t₀, submission, rfl, Job.scheduledAt_le_of_isClaimable hclaim⟩
  due := by
    intro pre post t lease j hh
    rw [hh] at hl
    obtain ⟨k, worker, hbefore, hclaim, -, -⟩ := hl.at_claim
    have hschedule := hbefore.scheduledAt_eq
    rw [Option.map_none, Option.or_none] at hschedule
    exact ⟨k.scheduledAt, hschedule.symm, Job.scheduledAt_le_of_isClaimable hclaim⟩
  simultaneous := by
    intro pre mid post t lease₁ lease₂ j₁ j₂ hh hgreatest hlease hforward hretries
    rw [hh, List.append_assoc, List.cons_append] at hl
    obtain ⟨k, worker, -, -, rfl, hafter⟩ := hl.at_claim
    obtain ⟨k', worker', hbetween, hclaim, -, -⟩ := hafter.at_claim
    have hreach : t ≤ t.after lease₁ := Instant.le_after hlease (Int.le_refl _) hgreatest
    rcases hbetween.lease_reaches rfl rfl hreach hgreatest hretries hforward with
      hfinished | ⟨hprocessing, last, hlast, hle⟩
    · exact absurd hfinished (Job.not_isTerminal_of_isClaimable hclaim)
    · have hlt : last < t := Job.lt_of_isClaimable hclaim hprocessing hlast
      exact absurd hle (Int.not_le.2 hlt)

namespace Store

/-- A queue in front of a store puts jobs in as the store does. -/
lemma step_of_enqueue {s t : Store} {now : Instant} {fresh id : Ident} {submission : Submission}
    (h : Queue.enqueue Backend.ofStore now fresh submission s = (.ok id, t)) :
    s.step now (.enqueue fresh submission) = (.enqueued id, t) := by
  unfold Queue.enqueue Queue.calling Backend.ofStore Backend.answer at h
  unfold step
  rcases hreply : s.enqueue now fresh submission with ⟨e | i, u⟩
  · simp only [hreply] at h
    cases h
  · simp only [hreply] at h ⊢
    cases h
    rfl

/-- A job that was put in with a delay is pending, and due after the delay. -/
lemma find?_of_enqueueWithDelay {s t : Store} (hs : s.Coherent) {now : Instant}
    {fresh id : Ident} {submission : Submission} {delay : Span}
    (h : Queue.enqueueWithDelay Backend.ofStore now fresh submission delay s = (.ok id, t)) :
    t.Coherent ∧
      ∃ j, t.find? id = some j ∧ j.status = .pending ∧ j.scheduledAt = now.after delay := by
  unfold Queue.enqueueWithDelay Queue.enqueueAt at h
  by_cases hnegative : delay < Span.zero
  · rw [if_pos hnegative] at h
    cases h
  · rw [if_neg hnegative] at h
    set delayed : Submission := { submission with scheduledAt := now.after delay } with hdelayed
    have hstep := step_of_enqueue h
    have hcoherent := hs.step now (.enqueue fresh delayed)
    have hturns := step_turns hs now (.enqueue fresh delayed) id
    rw [hstep] at hcoherent hturns
    refine ⟨hcoherent, ?_⟩
    rcases hturns with ⟨hdeed, -⟩ | ⟨d, hdeed, hturns⟩
    · simp [Operation.deed?] at hdeed
    · obtain rfl : .enqueued delayed = d := by simpa [Operation.deed?] using hdeed
      generalize s.find? id = before, t.find? id = after at hturns
      cases hturns with
      | enqueued => exact ⟨_, rfl, rfl, rfl⟩

/-- In every run, with any callers in any order, any clock readings and any leases: claims of one
job exclude each other for the length of a lease or until a retry is due, and no claim comes before
its job is due.  In particular a job that was put in with a delay is not handed out before the
delay is over. -/
theorem claims_exclusive :
    (∀ (ops : List (Instant × Operation)) (id : Ident), (empty.history ops id).Exclusive) ∧
      ∀ (s t : Store) (now : Instant) (fresh id : Ident) (submission : Submission) (delay : Span),
        s.Reachable →
        Queue.enqueueWithDelay Backend.ofStore now fresh submission delay s = (.ok id, t) →
        ∀ (ops : List (Instant × Operation)) (pre post : History) (now' : Instant) (lease : Span)
          (j : Job), t.history ops id = pre ++ (now', .handed lease j) :: post → pre.Unhanded →
          now.after delay ≤ now' := by
  refine ⟨fun ops id => (life_of_run Coherent.empty ops id).exclusive, ?_⟩
  intro s t now fresh id submission delay hs henqueue ops pre post now' lease j hhistory hun
  obtain ⟨hcoherent, j₀, hfind, hpending, hscheduled⟩ :=
    find?_of_enqueueWithDelay (Coherent.of_reachable hs) henqueue
  have hlife := life_of_run hcoherent ops id
  rw [hhistory, hfind] at hlife
  obtain ⟨k, worker, hbefore, hclaim, -, -⟩ := hlife.at_claim
  obtain ⟨-, rfl⟩ := hbefore.eq_of_pending hpending hun hclaim
  rw [← hscheduled]
  exact Job.scheduledAt_le_of_isClaimable hclaim

/-- Two claims by one worker, at once and after two seconds. -/
def patientClaims : List (Instant × Operation) :=
  [(.epoch, .claim "worker" ["mail"] .zero),
    (Instant.epoch.after ⟨2000000000⟩, .claim "worker" ["mail"] .zero)]

/-- A job that is put in with a delay of one second is handed out at the second claim. -/
theorem delayed_job_waits :
    ∃ (t : Store) (lease : Span) (j : Job),
      Queue.enqueueWithDelay Backend.ofStore .epoch .nil (.plain "mail" "send" (.object []) .epoch)
        ⟨1000000000⟩ empty = (.ok .nil, t) ∧
      t.history patientClaims .nil = [(Instant.epoch.after ⟨2000000000⟩, .handed lease j)] ∧
      Instant.epoch.after ⟨1000000000⟩ ≤ Instant.epoch.after ⟨2000000000⟩ := by
  have hs : empty.Reachable := ⟨[], rfl⟩
  have hun : History.Unhanded [] := fun _ _ _ => List.not_mem_nil
  refine ⟨_, _, _, rfl, rfl, ?_⟩
  exact claims_exclusive.2 empty _ .epoch .nil .nil (.plain "mail" "send" (.object []) .epoch) _ hs
    rfl patientClaims [] [] _ _ _ rfl hun

end Store

end LeaseQueue
