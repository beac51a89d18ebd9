import LeaseQueue.Proofs.Store.Lookup
import Mathlib.Data.List.Sort

/-!
# The order of urgency

Claims take jobs by descending priority, among equals by the time for which they are scheduled, and
among equals of both in the order in which they were put in.  `Job.notAfter` is this order up to
ties, and the stable sort by it settles the ties as claims do: the foremost job of a list is the
first one of the sorted list, and without it the rest stays sorted as it was
(`Job.mergeSort_of_foremost?`).  So taking the foremost job again and again is sorting.
-/

namespace LeaseQueue

namespace Job

/-- Whether a job comes no later than another one: it is more urgent, or as urgent and due no
later. -/
def notAfter (j other : Job) : Bool :=
  decide (other.priority < j.priority) ||
    (decide (j.priority = other.priority) && decide (j.scheduledAt ≤ other.scheduledAt))

/-- The order of urgency in terms of numbers. -/
lemma notAfter_iff {j k : Job} :
    j.notAfter k = true ↔ k.priority.toInt < j.priority.toInt ∨
      j.priority.toInt = k.priority.toInt ∧ j.scheduledAt.ticks ≤ k.scheduledAt.ticks := by
  simp only [notAfter, Bool.or_eq_true, Bool.and_eq_true, decide_eq_true_eq, Int32.toInt_inj,
    Int32.lt_iff_toInt_lt, Instant.le_def]

/-- A job precedes another one exactly when that is after it. -/
lemma precedes_iff {j k : Job} : j.precedes k = true ↔ ¬k.notAfter j = true := by
  rw [notAfter_iff]
  simp only [precedes, Bool.or_eq_true, Bool.and_eq_true, decide_eq_true_eq, ← Int32.toInt_inj,
    Int32.lt_iff_toInt_lt, Instant.lt_def]
  omega

/-- The order of urgency is transitive. -/
lemma notAfter_trans (i j k : Job) (hij : i.notAfter j = true) (hjk : j.notAfter k = true) :
    i.notAfter k = true := by
  rw [notAfter_iff] at *
  omega

/-- Any two jobs are in the order of urgency one way or the other. -/
lemma notAfter_total (j k : Job) : (j.notAfter k || k.notAfter j) = true := by
  rw [Bool.or_eq_true, notAfter_iff, notAfter_iff]
  omega

/-- Of two jobs of which neither precedes the other, one is as urgent as the other and due at the
same time. -/
lemma eq_of_not_precedes {j k : Job} (hjk : j.precedes k = false) (hkj : k.precedes j = false) :
    j.priority = k.priority ∧ j.scheduledAt = k.scheduledAt := by
  have hk : k.notAfter j = true := by
    by_contra h
    simp [precedes_iff.2 h] at hjk
  have hj : j.notAfter k = true := by
    by_contra h
    simp [precedes_iff.2 h] at hkj
  rw [notAfter_iff] at hj hk
  rw [← Int32.toInt_inj, Instant.ext_iff]
  omega

/-- A list has a foremost job unless it is empty. -/
lemma foremost?_eq_none_iff {jobs : List Job} : foremost? jobs = none ↔ jobs = [] := by
  cases jobs with
  | nil => simp [foremost?]
  | cons head rest =>
    unfold foremost?
    cases foremost? rest with
    | none => simp
    | some k => by_cases h : k.precedes head = true <;> simp [h]

/-- No job of a list precedes the foremost one. -/
lemma not_precedes_of_foremost? {jobs : List Job} {j : Job} (h : foremost? jobs = some j) :
    ∀ k ∈ jobs, k.precedes j = false := by
  have hnotAfter : ∀ k ∈ jobs, j.notAfter k = true := by
    induction jobs generalizing j with
    | nil => simp [foremost?] at h
    | cons head rest ih =>
      have hself : ∀ i : Job, i.notAfter i = true := fun i => by simpa using notAfter_total i i
      unfold foremost? at h
      cases hfirst : foremost? rest with
      | none =>
        have hnil : rest = [] := foremost?_eq_none_iff.1 hfirst
        rw [hfirst] at h
        obtain rfl : head = j := Option.some.inj h
        simpa [hnil] using hself head
      | some first =>
        have hrest := ih hfirst
        simp only [hfirst] at h
        rw [List.forall_mem_cons]
        split at h
        next hprecedes =>
          obtain rfl : first = j := Option.some.inj h
          rw [precedes_iff] at hprecedes
          have hhead := notAfter_total first head
          exact ⟨by simpa [hprecedes] using hhead, hrest⟩
        next hprecedes =>
          obtain rfl : head = j := Option.some.inj h
          have hle : head.notAfter first = true := by
            by_contra hafter
            exact hprecedes (precedes_iff.2 hafter)
          exact ⟨hself head, fun k hk => notAfter_trans head first k hle (hrest k hk)⟩
  intro k hk
  rw [← Bool.not_eq_true, precedes_iff, not_not]
  exact hnotAfter k hk

/-- Sorting by urgency is inserting one job after the other, each before the first one that may
come behind it. -/
lemma mergeSort_cons (j : Job) (jobs : List Job) :
    (j :: jobs).mergeSort notAfter =
      (jobs.mergeSort notAfter).orderedInsert (fun a b => a.notAfter b = true) j := by
  obtain ⟨before, behind, hcons, hjobs, hbefore⟩ :=
    List.mergeSort_cons notAfter_trans notAfter_total j jobs
  have hsorted : (before ++ j :: behind).Pairwise fun a b => a.notAfter b = true := by
    rw [← hcons]
    exact List.pairwise_mergeSort notAfter_trans notAfter_total (j :: jobs)
  have hbehind : ∀ k ∈ behind, j.notAfter k = true :=
    (List.pairwise_cons.1 (List.pairwise_append.1 hsorted).2.1).1
  have hstop : ∀ k ∈ before, (decide ¬j.notAfter k = true) = true := by
    intro k hk
    have hlater := hbefore k hk
    simpa using hlater
  rw [hcons, hjobs, List.orderedInsert_eq_take_drop, List.takeWhile_append_of_pos hstop,
    List.dropWhile_append_of_pos hstop]
  cases behind with
  | nil => simp
  | cons k rest =>
    have hk : j.notAfter k = true := hbehind k List.mem_cons_self
    simp [hk]

/-- The foremost job of a list comes first when the list is sorted by urgency, and the others come
as they do without it. -/
lemma mergeSort_of_foremost? {jobs : List Job} (hids : (jobs.map Job.id).Nodup) {j : Job}
    (h : foremost? jobs = some j) :
    jobs.mergeSort notAfter =
      j :: (jobs.filter fun k => decide (k.id ≠ j.id)).mergeSort notAfter := by
  induction jobs generalizing j with
  | nil => simp [foremost?] at h
  | cons head rest ih =>
    rw [List.map_cons, List.nodup_cons] at hids
    obtain ⟨hhead, hids⟩ := hids
    have hother : ∀ k ∈ rest, k.id ≠ head.id := by
      intro k hk heq
      exact hhead (heq ▸ List.mem_map_of_mem hk)
    -- Without the head the list is its rest.
    have hrest : ((head :: rest).filter fun k => decide (k.id ≠ head.id)) = rest := by
      rw [List.filter_cons_of_neg (by simp)]
      exact List.filter_eq_self.2 fun k hk => decide_eq_true (hother k hk)
    unfold foremost? at h
    cases hfirst : foremost? rest with
    | none =>
      rw [hfirst] at h
      obtain rfl : head = j := Option.some.inj h
      have hnil : rest = [] := foremost?_eq_none_iff.1 hfirst
      rw [hrest, hnil, List.mergeSort_singleton, List.mergeSort_nil]
    | some k =>
      have hsort := ih hids hfirst
      simp only [hfirst] at h
      rw [mergeSort_cons]
      split at h
      next hprecedes =>
        obtain rfl : k = j := Option.some.inj h
        have hne : head.id ≠ k.id := fun heq => hother k (mem_of_foremost? hfirst) heq.symm
        rw [hsort, List.orderedInsert_cons, if_neg (precedes_iff.1 hprecedes),
          List.filter_cons_of_pos (by simpa using hne), mergeSort_cons]
      next hprecedes =>
        obtain rfl : head = j := Option.some.inj h
        have hle : head.notAfter k = true := by
          by_contra hafter
          exact hprecedes (precedes_iff.2 hafter)
        rw [hrest, hsort, List.orderedInsert_cons, if_pos hle]

end Job

end LeaseQueue
