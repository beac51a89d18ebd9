import LeaseQueue.Store.Run
import Mathlib.Data.List.Nodup

/-!
# Looking up and changing single jobs

A store keeps its jobs in a list and finds them by identifier.  When no identifier occurs twice
(`Store.Distinct`), looking up finds every job there is, and `Store.update` changes exactly the
record at one position.  The changes that operations make, leases and moves, leave the identifier
alone, so they fall under the laws of this file.
-/

namespace LeaseQueue

namespace Job

/-- A lease does not touch the identifier. -/
@[simp] lemma leased_id (j : Job) (worker : String) (lease : Span) (now : Instant) :
    (j.leased worker lease now).id = j.id := rfl

/-- A move does not touch the identifier. -/
@[simp] lemma apply_id (m : Move) (now : Instant) (j : Job) : (m.apply now j).id = j.id := by
  cases m <;> rfl

/-- A move does not touch the queue. -/
@[simp] lemma apply_queue (m : Move) (now : Instant) (j : Job) :
    (m.apply now j).queue = j.queue := by
  cases m <;> rfl

/-- A move does not touch the time of creation. -/
@[simp] lemma apply_createdAt (m : Move) (now : Instant) (j : Job) :
    (m.apply now j).createdAt = j.createdAt := by
  cases m <;> rfl

/-- The foremost job of a list is one of its jobs. -/
lemma mem_of_foremost? {jobs : List Job} {j : Job} (h : foremost? jobs = some j) : j ∈ jobs := by
  induction jobs generalizing j with
  | nil => simp [foremost?] at h
  | cons head rest ih =>
    unfold foremost? at h
    cases hrest : foremost? rest with
    | none =>
      rw [hrest] at h
      obtain rfl : head = j := Option.some.inj h
      exact List.mem_cons_self
    | some k =>
      simp only [hrest] at h
      split at h
      · obtain rfl : k = j := Option.some.inj h
        exact List.mem_cons_of_mem _ (ih hrest)
      · obtain rfl : head = j := Option.some.inj h
        exact List.mem_cons_self

end Job

namespace Store

/-- No identifier belongs to two jobs. -/
def Distinct (s : Store) : Prop := (s.jobs.map Job.id).Nodup

/-- In a store without repeated identifiers a job is known by its identifier. -/
lemma Distinct.eq_of_id_eq {s : Store} (hs : s.Distinct) {j k : Job} (hj : j ∈ s.jobs)
    (hk : k ∈ s.jobs) (hid : j.id = k.id) : j = k :=
  List.inj_on_of_nodup_map hs hj hk hid

/-! ### Finding -/

/-- What is found has the identifier that was asked for. -/
lemma id_of_find? {s : Store} {id : Ident} {j : Job} (h : s.find? id = some j) : j.id = id := by
  have hp := List.find?_some h
  exact of_decide_eq_true hp

/-- What is found is one of the jobs. -/
lemma mem_of_find? {s : Store} {id : Ident} {j : Job} (h : s.find? id = some j) : j ∈ s.jobs :=
  List.mem_of_find?_eq_some h

/-- Nothing is found exactly when no job has the identifier. -/
lemma find?_eq_none_iff {s : Store} {id : Ident} :
    s.find? id = none ↔ ∀ j ∈ s.jobs, j.id ≠ id := by
  simp [find?]

/-- Every job is found under its identifier. -/
lemma find?_of_mem {s : Store} (hs : s.Distinct) {j : Job} (hj : j ∈ s.jobs) :
    s.find? j.id = some j := by
  cases hfind : s.find? j.id with
  | none => exact absurd rfl (find?_eq_none_iff.1 hfind j hj)
  | some k =>
    have hk : k = j := hs.eq_of_id_eq (mem_of_find? hfind) hj (id_of_find? hfind)
    rw [hk]

/-- What is found is the one job of the identifier. -/
lemma Distinct.eq_of_find? {s : Store} (hs : s.Distinct) {id : Ident} {j k : Job}
    (hfound : s.find? id = some j) (hk : k ∈ s.jobs) (hid : k.id = id) : j = k :=
  hs.eq_of_id_eq (mem_of_find? hfound) hk ((id_of_find? hfound).trans hid.symm)

/-! ### Changing -/

/-- A change that keeps identifiers keeps all of them. -/
lemma map_id_update (s : Store) (id : Ident) {change : Job → Job}
    (hid : ∀ j, (change j).id = j.id) :
    (s.update id change).jobs.map Job.id = s.jobs.map Job.id := by
  unfold update
  rw [List.map_map]
  refine List.map_congr_left fun j _ => ?_
  by_cases h : j.id = id <;> simp [h, hid]

/-- Changing the job of an identifier keeps the others where they are, and puts the changed job
in its place. -/
lemma find?_update (s : Store) (id other : Ident) {change : Job → Job}
    (hid : ∀ j, (change j).id = j.id) :
    (s.update id change).find? other =
      if other = id then (s.find? id).map change else s.find? other := by
  unfold find? update
  induction s.jobs with
  | nil => simp
  | cons j rest ih =>
    have hsame : ∀ k : Job, (if k.id = id then change k else k).id = k.id := by
      intro k
      by_cases h : k.id = id <;> simp [h, hid]
    rw [List.map_cons, List.find?_cons, List.find?_cons, List.find?_cons]
    by_cases hother : other = id
    · subst hother
      by_cases h : j.id = other
      · simp [h, hid]
      · simpa [h] using ih
    · by_cases h : j.id = other
      · have hne : j.id ≠ id := fun hj => hother (h.symm.trans hj)
        simp [h, hother]
      · simpa [h, hsame, hother] using ih

end Store

end LeaseQueue
