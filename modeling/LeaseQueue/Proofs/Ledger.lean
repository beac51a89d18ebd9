import LeaseQueue.Stats
import Mathlib.Data.List.Nodup

/-!
# Recording in a ledger

A ledger has at most one record per queue and day that can be read, and recording an event changes
the reading of its own queue and day only (`Ledger.on_record`).  A ledger that was filled by
recording holds at most one record per queue and day at all, and every mean in it is that of the
total beside it (`Ledger.Coherent`), so that recording changes the one record there is, or adds one
at the end (`Ledger.Coherent.record_eq`).
-/

namespace LeaseQueue

namespace Stats

/-- An event adds to each of the counts. -/
lemma apply_ofCounts (queue : String) (date : Date) (enqueued completed failed total : Int)
    (d : Delta) : (ofCounts queue date enqueued completed failed total).apply d =
      ofCounts queue date (enqueued + d.enqueued) (completed + d.completed) (failed + d.failed)
        (total + d.millis) := rfl

/-- If the mean of a record follows from its counts, a job that is put in is counted and nothing
else changes. -/
lemma apply_ofEnqueue {r : Stats} (hmean : r.averageMillis = average r.totalMillis r.finished) :
    r.apply .ofEnqueue = { r with enqueued := r.enqueued + 1 } := by
  unfold apply ofCounts Delta.ofEnqueue
  rw [Int.add_zero, Int.add_zero, Int.add_zero, hmean]
  rfl

/-- Whether a record is that of a queue and a day. -/
def countsFor (r : Stats) (queue : String) (date : Date) : Bool :=
  decide (r.queue = queue) && decide (r.date = date)

/-- A record is that of its own queue and day. -/
lemma countsFor_iff {r : Stats} {queue : String} {date : Date} :
    r.countsFor queue date = true ↔ r.queue = queue ∧ r.date = date := by
  simp [countsFor]

end Stats

namespace Ledger

/-- Recording an event adds it to the record of its queue and day, and to no other. -/
lemma on_record (l : Ledger) (queue queue' : String) (date date' : Date) (d : Stats.Delta) :
    Ledger.on (l.record queue' date' d) queue date =
      if queue' = queue ∧ date' = date then (Ledger.on l queue date).apply d
      else Ledger.on l queue date := by
  unfold Ledger.on Ledger.find?
  induction l with
  | nil =>
    unfold Ledger.record
    by_cases h : queue' = queue ∧ date' = date
    · obtain ⟨rfl, rfl⟩ := h
      simp [Stats.apply, Stats.ofCounts, Stats.empty]
    · simp [Stats.apply, Stats.ofCounts, Stats.empty, h]
  | cons s rest ih =>
    unfold Ledger.record
    by_cases hhere : s.queue = queue' ∧ s.date = date'
    · obtain ⟨rfl, rfl⟩ := hhere
      by_cases h : s.queue = queue ∧ s.date = date
      · simp [h, Stats.apply, Stats.ofCounts]
      · simp [h, Stats.apply, Stats.ofCounts]
    · by_cases h : s.queue = queue ∧ s.date = date
      · obtain ⟨rfl, rfl⟩ := h
        have hother : ¬(queue' = s.queue ∧ date' = s.date) :=
          fun hsame => hhere ⟨hsame.1.symm, hsame.2.symm⟩
        simp [hhere, hother]
      · simp [hhere, h, ih]

/-- What holds of a ledger in use: no queue has two records of one day, and every mean follows from
the counts. -/
structure Coherent (l : Ledger) : Prop where
  distinct : (l.map fun r => (r.queue, r.date)).Nodup
  averaged : ∀ r ∈ l, r.averageMillis = Stats.average r.totalMillis r.finished

namespace Coherent

variable {l : Ledger}

/-- Nothing is wrong with a ledger that holds nothing. -/
lemma empty : Coherent [] where
  distinct := List.nodup_nil
  averaged := by simp

/-- The mean of every queue and day follows from the counts. -/
lemma averaged_on (hl : l.Coherent) (queue : String) (date : Date) :
    (Ledger.on l queue date).averageMillis =
      Stats.average (Ledger.on l queue date).totalMillis (Ledger.on l queue date).finished := by
  unfold Ledger.on
  cases hfound : l.find? queue date with
  | none => rfl
  | some r => exact hl.averaged r (List.mem_of_find?_eq_some hfound)

/-- An event is added to the one record of its queue and day, or to a new one at the end. -/
lemma record_eq (hl : l.Coherent) (queue : String) (date : Date) (d : Stats.Delta) :
    l.record queue date d =
      if l.any fun r => r.countsFor queue date then
        l.map fun r => if r.countsFor queue date then r.apply d else r
      else l ++ [(Stats.empty queue date).apply d] := by
  induction l with
  | nil => rfl
  | cons r rest ih =>
    obtain ⟨hnew, hdistinct⟩ := List.nodup_cons.1 hl.distinct
    have hrest := ih ⟨hdistinct, fun k hk => hl.averaged k (List.mem_cons_of_mem r hk)⟩
    have hrecord : Ledger.record (r :: rest) queue date d =
        if r.countsFor queue date then r.apply d :: rest
        else r :: Ledger.record rest queue date d := rfl
    rw [hrecord, List.any_cons, List.map_cons, hrest]
    cases hhere : r.countsFor queue date with
    | false => cases rest.any fun r => r.countsFor queue date <;> rfl
    | true =>
      -- The records behind this one are of other queues or days, so they stay as they are.
      have hkeep : ∀ k ∈ rest, (if k.countsFor queue date then k.apply d else k) = k := by
        intro k hk
        refine if_neg fun hthere => hnew (List.mem_map.2 ⟨k, hk, ?_⟩)
        obtain ⟨hqueue, hdate⟩ := Stats.countsFor_iff.1 hhere
        obtain ⟨hqueue', hdate'⟩ := Stats.countsFor_iff.1 hthere
        simp [hqueue, hdate, hqueue', hdate']
      rw [List.map_congr_left hkeep, List.map_id']
      rfl

/-- Recording keeps a ledger coherent. -/
lemma record (hl : l.Coherent) (queue : String) (date : Date) (d : Stats.Delta) :
    (l.record queue date d).Coherent := by
  rw [hl.record_eq]
  cases hany : l.any fun r => r.countsFor queue date with
  | true =>
    refine ⟨?_, fun r hr => ?_⟩
    · have hkeys : (fun r : Stats => (r.queue, r.date)) ∘
          (fun r : Stats => if r.countsFor queue date then r.apply d else r) =
            fun r => (r.queue, r.date) := by
        funext r
        simp only [Function.comp_apply]
        split <;> rfl
      rw [if_pos rfl, List.map_map, hkeys]
      exact hl.distinct
    · obtain ⟨k, hk, rfl⟩ := List.mem_map.1 hr
      split
      · rfl
      · exact hl.averaged k hk
  | false =>
    rw [if_neg Bool.false_ne_true]
    refine ⟨?_, fun r hr => ?_⟩
    · rw [List.map_append, List.nodup_append]
      refine ⟨hl.distinct, List.nodup_singleton _, ?_⟩
      intro key hkey other hother heq
      obtain ⟨r, hr, rfl⟩ := List.mem_map.1 hkey
      have hother : other = (queue, date) := List.mem_singleton.1 hother
      obtain ⟨hqueue, hdate⟩ := Prod.mk.inj (heq.trans hother)
      exact List.any_eq_false.1 hany r hr (Stats.countsFor_iff.2 ⟨hqueue, hdate⟩)
    · rcases List.mem_append.1 hr with hold | hnew
      · exact hl.averaged r hold
      · rw [List.mem_singleton.1 hnew]
        rfl

end Coherent

end Ledger

end LeaseQueue
