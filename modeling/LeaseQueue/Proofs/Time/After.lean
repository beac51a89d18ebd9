import LeaseQueue.Time.Instant
import Mathlib.Tactic.Lemma
import Mathlib.Tactic.SplitIfs

/-!
# Instants after a span

`Instant.after` adds a span to an instant and stops at the greatest one.  This file says how the
result lies to the instant it started from; from one that is no leap second, that is by a count of
nanoseconds (`Instant.after_of_settled`).  The greatest instant itself lies before the leap second
that ends the calendar, which no clock shows; so statements about an instant that is to be kept ask
that it be no later than `Instant.greatest`.
-/

namespace LeaseQueue

namespace Instant

/-- The ticks of an instant, split into its second and the rest. -/
lemma ticks_eq (t : Instant) : t.ticks = t.second * ticksPerSecond + t.fraction := by
  unfold second fraction
  rw [Int.mul_comm]
  exact (Int.mul_ediv_add_emod t.ticks ticksPerSecond).symm

/-- An instant found from its nanoseconds has the ticks of these. -/
lemma ticks_of_ofNanos? {n : Int} {t : Instant} (h : ofNanos? n = some t) :
    t.ticks = n / nanosPerSecond * ticksPerSecond + n % nanosPerSecond := by
  unfold ofNanos? ofTicks? at h
  split at h
  · rw [← Option.some.inj h]
  · exact absurd h (by simp)

/-- An instant found from its ticks has these. -/
lemma ticks_of_ofTicks? {n : Int} {t : Instant} (h : ofTicks? n = some t) : t.ticks = n := by
  unfold ofTicks? at h
  split at h
  · rw [← Option.some.inj h]
  · exact absurd h (by simp)

/-- An instant a span forward, if there is one, is not earlier. -/
lemma le_of_add? {t u : Instant} {s : Span} (hs : Span.zero ≤ s) (h : t.add? s = some u) :
    t ≤ u := by
  have hnonneg : 0 ≤ s.nanos := hs
  have hticks := ticks_eq t
  have hlow : 0 ≤ t.fraction := Int.emod_nonneg _ (by decide)
  have hhigh : t.fraction < 2000000000 := Int.emod_lt_of_pos _ (by decide)
  rw [le_def]
  unfold add? at h
  split_ifs at h with hleap hover hshort
  · -- Past the end of a leap second the count goes on in the next second.
    have hu := ticks_of_ofNanos? h
    unfold nanos at hu
    simp only [nanosPerSecond, ticksPerSecond] at *
    omega
  · have hu := ticks_of_ofTicks? h
    omega
  · simp only [nanosPerSecond] at hshort
    omega
  · have hfraction : ¬nanosPerSecond ≤ t.fraction := fun hle => hleap (decide_eq_true hle)
    have hu := ticks_of_ofNanos? h
    unfold nanos at hu
    simp only [nanosPerSecond, ticksPerSecond] at *
    omega

/-- A span forward from a later instant does not lead behind an instant that clocks show. -/
lemma le_after {t u : Instant} {s : Span} (hs : Span.zero ≤ s) (hut : u ≤ t)
    (hu : u ≤ greatest) : u ≤ t.after s := by
  unfold after
  cases hadd : t.add? s with
  | none => exact hu
  | some v => exact Int.le_trans hut (le_of_add? hs hadd)

/-- An instant found from its nanoseconds counts as many. -/
lemma nanos_of_ofNanos? {n : Int} {t : Instant} (h : ofNanos? n = some t) : t.nanos = n := by
  have hticks := ticks_of_ofNanos? h
  simp only [nanosPerSecond, ticksPerSecond] at hticks
  unfold nanos second fraction
  simp only [nanosPerSecond, ticksPerSecond]
  omega

/-- A number of nanoseconds is that of an instant exactly when it lies between the limits. -/
lemma ofNanos?_eq_none_iff {n : Int} :
    ofNanos? n = none ↔ n < least.nanos ∨ greatest.nanos < n := by
  have hleast : least.nanos = -8334601228800000000000 := by decide
  have hgreatest : greatest.nanos = 8210266876799999999999 := by decide
  unfold ofNanos? ofTicks?
  rw [hleast, hgreatest, dite_eq_right_iff]
  simp only [leastTicks, greatestTicks, nanosPerSecond, ticksPerSecond, reduceCtorEq, imp_false]
  omega

/-- An instant counts at least the nanoseconds of the first one. -/
lemma least_nanos_le (t : Instant) : least.nanos ≤ t.nanos := by
  have hleast : least.nanos = -8334601228800000000000 := by decide
  have hticks := t.least_le
  rw [hleast]
  unfold nanos second fraction
  simp only [leastTicks, nanosPerSecond, ticksPerSecond] at *
  omega

/-- Outside of leap seconds a span is added to the nanoseconds of an instant. -/
lemma add?_of_settled {t : Instant} (ht : t.isLeap = false) (s : Span) :
    t.add? s = ofNanos? (t.nanos + s.nanos) := by
  unfold add?
  rw [ht]
  rfl

/-- A span leads from an instant outside of leap seconds to the one that counts as many nanoseconds
more, if the calendar has it, and to the greatest one otherwise, backwards as well. -/
lemma after_of_settled {t : Instant} (ht : t.isLeap = false) (s : Span) :
    if least.nanos ≤ t.nanos + s.nanos ∧ t.nanos + s.nanos ≤ greatest.nanos then
      (t.after s).nanos = t.nanos + s.nanos
    else t.after s = greatest := by
  unfold after
  rw [add?_of_settled ht]
  cases hsum : ofNanos? (t.nanos + s.nanos) with
  | none =>
    have hout := ofNanos?_eq_none_iff.1 hsum
    rw [if_neg (by omega), Option.getD_none]
  | some u =>
    have hin := mt ofNanos?_eq_none_iff.2 (by rw [hsum]; exact Option.some_ne_none u)
    rw [if_pos (by omega), Option.getD_some, nanos_of_ofNanos? hsum]

/-- The instant of a number of nanoseconds counts as many, as far as the calendar goes. -/
lemma nanos_getD_ofNanos? {n : Int} (hn : least.nanos ≤ n) :
    ((ofNanos? n).getD greatest).nanos = min n greatest.nanos := by
  cases hsum : ofNanos? n with
  | none =>
    have hout := ofNanos?_eq_none_iff.1 hsum
    rw [Option.getD_none]
    omega
  | some u =>
    have hin := mt ofNanos?_eq_none_iff.2 (by rw [hsum]; exact Option.some_ne_none u)
    rw [Option.getD_some, nanos_of_ofNanos? hsum]
    omega

/-- From an instant outside of leap seconds a span leads forward by its nanoseconds, as far as the
calendar goes. -/
lemma nanos_after {t : Instant} (ht : t.isLeap = false) {s : Span} (hs : Span.zero ≤ s) :
    (t.after s).nanos = min (t.nanos + s.nanos) greatest.nanos := by
  have hnonneg : 0 ≤ s.nanos := hs
  have hlow := least_nanos_le t
  unfold after
  rw [add?_of_settled ht]
  exact nanos_getD_ofNanos? (by omega)

/-- So it does from within a leap second, except that instants behind the leap second count a second
less. -/
lemma nanos_after_of_isLeap {t : Instant} (ht : t.isLeap = true) {s : Span} (hs : Span.zero ≤ s) :
    (t.after s).nanos =
      if t.fraction + s.nanos < ticksPerSecond then t.nanos + s.nanos
      else min (t.nanos + s.nanos - nanosPerSecond) greatest.nanos := by
  have hnonneg : 0 ≤ s.nanos := hs
  have hticks := ticks_eq t
  have hfirst := t.least_le
  have hlast := t.le_greatest
  have hleap : nanosPerSecond ≤ t.fraction := of_decide_eq_true ht
  unfold after add?
  rw [if_pos ht]
  by_cases hover : ticksPerSecond ≤ t.fraction + s.nanos
  · have hlow : least.nanos ≤ t.nanos - nanosPerSecond + s.nanos := by
      have hleast : least.nanos = -8334601228800000000000 := by decide
      rw [hleast]
      unfold nanos
      simp only [leastTicks, nanosPerSecond, ticksPerSecond] at *
      omega
    rw [if_pos hover, nanos_getD_ofNanos? hlow, if_neg (by omega)]
    omega
  · -- The leap second is not left, not even at the end of the calendar.
    have hwithin : leastTicks ≤ t.ticks + s.nanos ∧ t.ticks + s.nanos ≤ greatestTicks := by
      simp only [leastTicks, greatestTicks, nanosPerSecond, ticksPerSecond] at *
      omega
    have hshort : -nanosPerSecond < s.nanos := by
      simp only [nanosPerSecond]
      omega
    rw [if_neg hover, if_pos hshort, if_pos (by omega)]
    unfold ofTicks?
    rw [dif_pos hwithin, Option.getD_some]
    unfold nanos second fraction at *
    simp only [nanosPerSecond, ticksPerSecond] at *
    omega

/-! ### Outside of leap seconds -/

/-- Outside of leap seconds no instant is later than the greatest one. -/
lemma le_greatest_of_settled {t : Instant} (ht : t.isLeap = false) : t ≤ greatest := by
  have hticks := ticks_eq t
  have hlast := t.le_greatest
  have hfraction : ¬nanosPerSecond ≤ t.fraction := of_decide_eq_false ht
  have hlow : 0 ≤ t.fraction := Int.emod_nonneg _ (by decide)
  rw [le_def]
  simp only [greatest, greatestTicks, nanosPerSecond, ticksPerSecond] at *
  omega

/-- No instant found from its nanoseconds lies in a leap second. -/
lemma isLeap_of_ofNanos? {n : Int} {t : Instant} (h : ofNanos? n = some t) : t.isLeap = false := by
  have hticks := ticks_of_ofNanos? h
  refine decide_eq_false ?_
  unfold fraction
  simp only [nanosPerSecond, ticksPerSecond] at *
  omega

/-- A span does not lead into a leap second from outside. -/
lemma isLeap_after {t : Instant} (ht : t.isLeap = false) (s : Span) :
    (t.after s).isLeap = false := by
  unfold after
  rw [add?_of_settled ht]
  cases hsum : ofNanos? (t.nanos + s.nanos) with
  | none => decide
  | some u => exact isLeap_of_ofNanos? hsum

/-- Outside of leap seconds, no negative span lies between an instant and a later one. -/
lemma zero_le_since {t u : Instant} (ht : t.isLeap = false) (hu : u.isLeap = false) (hut : u ≤ t) :
    Span.zero ≤ t.since u := by
  have htticks := ticks_eq t
  have huticks := ticks_eq u
  have htfraction : ¬nanosPerSecond ≤ t.fraction := of_decide_eq_false ht
  have hufraction : ¬nanosPerSecond ≤ u.fraction := of_decide_eq_false hu
  have htlow : 0 ≤ t.fraction := Int.emod_nonneg _ (by decide)
  have hulow : 0 ≤ u.fraction := Int.emod_nonneg _ (by decide)
  have hnanos : u.nanos ≤ t.nanos := by
    rw [le_def] at hut
    unfold nanos
    simp only [nanosPerSecond, ticksPerSecond] at *
    omega
  rw [Span.le_def]
  unfold since
  rw [ht, hu]
  simp only [Span.zero, Bool.false_eq_true, false_and, if_false]
  omega

end Instant

end LeaseQueue
