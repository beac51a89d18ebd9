import LeaseQueue.Proofs.Time.After

/-!
# How far a span leads

A span leads from an instant to a tick, whether the calendar has it or not (`Instant.arrival`).  A
longer span leads to no earlier tick, in and out of leap seconds (`Instant.arrival_mono`), and what
leads out of the calendar leads to the greatest instant (`Instant.after_of_arrival`); so what is added
to a clock keeps its order, also where it is too much for the calendar (`Instant.after_mono`).  The
other way round no two instants are too far apart for a span (`Instant.since_representable`), or further than from one end
of the calendar to the other (`Instant.toMillis_since_le`).
-/

namespace LeaseQueue

namespace Instant

/-- The tick that a count of nanoseconds stands for, outside of leap seconds. -/
def tickOf (n : Int) : Int := n / nanosPerSecond * ticksPerSecond + n % nanosPerSecond

/-- The tick to which a span leads, be it in the calendar or beyond. -/
def arrival (t : Instant) (s : Span) : Int :=
  if t.isLeap then
    if ticksPerSecond ≤ t.fraction + s.nanos then tickOf (t.nanos - nanosPerSecond + s.nanos)
    else if -nanosPerSecond < s.nanos then t.ticks + s.nanos
    else tickOf (t.nanos + s.nanos)
  else tickOf (t.nanos + s.nanos)

variable {t : Instant} {a b s : Span}

/-- Where a span leads is an instant if the calendar has that tick. -/
lemma add?_eq_ofTicks? (t : Instant) (s : Span) : t.add? s = ofTicks? (t.arrival s) := by
  unfold add? arrival
  split_ifs <;> rfl

/-- Later counts stand for later ticks. -/
lemma tickOf_mono {m n : Int} (h : m ≤ n) : tickOf m ≤ tickOf n := by
  unfold tickOf
  simp only [nanosPerSecond, ticksPerSecond]
  omega

/-- A longer span does not lead to an earlier tick. -/
lemma arrival_mono (t : Instant) (hab : a ≤ b) : t.arrival a ≤ t.arrival b := by
  rw [Span.le_def] at hab
  have hticks := ticks_eq t
  have hhigh : t.fraction < 2000000000 := Int.emod_lt_of_pos _ (by decide)
  unfold arrival
  by_cases hleap : t.isLeap = true
  · -- Leaving a leap second skips no tick and takes none twice.
    have hfraction : nanosPerSecond ≤ t.fraction := of_decide_eq_true hleap
    simp only [hleap, if_true]
    unfold tickOf nanos
    simp only [nanosPerSecond, ticksPerSecond] at *
    split_ifs <;> omega
  · simp only [hleap]
    exact tickOf_mono (by omega)

/-- The empty span leads nowhere. -/
lemma arrival_zero (t : Instant) : t.arrival Span.zero = t.ticks := by
  have hticks := ticks_eq t
  have hlow : 0 ≤ t.fraction := Int.emod_nonneg _ (by decide)
  have hhigh : t.fraction < 2000000000 := Int.emod_lt_of_pos _ (by decide)
  unfold arrival
  by_cases hleap : t.isLeap = true
  · have hfraction : nanosPerSecond ≤ t.fraction := of_decide_eq_true hleap
    simp only [hleap, if_true, Span.zero]
    unfold tickOf nanos
    simp only [nanosPerSecond, ticksPerSecond] at *
    split_ifs <;> omega
  · have hfraction : ¬nanosPerSecond ≤ t.fraction := fun hle => hleap (decide_eq_true hle)
    simp only [hleap, Span.zero]
    unfold tickOf nanos
    simp only [nanosPerSecond, ticksPerSecond] at *
    omega

/-- No span leads into the leap second that ends the calendar from before it. -/
lemma arrival_le_greatest (ht : t ≤ greatest) (h : t.arrival s ≤ greatestTicks) :
    t.arrival s ≤ greatest.ticks := by
  have hgreatest : greatest.ticks = 16420533753598999999999 := rfl
  have hticks := ticks_eq t
  rw [le_def] at ht
  unfold arrival tickOf at *
  split_ifs at * with hleap hover hshort
  · simp only [greatestTicks, nanosPerSecond, ticksPerSecond] at *
    omega
  · have hfraction : nanosPerSecond ≤ t.fraction := of_decide_eq_true hleap
    simp only [greatestTicks, nanosPerSecond, ticksPerSecond] at *
    omega
  · simp only [greatestTicks, nanosPerSecond, ticksPerSecond] at *
    omega
  · simp only [greatestTicks, nanosPerSecond, ticksPerSecond] at *
    omega

/-- A span leads to its tick, in and out of leap seconds, if the calendar has it, and to the greatest
instant otherwise, backwards as well. -/
lemma after_of_arrival (ht : t ≤ greatest) (s : Span) :
    if least.ticks ≤ t.arrival s ∧ t.arrival s ≤ greatest.ticks then
      (t.after s).ticks = t.arrival s
    else t.after s = greatest := by
  have hlast := greatest.le_greatest
  unfold after
  rw [add?_eq_ofTicks?]
  unfold ofTicks?
  by_cases hin : leastTicks ≤ t.arrival s ∧ t.arrival s ≤ greatestTicks
  · rw [if_pos ⟨hin.1, arrival_le_greatest ht hin.2⟩, dif_pos hin, Option.getD_some]
  · have hout : ¬(least.ticks ≤ t.arrival s ∧ t.arrival s ≤ greatest.ticks) := fun h =>
      hin ⟨h.1, Int.le_trans h.2 hlast⟩
    rw [if_neg hout, dif_neg hin, Option.getD_none]

/-- Forward a span leads to its tick, as far as the calendar goes. -/
lemma ticks_after (ht : t ≤ greatest) (hs : Span.zero ≤ s) :
    (t.after s).ticks = min (t.arrival s) greatest.ticks := by
  have hforward : least.ticks ≤ t.arrival s :=
    calc least.ticks ≤ t.ticks := t.least_le
      _ = t.arrival Span.zero := t.arrival_zero.symm
      _ ≤ t.arrival s := arrival_mono t hs
  have hreached := after_of_arrival ht s
  split_ifs at hreached with hin
  · rw [hreached, Int.min_eq_left hin.2]
  · rw [hreached]
    omega

/-- A longer span forward does not lead to an earlier instant. -/
lemma after_mono (ht : t ≤ greatest) (ha : Span.zero ≤ a) (hab : a ≤ b) :
    t.after a ≤ t.after b := by
  have hmono := arrival_mono t hab
  rw [le_def, ticks_after ht ha, ticks_after ht (Int.le_trans ha hab)]
  omega

/-- What a clock shows is no later than the greatest instant. -/
lemma settled_le_greatest (t : Instant) : t.settled ≤ greatest := by
  unfold settled
  cases hsum : ofNanos? t.nanos with
  | none => exact Int.le_refl _
  | some u => exact le_greatest_of_settled (isLeap_of_ofNanos? hsum)

/-- The most whole milliseconds between two instants, leap seconds at both ends included. -/
def longestMillis : Int := 16544868105601999

/-- No two instants are further apart than that, either way. -/
lemma natAbs_nanos_since_le (t u : Instant) :
    ((t.since u).nanos.natAbs : Int) ≤ longestMillis * 1000000 + 999999 := by
  have hlong : ∀ v : Instant,
      -8334601228800000000000 ≤ v.nanos ∧ v.nanos ≤ 8210266876800999999999 := by
    intro v
    have hfirst := v.least_le
    have hlast := v.le_greatest
    unfold nanos second fraction
    simp only [leastTicks, greatestTicks, nanosPerSecond, ticksPerSecond] at *
    omega
  have ht := hlong t
  have hu := hlong u
  unfold since longestMillis
  simp only [nanosPerSecond]
  split_ifs <;> omega

/-- So no two instants are too far apart for a span. -/
lemma since_representable (t u : Instant) : (t.since u).Representable := by
  have hfar := natAbs_nanos_since_le t u
  unfold longestMillis at hfar
  simp only [Span.Representable, Span.le_def, Span.least, Span.greatest, Span.ofMillis,
    Span.greatestMillis]
  omega

/-- Nor for that many milliseconds. -/
lemma toMillis_since_le (t u : Instant) : (t.since u).toMillis ≤ longestMillis := by
  have hfar := natAbs_nanos_since_le t u
  have hdiv : ((t.since u).toMillis.natAbs : Int) = (t.since u).nanos.natAbs / 1000000 :=
    congrArg Nat.cast (Int.natAbs_tdiv _ _)
  omega

end Instant

end LeaseQueue
