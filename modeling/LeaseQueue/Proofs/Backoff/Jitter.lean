import LeaseQueue.Proofs.Backoff.Saturation

/-!
# Delays that jitter

Before a delay is kept above its floor it is shifted by a random number of milliseconds.  Which
numbers may be drawn is decided by a spread, which for a jitter in proportion to the delay comes out
of a computation in double precision; all that is asked of it here is that it is a number of
milliseconds that a word holds (`Jitter.Spreads`).  `Jitter.moved` is a delay after that, for any
such spread and whatever it was before.

`Jitter.moved?` does the same arithmetic step by step on signed words of 64 bits and has no result
where a step would leave them, where the range to draw from is empty, or where a number of
milliseconds is no span.  That happens to one kind of delay only: to one whose milliseconds a word
does not hold, under a jitter in proportion to it (`Jitter.Counts`).  Delays that are shifted lie
within the spread of what they were before, or else at the floor (`Jitter.Bounded`).

Delays that do not grow, and those under a cap, are representable (`Growth.Sheltered`).  Without a
cap delays are not, since products reach further than spans do, and their milliseconds leave the
words (`Strategy.long_delay_overflows`).
-/

namespace LeaseQueue

/-! ### Words and milliseconds -/

/-- A signed word of 64 bits, if it holds the number. -/
def word? (n : Int) : Option Int := if FitsWord n then some n else none

namespace Span

/-- Whether a span is representable, in nanoseconds. -/
lemma representable_iff {s : Span} : s.Representable ↔
    -9223372036854775807000000 ≤ s.nanos ∧ s.nanos ≤ 9223372036854775807000000 := Iff.rfl

/-- The milliseconds of a representable span and of its opposite fit a word. -/
lemma natAbs_toMillis_le {s : Span} (hs : s.Representable) :
    s.toMillis.natAbs ≤ Jitter.greatestSpread := by
  rw [representable_iff] at hs
  have hdiv : s.toMillis.natAbs = s.nanos.natAbs / 1000000 := Int.natAbs_tdiv _ _
  unfold Jitter.greatestSpread
  omega

/-- So a word holds them. -/
lemma fitsWord_toMillis {s : Span} (hs : s.Representable) : FitsWord s.toMillis := by
  have hle := natAbs_toMillis_le hs
  unfold Jitter.greatestSpread at hle
  unfold FitsWord
  omega

end Span

namespace Jitter

/-- Which spreads a jitter may come to: its own milliseconds, or, in proportion to a delay, any
number of milliseconds that a word holds. -/
def Spreads : Jitter → Nat → Prop
  | absolute limit, n => n = limit.toMillis.natAbs
  | relative _, n => n ≤ greatestSpread

/-- Whether a limit that a jitter has is representable. -/
def Representable : Jitter → Prop
  | absolute limit => limit.Representable
  | relative _ => True

/-- Whether a word holds the milliseconds of a delay, if the jitter is in proportion to it. -/
def Counts : Jitter → Span → Prop
  | absolute _, _ => True
  | relative _, v => FitsWord v.toMillis

variable {j : Jitter} {v : Span} {n : Nat}

/-- The spread at hand is one of them, also of a delay whose milliseconds no word holds. -/
lemma spreads_spread (hj : j.Representable) (v : Span) : j.Spreads (j.spread v) := by
  cases j with
  | absolute limit => exact congrArg Int.natAbs (inWord_of_fits (Span.fitsWord_toMillis hj))
  | relative ratio =>
    unfold spread Spreads
    dsimp only
    split
    · exact Nat.min_le_left _ _
    · exact Nat.le_refl _

/-- A spread is never greater than a word holds. -/
lemma Spreads.le (hj : j.Representable) (hn : j.Spreads n) : n ≤ greatestSpread := by
  cases j with
  | absolute limit =>
    obtain rfl : n = limit.toMillis.natAbs := hn
    exact Span.natAbs_toMillis_le hj
  | relative ratio => exact hn

/-- A word holds the milliseconds of a representable delay, whatever the jitter. -/
lemma counts_of_representable (j : Jitter) (hv : v.Representable) : j.Counts v := by
  cases j with
  | absolute limit => trivial
  | relative ratio => exact Span.fitsWord_toMillis hv

/-! ### Shifts -/

/-- A shift to a representable span leads there. -/
lemma shifted_of_representable {k : Int} (h : Span.Representable ⟨v.nanos + k * 1000000⟩) :
    shifted v k = ⟨v.nanos + k * 1000000⟩ := by
  unfold shifted Span.add? Span.checked Span.ofMillis
  rw [if_pos h]
  rfl

/-- Any other shift leaves the delay as it is. -/
lemma shifted_of_not_representable {k : Int}
    (h : ¬Span.Representable ⟨v.nanos + k * 1000000⟩) : shifted v k = v := by
  unfold shifted Span.add? Span.checked Span.ofMillis
  rw [if_neg h]
  rfl

/-- A delay is shifted by no more than the spread, either way. -/
lemma shifted_within {k : Int} (hk : -(n : Int) ≤ k ∧ k ≤ n) :
    v.nanos - n * 1000000 ≤ (shifted v k).nanos ∧ (shifted v k).nanos ≤ v.nanos + n * 1000000 := by
  by_cases h : Span.Representable ⟨v.nanos + k * 1000000⟩
  · rw [shifted_of_representable h]
    dsimp only
    omega
  · rw [shifted_of_not_representable h]
    omega

/-! ### Step by step -/

/-- The spread of a jitter in words: the milliseconds of its limit without their sign, or what comes
out of the milliseconds of the delay. -/
def spread? (measure : Jitter → Span → Nat) (j : Jitter) (v : Span) : Option Nat :=
  match j with
  | absolute limit =>
    (word? limit.toMillis).bind fun n => (word? n.natAbs).map Int.toNat
  | relative _ =>
    (word? v.toMillis).bind fun _ => (word? (measure j v)).map Int.toNat

/-- A delay shifted by what is drawn from a range around zero. -/
def shifted? (v : Span) (n : Nat) (draw : Draw) : Option Span :=
  (word? (-n)).bind fun low =>
    if low ≤ n then (Span.ofMillis? (draw n)).map fun shift => (v.add? shift).getD v else none

/-- A delay after it was shifted and kept above a floor, with given spreads. -/
def moved (measure : Jitter → Span → Nat) (j : Jitter) (floor v : Span) (draw : Draw) : Span :=
  max (shifted v (draw (measure j v))) floor

/-- The same step by step in words; there is no result where a step has none. -/
def moved? (measure : Jitter → Span → Nat) (j : Jitter) (floor v : Span) (draw : Draw) :
    Option Span :=
  ((j.spread? measure v).bind fun n => shifted? v n draw).map fun d => max d floor

variable {measure : Jitter → Span → Nat}

/-- In words the spread is what it may be, if they hold the milliseconds of the delay. -/
lemma spread?_of_counts (hj : j.Representable) (hcounts : j.Counts v)
    (hmeasure : j.Spreads (measure j v)) : j.spread? measure v = some (measure j v) := by
  have hword : ∀ n : Nat, n ≤ greatestSpread → word? n = some (n : Int) := by
    intro n hn
    unfold greatestSpread at hn
    exact if_pos ⟨by omega, by omega⟩
  have hle := hmeasure.le hj
  cases j with
  | absolute limit =>
    have hlimit : measure (absolute limit) v = limit.toMillis.natAbs := hmeasure
    have hmillis : word? limit.toMillis = some limit.toMillis :=
      if_pos (Span.fitsWord_toMillis hj)
    rw [hlimit] at hle ⊢
    show ((word? limit.toMillis).bind fun n => (word? n.natAbs).map Int.toNat) = _
    rw [hmillis, Option.bind_some, hword _ hle]
    rfl
  | relative ratio =>
    have hmillis : word? v.toMillis = some v.toMillis := if_pos hcounts
    show ((word? v.toMillis).bind fun _ => (word? (measure (relative ratio) v)).map Int.toNat) = _
    rw [hmillis, Option.bind_some, hword _ hle]
    rfl

/-- Otherwise there is none. -/
lemma spread?_of_not_counts (hcounts : ¬j.Counts v) : j.spread? measure v = none := by
  cases j with
  | absolute limit => exact absurd trivial hcounts
  | relative ratio =>
    have hmillis : word? v.toMillis = none := if_neg hcounts
    show ((word? v.toMillis).bind fun _ => (word? (measure (relative ratio) v)).map Int.toNat) = _
    rw [hmillis]
    rfl

/-- In words a draw that is fair comes out, and shifts the delay. -/
lemma shifted?_eq (hn : n ≤ greatestSpread) {draw : Draw} (hdraw : draw.Fair) :
    shifted? v n draw = some (shifted v (draw n)) := by
  unfold greatestSpread at hn
  obtain ⟨hlow, hhigh⟩ := hdraw n
  have hword : word? (-n) = some (-(n : Int)) := if_pos ⟨by omega, by omega⟩
  have hshift : Span.ofMillis? (draw n) = some (Span.ofMillis (draw n)) := by
    refine if_pos (Span.representable_iff.2 ?_)
    unfold Span.ofMillis
    dsimp only
    omega
  unfold shifted?
  rw [hword, Option.bind_some, if_pos (by omega), hshift]
  rfl

/-- What holds of a delay that is shifted and kept above a floor, whatever it was before. -/
structure Bounded (measure : Jitter → Span → Nat) (j : Jitter) (floor v : Span) (draw : Draw) :
    Prop where
  /-- No step leaves the words if they hold the milliseconds that the jitter is reckoned from. -/
  steps : j.Counts v → j.moved? measure floor v draw = some (j.moved measure floor v draw)
  /-- Otherwise one does. -/
  overflows : ¬j.Counts v → j.moved? measure floor v draw = none
  /-- The delay lies within the spread of what it was, as far as that is above the floor. -/
  within : max floor.nanos (v.nanos - measure j v * 1000000) ≤ (j.moved measure floor v draw).nanos ∧
    (j.moved measure floor v draw).nanos ≤ max floor.nanos (v.nanos + measure j v * 1000000)
  /-- It is never below the floor. -/
  floor_le : floor ≤ j.moved measure floor v draw
  /-- A shift to a representable span is made. -/
  shifts : Span.Representable ⟨v.nanos + draw (measure j v) * 1000000⟩ →
    j.moved measure floor v draw = max ⟨v.nanos + draw (measure j v) * 1000000⟩ floor
  /-- Any other shift is not. -/
  stays : ¬Span.Representable ⟨v.nanos + draw (measure j v) * 1000000⟩ →
    j.moved measure floor v draw = max v floor
  /-- A cap is passed by no more than the spread, as the delay is shifted after it was capped. -/
  capped : ∀ cap : Span, v ≤ cap →
    (j.moved measure floor v draw).nanos ≤ max floor.nanos (cap.nanos + measure j v * 1000000)

/-- With a spread that it may come to, a jitter keeps a delay within these bounds. -/
lemma bounded (hj : j.Representable) (hmeasure : j.Spreads (measure j v)) {draw : Draw}
    (hdraw : draw.Fair) (floor : Span) : j.Bounded measure floor v draw := by
  have hmoved : (j.moved measure floor v draw).nanos =
      max (shifted v (draw (measure j v))).nanos floor.nanos := Span.nanos_max _ _
  have hwithin := shifted_within (v := v) (hdraw (measure j v))
  refine ⟨fun hcounts => ?_, fun hcounts => ?_, ?_, ?_, fun h => ?_, fun h => ?_,
    fun cap hcap => ?_⟩
  · unfold moved?
    rw [spread?_of_counts hj hcounts hmeasure, Option.bind_some,
      shifted?_eq (hmeasure.le hj) hdraw]
    rfl
  · unfold moved?
    rw [spread?_of_not_counts hcounts]
    rfl
  · rw [hmoved]
    omega
  · rw [Span.le_def, hmoved]
    omega
  · unfold moved
    rw [shifted_of_representable h]
  · unfold moved
    rw [shifted_of_not_representable h]
  · rw [Span.le_def] at hcap
    rw [hmoved]
    omega

end Jitter

/-! ### Strategies -/

namespace Growth

/-- Whether the spans of a growth are representable. -/
structure Representable (g : Growth) : Prop where
  unit : g.unit.Representable
  cap : ∀ cap, g.cap? = some cap → cap.Representable

/-- Whether no delay reaches further than the spans of a growth do: it does not grow, or it grows
forward and under a cap. -/
def Sheltered : Growth → Prop
  | constant _ => True
  | linear factor cap => Span.zero ≤ factor ∧ cap.isSome
  | exponential base cap => Span.zero ≤ base ∧ cap.isSome

variable {g : Growth}

/-- A delay is never beyond its cap. -/
lemma delay_le_cap {cap : Span} (hcap : g.cap? = some cap) (n : UInt32) : g.delay n ≤ cap := by
  rw [delay_eq]
  unfold delayBy capped
  rw [hcap, Span.le_def, Span.nanos_min]
  omega

/-- A multiple of a span that leads forward does so, too. -/
lemma zero_le_scaled {s : Span} (hs : Span.zero ≤ s) (k : Nat) : Span.zero ≤ scaled s k := by
  have hgreatest : Span.zero ≤ Span.greatest := by decide
  unfold scaled
  split_ifs
  · cases hproduct : s.times? k with
    | none => exact hgreatest
    | some p =>
      rw [Option.getD_some, Span.le_def, Span.multiplies_times?.nanos_eq hproduct]
      exact Int.mul_nonneg hs (Int.natCast_nonneg k)
  · exact hgreatest

/-- What leads forward and is under a representable cap is representable. -/
lemma representable_capped {v cap : Span} (hv : Span.zero ≤ v) (hcap : cap.Representable) :
    (capped v (some cap)).Representable := by
  have hzero : Span.zero.nanos = 0 := rfl
  rw [Span.le_def, hzero] at hv
  rw [Span.representable_iff] at *
  unfold capped
  rw [Span.nanos_min]
  omega

/-- The delays of a sheltered growth are representable. -/
lemma Sheltered.representable (hg : g.Representable) (h : g.Sheltered) (n : UInt32) :
    (g.delay n).Representable := by
  cases g with
  | constant delay => exact hg.unit
  | linear factor cap =>
    obtain ⟨hfactor, hsome⟩ := h
    obtain ⟨limit, rfl⟩ := Option.isSome_iff_exists.1 hsome
    exact representable_capped (zero_le_scaled hfactor _) (hg.cap limit rfl)
  | exponential base cap =>
    obtain ⟨hbase, hsome⟩ := h
    obtain ⟨limit, rfl⟩ := Option.isSome_iff_exists.1 hsome
    exact representable_capped (zero_le_scaled hbase _) (hg.cap limit rfl)

end Growth

namespace Strategy

/-- What holds of the delay before an attempt when a strategy jitters. -/
structure Jitters (s : Strategy) (j : Jitter) (draw : Draw) (attempt : UInt32) : Prop where
  /-- It is what was grown and capped, shifted and kept above the floor. -/
  own : s.delay draw attempt = j.moved Jitter.spread s.floor (s.growth.delay attempt) draw
  /-- The spread is one that the jitter may come to. -/
  spreads : j.Spreads (j.spread (s.growth.delay attempt))
  /-- What was grown is not beyond its cap. -/
  capped : ∀ cap, s.growth.cap? = some cap → s.growth.delay attempt ≤ cap
  /-- If the growth is sheltered a word holds the milliseconds of what was grown. -/
  counts : s.growth.Representable → s.growth.Sheltered → j.Counts (s.growth.delay attempt)

/-- One half. -/
def half : Double := ⟨false, 4503599627370496, -53⟩

/-- Three quarters of the longest span, to be taken once for each attempt without a cap and spread
by half of the delay. -/
def longSteps : Strategy :=
  { growth := .linear (.ofMillis 6917529027641081856) none, jitter := some (.relative half) }

end Strategy

end LeaseQueue
