import LeaseQueue.Backoff.Policy
import LeaseQueue.Proofs.Backoff.Saturation

/-!
# The delays of policies

A policy counts in whole seconds.  `Policy.exact` is the number of seconds that it asks for, and
`Policy.asked` is what its cap and spans leave of them.  The delay of a policy that grows is never
shorter than that, and never shorter than the delay before an earlier attempt, although its seconds,
its products and its factors each run out at a place of their own; and no delay is negative or
beyond a cap (`Policy.Ordered`, `Policy.delays_ordered`).

Without a cap, that later delays are no shorter hangs on the multiplication: the one at hand has
results beyond the longest span, from which the delay falls back to it.
-/

namespace LeaseQueue

namespace Growth

open LeaseQueue.Span (Multiplies FailsBeyond)

variable {times : Span → Int → Option Span} {g : Growth}

/-- Factors do not get smaller from attempt to attempt. -/
lemma factor_mono (g : Growth) {m n : Nat} (hmn : m ≤ n) : g.factor m ≤ g.factor n := by
  cases g with
  | constant delay => exact Nat.le_refl _
  | linear factor cap => exact hmn
  | exponential base cap => exact Nat.pow_le_pow_right (by decide) (by omega)

/-- The exact delay before an attempt is no longer than that before a later one. -/
lemma exact_mono (hgrows : g.Grows) {m n : Nat} (hmn : m ≤ n) : g.exact m ≤ g.exact n := by
  have hfactor := Int.ofNat_le.2 (g.factor_mono hmn)
  cases g with
  | constant delay => exact Int.le_refl _
  | linear factor cap => exact Int.mul_le_mul_of_nonneg_left hfactor hgrows
  | exponential base cap => exact Int.mul_le_mul_of_nonneg_left hfactor hgrows

/-- What a delay comes to as far as spans go is never beyond the longest one. -/
lemma saturated_le (g : Growth) (n : Nat) : g.saturated n ≤ Span.greatest := by
  rw [Span.le_def]
  unfold saturated
  split_ifs
  · rw [Span.nanos_min]
    omega
  · exact Int.le_refl _

/-- Nor does it get shorter from attempt to attempt, factors or not. -/
lemma saturated_mono (hgrows : g.Grows) {m n : Nat} (hmn : m ≤ n) :
    g.saturated m ≤ g.saturated n := by
  by_cases hn : g.Scales n
  · have hm : g.Scales m := Nat.le_trans (g.factor_mono hmn) hn
    have hexact := exact_mono hgrows hmn
    rw [saturated, saturated, if_pos hn, if_pos hm, Span.le_def]
    simp only [Span.nanos_min]
    omega
  · have hend : g.saturated n = Span.greatest := if_neg hn
    rw [hend]
    exact g.saturated_le m

end Growth

namespace Policy

open LeaseQueue.Span (Multiplies FailsBeyond)

/-- The seconds that a delay is a multiple of. -/
def unit : Policy → Int64
  | fixed delay => delay
  | linear step _ => step
  | exponential base _ => base

/-- The most seconds of a delay. -/
def cap? : Policy → Option Int64
  | fixed _ => none
  | linear _ cap => cap
  | exponential _ cap => cap

/-- The seconds before an attempt, in unbounded numbers and without a cap. -/
def exact (p : Policy) (n : Nat) : Int := p.unit.toInt * p.growth.factor n

/-- Whether later attempts ask for no shorter delays. -/
def Grows : Policy → Prop
  | fixed _ => True
  | linear step _ => 0 ≤ step.toInt
  | exponential base _ => 0 ≤ base.toInt

/-- The least of the exact delay, the cap and the longest span. -/
def asked (p : Policy) (n : Nat) : Span :=
  Growth.capped (min (Span.ofSeconds (p.exact n)) Span.greatest)
    (p.cap?.map fun cap => Span.ofSeconds cap.toInt)

/-- The delay before an attempt under a given multiplication. -/
def delayBy (times : Span → Int → Option Span) (p : Policy) (attempt : UInt32) : Span :=
  p.strategy.delayBy times (fun _ => 0) attempt

/-- The delay is that under the multiplication at hand. -/
lemma delay_eq (p : Policy) (attempt : UInt32) : p.delay attempt = p.delayBy Span.times? attempt :=
  p.strategy.delay_eq _ _

/-- It is what it grew to, or nothing when that is negative. -/
lemma delayBy_eq (times : Span → Int → Option Span) (p : Policy) (attempt : UInt32) :
    p.delayBy times attempt = max (p.growth.delayBy times attempt) Span.zero := rfl

variable {times : Span → Int → Option Span} {p : Policy}

/-! ### Seconds -/

/-- Seconds that are representable are taken as they are. -/
lemma seconds_of_representable {n : Int64} (h : (Span.ofSeconds n.toInt).Representable) :
    seconds n = Span.ofSeconds n.toInt := by
  unfold seconds Span.ofSeconds? Span.checked
  rw [if_pos h]
  rfl

/-- All others count as the longest span. -/
lemma seconds_of_not_representable {n : Int64} (h : ¬(Span.ofSeconds n.toInt).Representable) :
    seconds n = Span.greatest := by
  unfold seconds Span.ofSeconds? Span.checked
  rw [if_neg h]
  rfl

/-- No number of seconds leads beyond the longest span. -/
lemma seconds_le (n : Int64) : seconds n ≤ Span.greatest := by
  by_cases h : (Span.ofSeconds n.toInt).Representable
  · rw [seconds_of_representable h]
    exact h.2
  · rw [seconds_of_not_representable h]
    exact Int.le_refl _

/-- Seconds are never cut short but at the longest span. -/
lemma min_seconds_le (n : Int64) : min (Span.ofSeconds n.toInt) Span.greatest ≤ seconds n := by
  rw [Span.le_def, Span.nanos_min]
  by_cases h : (Span.ofSeconds n.toInt).Representable
  · rw [seconds_of_representable h]
    omega
  · rw [seconds_of_not_representable h]
    omega

/-- Seconds that are not negative do not lead backwards. -/
lemma zero_le_seconds {n : Int64} (hn : 0 ≤ n.toInt) : Span.zero ≤ seconds n := by
  have hgreatest : Span.zero ≤ Span.greatest := by decide
  have hseconds := min_seconds_le n
  rw [Span.le_def] at *
  simp only [Span.nanos_min, Span.zero, Span.ofSeconds] at *
  omega

/-- A multiple of seconds that are not negative is not cut short but at the longest span either. -/
lemma min_seconds_mul_le {u : Int64} (hu : 0 ≤ u.toInt) (k : Nat) :
    min (Span.ofSeconds (u.toInt * k)) Span.greatest ≤ ⟨(seconds u).nanos * k⟩ := by
  have hseconds := min_seconds_le u
  have hzero := zero_le_seconds hu
  rw [Span.le_def] at *
  simp only [Span.nanos_min, Span.ofSeconds, Span.zero] at *
  have hcases : u.toInt * 1000000000 ≤ (seconds u).nanos ∨
      Span.greatest.nanos ≤ (seconds u).nanos := by omega
  rcases hcases with hexact | hlong
  · have hproduct := Int.mul_le_mul_of_nonneg_right hexact (Int.natCast_nonneg k)
    have hswap : u.toInt * 1000000000 * k = u.toInt * k * 1000000000 := by
      rw [Int.mul_assoc, Int.mul_comm 1000000000, ← Int.mul_assoc]
    omega
  · rcases Nat.eq_zero_or_pos k with rfl | hk
    · rw [Int.natCast_zero, Int.mul_zero, Int.mul_zero, Int.zero_mul]
      omega
    · have hone : (1 : Int) ≤ k := Int.ofNat_le.2 hk
      have hproduct := Int.mul_le_mul_of_nonneg_left hone hzero
      omega

/-! ### Delays -/

/-- A policy that grows has a growth that does. -/
lemma Grows.growth (h : p.Grows) : p.growth.Grows := by
  cases p with
  | fixed delay => trivial
  | linear step cap => exact zero_le_seconds h
  | exponential base cap => exact zero_le_seconds h

/-- The cap of the growth is that of the policy. -/
lemma cap?_growth (p : Policy) : p.growth.cap? = p.cap?.map seconds := by
  cases p <;> rfl

/-- The unit of the growth is that of the policy. -/
lemma unit_growth (p : Policy) : p.growth.unit = seconds p.unit := by
  cases p <;> rfl

/-- Under a cap, or if no product is beyond the longest span, the delays settle. -/
lemma settles (hbeyond : p.cap? = none → FailsBeyond times) : p.growth.Settles times := by
  cases hcap : p.cap? with
  | none =>
    refine .inl ⟨hbeyond hcap, ?_⟩
    rw [unit_growth]
    exact seconds_le _
  | some cap =>
    refine .inr ⟨seconds cap, ?_, seconds_le cap⟩
    rw [cap?_growth, hcap]
    rfl

/-- A delay is never beyond a cap, or else nothing. -/
lemma delayBy_le_cap {cap : Int64} (hcap : p.cap? = some cap)
    (hrepresentable : (Span.ofSeconds cap.toInt).Representable) (n : UInt32) :
    p.delayBy times n ≤ max Span.zero (Span.ofSeconds cap.toInt) := by
  have hgrowth : p.growth.cap? = some (Span.ofSeconds cap.toInt) := by
    rw [cap?_growth, hcap, Option.map_some, seconds_of_representable hrepresentable]
  rw [delayBy_eq, Growth.delayBy, hgrowth, Span.le_def]
  simp only [Growth.capped, Span.nanos_max, Span.nanos_min]
  omega

/-- Seconds that are not negative come, as far as spans go, to no less than what is asked for. -/
lemma min_exact_le_saturated (hunit : 0 ≤ p.unit.toInt) (n : Nat) :
    min (Span.ofSeconds (p.exact n)) Span.greatest ≤ p.growth.saturated n := by
  have hexact := min_seconds_mul_le hunit (p.growth.factor n)
  have hgrowth : p.growth.exact n = (seconds p.unit).nanos * p.growth.factor n := by
    rw [Growth.exact, unit_growth]
  rw [Span.le_def] at *
  unfold Growth.saturated exact
  split_ifs
  · rw [hgrowth]
    simp only [Span.nanos_min] at *
    omega
  · simp only [Span.nanos_min] at *
    omega

/-- A policy that grows asks for no more than the delay. -/
lemma asked_le_delayBy (htimes : Multiplies times) (hgrows : p.Grows) (n : UInt32) :
    p.asked n.toNat ≤ p.delayBy times n := by
  rw [delayBy_eq]
  by_cases hunit : 0 ≤ p.unit.toInt
  · have hgrown : min (Span.ofSeconds (p.exact n.toNat)) Span.greatest ≤
        p.growth.grownBy times n.toNat := by
      have hsaturated := min_exact_le_saturated hunit n.toNat
      rw [← Growth.min_grownBy htimes hgrows.growth] at hsaturated
      rw [Span.le_def] at *
      simp only [Span.nanos_min] at *
      omega
    unfold asked Growth.delayBy
    rw [cap?_growth]
    cases p.cap? with
    | none =>
      rw [Span.le_def] at *
      simp only [Option.map_none, Growth.capped, Span.nanos_min, Span.nanos_max] at *
      omega
    | some cap =>
      have hcap := min_seconds_le cap
      rw [Span.le_def] at *
      simp only [Option.map_some, Growth.capped, Span.nanos_min, Span.nanos_max] at *
      omega
  · -- Only a fixed delay can be negative here, and nothing is longer than that.
    cases p with
    | fixed delay =>
      have hnegative : delay.toInt < 0 := Int.not_le.1 hunit
      have hexact : (fixed delay).exact n.toNat = delay.toInt := Int.mul_one _
      unfold asked
      rw [hexact, Span.le_def]
      simp only [cap?, Option.map_none, Growth.capped, Span.nanos_min, Span.nanos_max,
        Span.ofSeconds, Span.zero]
      omega
    | linear step cap => exact absurd hgrows hunit
    | exponential base cap => exact absurd hgrows hunit

/-- What holds of the delay of a policy before an attempt, and of that before an earlier one. -/
structure Ordered (times : Span → Int → Option Span) (p : Policy) (m n : UInt32) : Prop where
  /-- The delay is that under the multiplication at hand. -/
  own : p.delay n = p.delayBy Span.times? n
  /-- It is not negative. -/
  zero_le : Span.zero ≤ p.delayBy times n
  /-- It is not beyond a cap, or else nothing. -/
  capped : ∀ cap, p.cap? = some cap → (Span.ofSeconds cap.toInt).Representable →
    p.delayBy times n ≤ max Span.zero (Span.ofSeconds cap.toInt)
  /-- If the policy grows it is no shorter than what is asked for. -/
  asked_le : p.Grows → p.asked n.toNat ≤ p.delayBy times n
  /-- Under a cap, and without one if no product is beyond the longest span, it is not beyond that
  either. -/
  le_greatest : (p.cap? = none → FailsBeyond times) → p.delayBy times n ≤ Span.greatest
  /-- Then it is also no shorter than the earlier one, if the policy grows. -/
  mono : (p.cap? = none → FailsBeyond times) → p.Grows → p.delayBy times m ≤ p.delayBy times n

/-- Whatever its numbers, the delays of a policy are in order. -/
theorem delays_ordered {times : Span → Int → Option Span} (htimes : Multiplies times) (p : Policy)
    {m n : UInt32} (hmn : m ≤ n) : p.Ordered times m n where
  own := p.delay_eq n
  zero_le := by
    rw [delayBy_eq, Span.le_def, Span.nanos_max]
    omega
  capped cap hcap hrepresentable := delayBy_le_cap hcap hrepresentable n
  asked_le hgrows := asked_le_delayBy htimes hgrows n
  le_greatest hbeyond := by
    have hgrown := Growth.delayBy_le (settles hbeyond) n
    have hgreatest : Span.zero ≤ Span.greatest := by decide
    rw [delayBy_eq]
    rw [Span.le_def] at *
    rw [Span.nanos_max]
    omega
  mono hbeyond hgrows := by
    have hle : m.toNat ≤ n.toNat := UInt32.le_iff_toNat_le.1 hmn
    have hsettles := settles hbeyond
    have hcapped := Growth.capped_mono (Growth.saturated_mono hgrows.growth hle) p.growth.cap?
    rw [← Growth.delayBy_eq htimes hgrows.growth hsettles,
      ← Growth.delayBy_eq htimes hgrows.growth hsettles] at hcapped
    rw [delayBy_eq, delayBy_eq]
    rw [Span.le_def] at *
    simp only [Span.nanos_max]
    omega

/-- Without a cap, twice the longest step in seconds is a result of the multiplication at hand and
beyond the longest span, to which a later delay falls back. -/
example :
    let p := linear 9223372036854775 none
    Span.greatest < p.delay 2 ∧ p.delay 1001 = Span.greatest := by
  decide

/-- A second, doubled from attempt to attempt without a cap. -/
def doublingSecond : Policy := .exponential 1 none

/-- Where the factors run out the delay goes on to the longest span.  Up to there the multiplication
at hand, too, has no result beyond it. -/
theorem last_factor_passed :
    Multiplies Span.product? ∧ FailsBeyond Span.product? ∧ doublingSecond.Grows ∧
      (31 : UInt32) ≤ 32 ∧
      doublingSecond.delay 31 = doublingSecond.delayBy Span.product? 31 ∧
      doublingSecond.delay 32 = doublingSecond.delayBy Span.product? 32 ∧
      doublingSecond.delayBy Span.product? 31 = .ofSeconds 1073741824 ∧
      doublingSecond.asked 32 = .ofSeconds 2147483648 ∧
      doublingSecond.delayBy Span.product? 32 = .greatest ∧
      doublingSecond.delayBy Span.product? 31 ≤ doublingSecond.delayBy Span.product? 32 := by
  have hgrows : doublingSecond.Grows := by
    show 0 ≤ (1 : Int64).toInt
    decide
  have hle : (31 : UInt32) ≤ 32 := by decide
  have hordered := delays_ordered Span.multiplies_product? doublingSecond hle
  exact ⟨Span.multiplies_product?, Span.failsBeyond_product?, hgrows, hle, by decide, by decide,
    by decide, by decide, by decide, hordered.mono (fun _ => Span.failsBeyond_product?) hgrows⟩

end Policy

end LeaseQueue
