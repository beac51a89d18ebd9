import LeaseQueue.Backoff.Strategy
import Mathlib.Tactic.Lemma
import Mathlib.Tactic.SplitIfs

/-!
# Delays that saturate

Before an attempt a delay is multiplied by a factor, and what comes out too long counts as the
longest span.  What that asks of a multiplication of spans is in `Span.Multiplies`: its results are
products, and no representable product is missed.  `Span.times?` keeps to it, and so does
`Span.product?`, which also has no result beyond the longest span (`Span.FailsBeyond`).  The delays
are stated here for any multiplication that keeps to it (`Growth.delayBy`); under a cap they do not
depend on which one it is (`Growth.Settles`).

`Growth.exact` is the delay in unbounded numbers.  `Growth.delayBy_eq` says that the delay is the
exact one, as far as spans and the cap go, for as many attempts as there are factors, and from then
on what the cap leaves of the longest span.  A delay that does not grow is thereby turned into the
longest one all the same (`Strategy.zero_base_grows`).
-/

namespace LeaseQueue

/-! ### Multiplication -/

namespace Span

@[simp] lemma nanos_min (a b : Span) : (min a b).nanos = min a.nanos b.nanos := by
  show (if a ≤ b then a else b).nanos = min a.nanos b.nanos
  rw [apply_ite nanos, Int.min_def]
  rfl

@[simp] lemma nanos_max (a b : Span) : (max a b).nanos = max a.nanos b.nanos := by
  show (if a ≤ b then b else a).nanos = max a.nanos b.nanos
  rw [apply_ite nanos, Int.max_def]
  rfl

/-- Whether the results of a multiplication are products, those that are representable among
them. -/
structure Multiplies (times : Span → Int → Option Span) : Prop where
  nanos_eq : ∀ {s p : Span} {k : Int}, times s k = some p → p.nanos = s.nanos * k
  eq_some : ∀ {s : Span} {k : Int}, Representable ⟨s.nanos * k⟩ → times s k = some ⟨s.nanos * k⟩

/-- Whether no result of a multiplication is beyond the longest spans. -/
def FailsBeyond (times : Span → Int → Option Span) : Prop :=
  ∀ (s p : Span) (k : Int), times s k = some p → p.Representable

/-- The product of a span and a number, if it is representable. -/
def product? (s : Span) (k : Int) : Option Span := checked ⟨s.nanos * k⟩

lemma multiplies_product? : Multiplies product? where
  nanos_eq := by
    intro s p k h
    unfold product? checked at h
    split_ifs at h
    rw [← Option.some.inj h]
  eq_some h := if_pos h

lemma failsBeyond_product? : FailsBeyond product? := by
  intro s p k h
  unfold product? checked at h
  split_ifs at h with hrepresentable
  exact Option.some.inj h ▸ hrepresentable

lemma multiplies_times? : Multiplies times? where
  nanos_eq := by
    intro s p k h
    unfold times? at h
    dsimp only at h
    split_ifs at h
    rw [← Option.some.inj h]
  eq_some := by
    intro s k h
    unfold times?
    dsimp only
    refine if_pos ?_
    simp only [Representable, le_def, least, greatest, ofMillis, greatestMillis] at h
    omega

end Span

/-! ### Growth -/

namespace Growth

open LeaseQueue.Span (Multiplies FailsBeyond)

/-- What a delay is a multiple of. -/
def unit : Growth → Span
  | constant delay => delay
  | linear factor _ => factor
  | exponential base _ => base

/-- The cap of a delay. -/
def cap? : Growth → Option Span
  | constant _ => none
  | linear _ cap => cap
  | exponential _ cap => cap

/-- By how much the unit is multiplied before an attempt. -/
def factor : Growth → Nat → Nat
  | constant _, _ => 1
  | linear _ _, n => n
  | exponential _ _, n => Nat.pow 2 (n - 1)

/-- The nanoseconds before an attempt, in unbounded numbers and without a cap. -/
def exact (g : Growth) (n : Nat) : Int := g.unit.nanos * g.factor n

/-- Whether the factor of an attempt is among those by which spans are multiplied. -/
def Scales (g : Growth) (n : Nat) : Prop := g.factor n ≤ greatestFactor

instance (g : Growth) (n : Nat) : Decidable (g.Scales n) :=
  inferInstanceAs (Decidable (g.factor n ≤ greatestFactor))

/-- Whether later attempts have no shorter delays. -/
def Grows : Growth → Prop
  | constant _ => True
  | linear factor _ => Span.zero ≤ factor
  | exponential base _ => Span.zero ≤ base

/-- A multiple of a span under a given multiplication; the longest span when there is none. -/
def scaledBy (times : Span → Int → Option Span) (s : Span) (factor : Nat) : Span :=
  if factor ≤ greatestFactor then (times s factor).getD Span.greatest else Span.greatest

/-- The delay before an attempt under a given multiplication, without a cap. -/
def grownBy (times : Span → Int → Option Span) (g : Growth) (n : Nat) : Span :=
  match g with
  | constant delay => delay
  | linear factor _ => scaledBy times factor n
  | exponential base _ => scaledBy times base (doubling n)

/-- The delay before an attempt under a given multiplication. -/
def delayBy (times : Span → Int → Option Span) (g : Growth) (attempt : UInt32) : Span :=
  capped (g.grownBy times attempt.toNat) g.cap?

/-- The delay is that under the multiplication at hand. -/
lemma delay_eq (g : Growth) (attempt : UInt32) :
    g.delay attempt = g.delayBy Span.times? attempt := by
  cases g <;> rfl

/-- The exact delay before an attempt as far as spans go, and the longest span when there is no
factor for the attempt. -/
def saturated (g : Growth) (n : Nat) : Span :=
  if g.Scales n then min ⟨g.exact n⟩ Span.greatest else Span.greatest

/-- Whether products that are not representable make no difference: there are none, or a cap keeps
them out. -/
def Settles (times : Span → Int → Option Span) (g : Growth) : Prop :=
  (FailsBeyond times ∧ g.unit ≤ Span.greatest) ∨ ∃ cap, g.cap? = some cap ∧ cap ≤ Span.greatest

variable {times : Span → Int → Option Span} {g : Growth}

/-- There is a factor for 31 attempts that double, and for no further one. -/
lemma scales_exponential_iff {base : Span} {cap : Option Span} {n : Nat} :
    (exponential base cap).Scales n ↔ n ≤ 31 := by
  constructor
  · intro h
    refine Nat.le_of_not_lt fun hn => ?_
    have hpow : Nat.pow 2 31 ≤ Nat.pow 2 (n - 1) := Nat.pow_le_pow_right (by decide) (by omega)
    exact absurd (Nat.le_trans hpow h) (by decide)
  · intro h
    have hpow : Nat.pow 2 (n - 1) ≤ Nat.pow 2 30 := Nat.pow_le_pow_right (by decide) (by omega)
    exact Nat.le_trans hpow (by decide)

/-- For those the factor is the power of two that it should be, and for later ones too large. -/
lemma doubling_spec (n : Nat) :
    if n ≤ 31 then doubling n = Nat.pow 2 (n - 1) else ¬doubling n ≤ greatestFactor := by
  unfold doubling
  split_ifs with hn
  · rw [Nat.min_eq_left (by omega)]
  · rw [Nat.min_eq_right (by omega)]
    decide

/-- A multiple of a span that is not negative is the exact one as far as spans go. -/
lemma min_scaledBy (htimes : Multiplies times) {s : Span} (hs : Span.zero ≤ s) {k : Nat}
    (hk : k ≤ greatestFactor) :
    min (scaledBy times s k) Span.greatest = min ⟨s.nanos * k⟩ Span.greatest := by
  have hproduct : 0 ≤ s.nanos * k := Int.mul_nonneg hs (Int.natCast_nonneg k)
  have hleast : Span.least.nanos ≤ 0 := by decide
  unfold scaledBy
  rw [if_pos hk]
  by_cases hfits : s.nanos * k ≤ Span.greatest.nanos
  · rw [htimes.eq_some ⟨Int.le_trans hleast hproduct, hfits⟩]
    rfl
  · -- Whether there is a result or not, either side is the longest span.
    have hlong : Span.greatest.nanos ≤ ((times s k).getD Span.greatest).nanos := by
      cases hresult : times s k with
      | none => exact Int.le_refl _
      | some p =>
        rw [Option.getD_some, htimes.nanos_eq hresult]
        omega
    ext
    simp only [Span.nanos_min]
    omega

/-- Without a factor for the attempt a delay is the longest span. -/
lemma grownBy_of_not_scales {n : Nat} (hscales : ¬g.Scales n) :
    g.grownBy times n = Span.greatest := by
  cases g with
  | constant delay =>
    have hone : 1 ≤ greatestFactor := by decide
    exact absurd hone hscales
  | linear factor cap => exact if_neg hscales
  | exponential base cap =>
    have hdoubling := doubling_spec n
    rw [if_neg (mt scales_exponential_iff.2 hscales)] at hdoubling
    exact if_neg hdoubling

/-- With one, a growing delay is the exact one as far as spans go. -/
lemma min_grownBy_of_scales (htimes : Multiplies times) (hgrows : g.Grows) {n : Nat}
    (hscales : g.Scales n) :
    min (g.grownBy times n) Span.greatest = min ⟨g.exact n⟩ Span.greatest := by
  cases g with
  | constant delay =>
    have hexact : (constant delay).exact n = delay.nanos := Int.mul_one _
    rw [hexact]
    rfl
  | linear factor cap => exact min_scaledBy htimes hgrows hscales
  | exponential base cap =>
    have hdoubling := doubling_spec n
    rw [if_pos (scales_exponential_iff.1 hscales)] at hdoubling
    show min (scaledBy times base (doubling n)) Span.greatest = _
    rw [hdoubling]
    exact min_scaledBy htimes hgrows hscales

/-- What a growing delay comes to as far as spans go. -/
lemma min_grownBy (htimes : Multiplies times) (hgrows : g.Grows) (n : Nat) :
    min (g.grownBy times n) Span.greatest = g.saturated n := by
  unfold saturated
  split_ifs with hscales
  · exact min_grownBy_of_scales htimes hgrows hscales
  · rw [grownBy_of_not_scales hscales]
    rfl

/-- No delay is longer than the longest span if no product is. -/
lemma grownBy_le (hbeyond : FailsBeyond times) (hunit : g.unit ≤ Span.greatest) (n : Nat) :
    g.grownBy times n ≤ Span.greatest := by
  have hscaled : ∀ (s : Span) (k : Nat), scaledBy times s k ≤ Span.greatest := by
    intro s k
    unfold scaledBy
    split_ifs
    · cases hresult : times s k with
      | none => exact Int.le_refl _
      | some p => exact (hbeyond s p k hresult).2
    · exact Int.le_refl _
  cases g with
  | constant delay => exact hunit
  | linear factor cap => exact hscaled factor n
  | exponential base cap => exact hscaled base (doubling n)

/-- Cutting off at the longest span makes no difference to a delay that settles. -/
lemma capped_grownBy (hsettles : g.Settles times) (n : Nat) :
    capped (g.grownBy times n) g.cap? = capped (min (g.grownBy times n) Span.greatest) g.cap? := by
  rcases hsettles with ⟨hbeyond, hunit⟩ | ⟨cap, hcap, hle⟩
  · have hgrown := grownBy_le hbeyond hunit n
    have hmin : min (g.grownBy times n) Span.greatest = g.grownBy times n := if_pos hgrown
    rw [hmin]
  · rw [Span.le_def] at hle
    rw [hcap]
    unfold capped
    ext
    simp only [Span.nanos_min]
    omega

/-- A delay that settles is never beyond the longest span. -/
lemma delayBy_le (hsettles : g.Settles times) (n : UInt32) :
    g.delayBy times n ≤ Span.greatest := by
  unfold delayBy
  rw [capped_grownBy hsettles, Span.le_def]
  unfold capped
  cases g.cap? <;> simp only [Span.nanos_min] <;> omega

/-- A delay is what the cap leaves of the exact one, or, when there is no factor for the attempt, of
the longest span. -/
lemma delayBy_eq (htimes : Multiplies times) (hgrows : g.Grows) (hsettles : g.Settles times)
    (n : UInt32) : g.delayBy times n = capped (g.saturated n.toNat) g.cap? := by
  unfold delayBy
  rw [capped_grownBy hsettles, min_grownBy htimes hgrows]

/-- A cap keeps the order of delays. -/
lemma capped_mono {d e : Span} (hde : d ≤ e) (cap : Option Span) : capped d cap ≤ capped e cap := by
  rw [Span.le_def] at *
  unfold capped
  cases cap with
  | none => exact hde
  | some c =>
    simp only [Span.nanos_min]
    omega

end Growth

/-! ### Strategies -/

namespace Strategy

open LeaseQueue.Span (Multiplies FailsBeyond)

/-- The delay of a strategy, given what it grew to. -/
def shaped (s : Strategy) (draw : Draw) (grown : Span) : Span :=
  max (match s.jitter with
    | some jitter => Jitter.shifted grown (draw (jitter.spread grown))
    | none => grown) s.floor

/-- The delay before an attempt under a given multiplication. -/
def delayBy (times : Span → Int → Option Span) (s : Strategy) (draw : Draw) (attempt : UInt32) :
    Span :=
  s.shaped draw (s.growth.delayBy times attempt)

/-- The delay is that under the multiplication at hand. -/
lemma delay_eq (s : Strategy) (draw : Draw) (attempt : UInt32) :
    s.delay draw attempt = s.delayBy Span.times? draw attempt := by
  unfold delay delayBy
  rw [Growth.delay_eq]
  rfl

/-- Without jitter a strategy that grows waits, for as long as there are factors for the attempts,
the exact delay as far as spans and the cap go, and from then on what the cap leaves of the longest
span; in either case never less than the exact delay would be.  Its own delay is that under the
multiplication at hand. -/
theorem delay_saturates {times : Span → Int → Option Span} (htimes : Multiplies times) {g : Growth}
    (hgrows : g.Grows) (hsettles : g.Settles times) (floor : Span) (draw : Draw) (n : UInt32) :
    let s : Strategy := { growth := g, floor }
    s.delay draw n = s.delayBy Span.times? draw n ∧
    (g.Scales n.toNat →
      s.delayBy times draw n =
        max (Growth.capped (min ⟨g.exact n.toNat⟩ Span.greatest) g.cap?) floor) ∧
    (¬g.Scales n.toNat →
      s.delayBy times draw n = max (Growth.capped Span.greatest g.cap?) floor) ∧
    max (Growth.capped (min ⟨g.exact n.toNat⟩ Span.greatest) g.cap?) floor ≤
      s.delayBy times draw n := by
  intro s
  have hdelay : s.delayBy times draw n =
      max (Growth.capped (g.saturated n.toNat) g.cap?) floor := by
    rw [← Growth.delayBy_eq htimes hgrows hsettles]
    rfl
  have hexact : min ⟨g.exact n.toNat⟩ Span.greatest ≤ g.saturated n.toNat := by
    rw [Span.le_def]
    unfold Growth.saturated
    split_ifs
    · exact Int.le_refl _
    · rw [Span.nanos_min]
      omega
  have hcapped := Growth.capped_mono hexact g.cap?
  rw [hdelay]
  refine ⟨s.delay_eq draw n, fun hscales => ?_, fun hscales => ?_, ?_⟩
  · rw [Growth.saturated, if_pos hscales]
  · rw [Growth.saturated, if_neg hscales]
  · rw [Span.le_def] at *
    simp only [Span.nanos_max]
    omega

/-- Ten seconds and twice as much from attempt to attempt, but no more than an hour, have reached
the hour at the tenth attempt. -/
theorem tenth_delay_capped :
    let g := Growth.exponential (.ofSeconds 10) (some (.ofSeconds 3600))
    Span.Multiplies Span.times? ∧ g.Grows ∧ g.Settles Span.times? ∧ g.Scales 10 ∧
      ({ growth := g } : Strategy).delay (fun _ => 0) 10 = .ofSeconds 3600 := by
  intro g
  have hbase : Span.zero ≤ .ofSeconds 10 := by decide
  have hgrows : g.Grows := hbase
  have hsettles : g.Settles Span.times? := .inr ⟨_, rfl, by decide⟩
  have hscales : g.Scales 10 := by decide
  refine ⟨Span.multiplies_times?, hgrows, hsettles, hscales, ?_⟩
  obtain ⟨hown, hexact, -⟩ :=
    delay_saturates Span.multiplies_times? hgrows hsettles .zero (fun _ => 0) 10
  rw [hown, hexact hscales]
  decide

/-- No span at all, doubled as often as one likes, is no span at all, and yet the delay before the
attempt for which there is no factor any more is the longest span, whatever the multiplication. -/
theorem zero_base_grows :
    let s : Strategy := { growth := .exponential .zero none }
    s.delay (fun _ => 0) 31 = .zero ∧ s.delay (fun _ => 0) 32 = .greatest ∧
      s.delayBy Span.product? (fun _ => 0) 32 = .greatest ∧
      max (Growth.capped (min ⟨s.growth.exact 32⟩ Span.greatest) s.growth.cap?) s.floor = .zero ∧
      Span.zero ≠ .greatest := by
  decide

end Strategy

end LeaseQueue
