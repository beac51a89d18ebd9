import LeaseQueue.Document.Number
import Mathlib.Algebra.Order.Field.Power
import Mathlib.Algebra.Order.Field.Rat
import Mathlib.Tactic.FieldSimp
import Mathlib.Tactic.Lemma
import Mathlib.Tactic.Linarith
import Mathlib.Tactic.NormNum
import Mathlib.Tactic.Ring

/-!
# Rounding

A quotient is rounded to the number near it (`Double.round?_eq`): the one whose interval it lies in,
which reaches halfway to either neighbour and includes its ends if the significand is even
(`Double.Near`).  The exponent of the result is that with which the quotient has 53 bits before the
point (`Double.exponentOf_eq`), or one more where rounding carries into a further bit.
-/

namespace LeaseQueue

/-- A power with an integer exponent, its positive and its negative part apart. -/
lemma zpow_toNat (b : ℚ) (k : ℤ) : b ^ k.toNat / b ^ (-k).toNat = b ^ k := by
  rcases Int.le_total 0 k with hk | hk
  · obtain ⟨n, rfl⟩ := Int.eq_ofNat_of_zero_le hk
    simp
  · obtain ⟨n, hn⟩ := Int.eq_ofNat_of_zero_le (Int.neg_nonneg.2 hk)
    obtain rfl : k = -(n : ℤ) := by omega
    simp

namespace Double

variable {num den : ℕ}

/-- The size of a number. -/
def magnitude (d : Double) : ℚ := d.significand * 2 ^ d.exponent

/-! ### Scaling -/

lemma scaled_pos (hden : 0 < den) (exponent : Int) : 0 < (scaled num den exponent).2 :=
  Nat.mul_pos hden (Nat.pow_pos (by decide))

/-- A scaled quotient is the quotient over the power of two. -/
lemma scaled_div (num den : ℕ) (exponent : Int) :
    ((scaled num den exponent).1 : ℚ) / (scaled num den exponent).2 =
      num / den / 2 ^ exponent := by
  have hpow : (2 : ℚ) ^ (-exponent).toNat / 2 ^ exponent.toNat = 2 ^ (-exponent) := by
    have hneg := zpow_toNat 2 (-exponent)
    rwa [neg_neg] at hneg
  unfold scaled
  simp only [Nat.pow_eq, Nat.cast_mul, Nat.cast_pow, Nat.cast_ofNat]
  rw [mul_div_mul_comm, hpow, zpow_neg, div_eq_mul_inv _ ((2 : ℚ) ^ exponent)]

/-! ### The nearest natural -/

/-- A quotient next to a natural is rounded to it, if it lies halfway to another one only when the
natural is even. -/
lemma nearest_eq {n : ℕ} (hden : 0 < den) (hlow : (n : ℚ) - 1 / 2 ≤ num / den)
    (hhigh : (num : ℚ) / den ≤ n + 1 / 2)
    (hodd : n % 2 = 1 → (n : ℚ) - 1 / 2 < num / den ∧ (num : ℚ) / den < n + 1 / 2) :
    nearest num den = n := by
  have hden' : (0 : ℚ) < den := by exact_mod_cast hden
  have hlow' : 2 * n * den ≤ 2 * num + den := by
    rw [le_div_iff₀ hden'] at hlow
    exact_mod_cast (by linarith : (2 : ℚ) * n * den ≤ 2 * num + den)
  have hhigh' : 2 * num ≤ 2 * n * den + den := by
    rw [div_le_iff₀ hden'] at hhigh
    exact_mod_cast (by linarith : (2 : ℚ) * num ≤ 2 * n * den + den)
  have hodd' : n % 2 = 1 → 2 * n * den < 2 * num + den ∧ 2 * num < 2 * n * den + den := by
    intro hn
    obtain ⟨hl, hh⟩ := hodd hn
    rw [lt_div_iff₀ hden'] at hl
    rw [div_lt_iff₀ hden'] at hh
    exact ⟨by exact_mod_cast (by linarith : (2 : ℚ) * n * den < 2 * num + den),
      by exact_mod_cast (by linarith : (2 : ℚ) * num < 2 * n * den + den)⟩
  have hdiv := Nat.div_add_mod num den
  have hmod := Nat.mod_lt num hden
  unfold nearest
  dsimp only
  generalize num / den = q at *
  generalize num % den = r at *
  have hle : q ≤ n := by
    by_contra h
    have : den * (n + 1) ≤ den * q := Nat.mul_le_mul_left den (by omega)
    nlinarith
  have hge : n ≤ q + 1 := by
    by_contra h
    have : den * (q + 2) ≤ den * n := Nat.mul_le_mul_left den (by omega)
    nlinarith
  rcases (by omega : n = q ∨ n = q + 1) with rfl | rfl
  · have hup : ¬(den < 2 * r ∨ 2 * r = den ∧ n % 2 = 1) := by
      rintro (h | ⟨h, hn⟩)
      · nlinarith
      · have := (hodd' hn).2
        nlinarith
    exact if_neg hup
  · have hup : den < 2 * r ∨ 2 * r = den ∧ q % 2 = 1 := by
      by_cases htie : 2 * r = den
      · refine .inr ⟨htie, ?_⟩
        by_contra hq
        have := (hodd' (by omega)).1
        nlinarith
      · left
        have : den ≤ 2 * r := by nlinarith
        omega
    exact if_pos hup

/-! ### The exponent -/

/-- The powers of two between which a natural lies. -/
lemma log2_bounds {n : ℕ} (hn : 0 < n) :
    (2 : ℚ) ^ (n.log2 : ℤ) ≤ n ∧ (n : ℚ) < 2 ^ (n.log2 + 1 : ℤ) := by
  have hle : 2 ^ n.log2 ≤ n := Nat.log2_self_le (Nat.ne_of_gt hn)
  have hlt : n < 2 ^ (n.log2 + 1) := Nat.lt_log2_self
  refine ⟨?_, ?_⟩
  · rw [zpow_natCast]
    exact_mod_cast hle
  · have hcast : (n : ℚ) < 2 ^ (n.log2 + 1) := by exact_mod_cast hlt
    exact_mod_cast hcast

/-- The exponent with which a positive quotient has 53 bits before the point, or the least one if it
has fewer. -/
lemma exponentOf_eq {exponent : Int} (hnum : 0 < num) (hden : 0 < den)
    (hleast : leastExponent ≤ exponent) (hhigh : (num : ℚ) / den < 2 ^ (exponent + 53))
    (hlow : (2 : ℚ) ^ (exponent + 52) ≤ num / den ∨ exponent = leastExponent) :
    exponentOf num den = exponent := by
  have hden' : (0 : ℚ) < den := by exact_mod_cast hden
  obtain ⟨hnum_le, hnum_lt⟩ := log2_bounds hnum
  obtain ⟨hden_le, hden_lt⟩ := log2_bounds hden
  have hbetween : ∀ {a b : Int}, (2 : ℚ) ^ a ≤ num / den → (num : ℚ) / den < 2 ^ b → a < b :=
    fun ha hb => (zpow_lt_zpow_iff_right₀ one_lt_two).1 (ha.trans_lt hb)
  unfold exponentOf
  dsimp only
  generalize hcount : (num.log2 : Int) - den.log2 - 53 = count
  -- The bit counts leave two exponents.
  have hfrom : (2 : ℚ) ^ (count + 52) ≤ num / den := by
    rw [le_div_iff₀ hden', show count + 52 = num.log2 - (den.log2 + 1) by omega,
      zpow_sub₀ two_ne_zero, div_mul_eq_mul_div, div_le_iff₀ (by positivity)]
    exact mul_le_mul hnum_le hden_lt.le hden'.le (by positivity)
  have hto : (num : ℚ) / den < 2 ^ (count + 54) := by
    rw [div_lt_iff₀ hden', show count + 54 = num.log2 + 1 - den.log2 by omega,
      zpow_sub₀ two_ne_zero, div_mul_eq_mul_div, lt_div_iff₀ (by positivity)]
    exact mul_lt_mul hnum_lt hden_le (by positivity) (by positivity)
  have htest : (scaled num den count).2 * Nat.pow 2 53 ≤ (scaled num den count).1 ↔
      (2 : ℚ) ^ (count + 53) ≤ num / den := by
    have hpos : (0 : ℚ) < (scaled num den count).2 := by exact_mod_cast scaled_pos hden count
    rw [zpow_add₀ two_ne_zero, ← le_div_iff₀' (by positivity), ← scaled_div, le_div_iff₀ hpos,
      mul_comm]
    norm_cast
  simp only [htest]
  split_ifs with htop
  · rcases hlow with hlow | hlow
    · have := hbetween htop hhigh
      have := hbetween hlow hto
      omega
    · have := hbetween htop hhigh
      omega
  · rcases hlow with hlow | hlow
    · have := hbetween hfrom hhigh
      have := hbetween hlow (lt_of_not_ge htop)
      omega
    · have := hbetween hfrom hhigh
      omega

/-! ### The number near a quotient -/

/-- How many quarters of the last place the interval of a number reaches below it: its neighbour
below a power of two is half as far away as the one above. -/
def reachBelow (d : Double) : ℕ :=
  if d.significand = Nat.pow 2 52 ∧ leastExponent < d.exponent then 1 else 2

/-- Whether a quotient lies in the interval of a number, between halfway to its neighbours; an end
belongs to the number with the even significand. -/
structure Near (d : Double) (x : ℚ) : Prop where
  low : (4 * d.significand - d.reachBelow) * (2 : ℚ) ^ (d.exponent - 2) ≤ x
  high : x ≤ (4 * d.significand + 2) * (2 : ℚ) ^ (d.exponent - 2)
  odd : d.significand % 2 = 1 →
    (4 * d.significand - d.reachBelow) * (2 : ℚ) ^ (d.exponent - 2) < x ∧
      x < (4 * d.significand + 2) * (2 : ℚ) ^ (d.exponent - 2)

/-- Only positive quotients are near to a number other than zero. -/
lemma Near.pos {d : Double} {x : ℚ} (h : d.Near x) (hzero : d.significand ≠ 0) : 0 < x := by
  have hreach : (d.reachBelow : ℚ) ≤ 2 := by
    unfold reachBelow
    split_ifs <;> norm_num
  have hone : (1 : ℚ) ≤ d.significand := by exact_mod_cast Nat.one_le_iff_ne_zero.2 hzero
  exact lt_of_lt_of_le (mul_pos (by linarith) (by positivity)) h.low

/-- A quotient is rounded to the number it is near to. -/
theorem round?_eq {d : Double} (hd : d.Valid) (hzero : d.significand ≠ 0) (hden : 0 < den)
    (hnear : d.Near (num / den)) (negative : Bool) :
    round? negative num den = some { d with negative } := by
  obtain ⟨hleast, hgreatest, hbits, hnormal⟩ := hd
  have hbits' : d.significand + 1 ≤ 9007199254740992 := hbits
  have hscale : (0 : ℚ) < 2 ^ d.exponent := by positivity
  have hquarter : (2 : ℚ) ^ (d.exponent - 2) = 2 ^ d.exponent / 4 := by
    rw [zpow_sub₀ two_ne_zero]
    norm_num
  have hpow : ∀ k : ℤ, (2 : ℚ) ^ (d.exponent + k) = 2 ^ k * 2 ^ d.exponent := by
    intro k
    rw [zpow_add₀ two_ne_zero, mul_comm]
  obtain ⟨u, hu⟩ : ∃ u : ℚ, (num : ℚ) / den = u * 2 ^ d.exponent :=
    ⟨num / den / 2 ^ d.exponent, (div_mul_cancel₀ _ hscale.ne').symm⟩
  have hends : (d.significand : ℚ) - d.reachBelow / 4 ≤ u ∧ u ≤ d.significand + 1 / 2 ∧
      (d.significand % 2 = 1 →
        (d.significand : ℚ) - d.reachBelow / 4 < u ∧ u < d.significand + 1 / 2) := by
    obtain ⟨hlow, hhigh, hodd⟩ := hnear
    rw [hquarter, hu] at hlow hhigh hodd
    refine ⟨?_, ?_, fun h => ⟨?_, ?_⟩⟩
    · refine le_of_mul_le_mul_right ?_ hscale
      linarith
    · refine le_of_mul_le_mul_right ?_ hscale
      linarith
    · have := (hodd h).1
      refine lt_of_mul_lt_mul_right ?_ hscale.le
      linarith
    · have := (hodd h).2
      refine lt_of_mul_lt_mul_right ?_ hscale.le
      linarith
  obtain ⟨hlow, hhigh, hodd⟩ := hends
  have hreach : (d.reachBelow : ℚ) ≤ 2 := by
    unfold reachBelow
    split_ifs <;> norm_num
  have hone : (1 : ℚ) ≤ d.significand := by exact_mod_cast Nat.one_le_iff_ne_zero.2 hzero
  have htop : (d.significand : ℚ) + 1 ≤ 9007199254740992 := by exact_mod_cast hbits'
  have hnum : 0 < num := by
    rcases Nat.eq_zero_or_pos num with rfl | hpos
    · rw [Nat.cast_zero, zero_div, zero_eq_mul, or_iff_left hscale.ne'] at hu
      linarith
    · exact hpos
  by_cases hcarry : 4503599627370496 ≤ u ∨ d.exponent = leastExponent
  · -- The quotient has the exponent of the number.
    have hexponent : exponentOf num den = d.exponent := by
      refine exponentOf_eq hnum hden hleast ?_ (hcarry.imp_left fun h => ?_)
      · rw [hpow, hu]
        exact mul_lt_mul_of_pos_right (by norm_num; linarith) hscale
      · rw [hpow, hu]
        exact mul_le_mul_of_nonneg_right (by norm_num; exact h) hscale.le
    have hscaled : ((scaled num den d.exponent).1 : ℚ) / (scaled num den d.exponent).2 = u := by
      rw [scaled_div, hu, mul_div_cancel_right₀ _ hscale.ne']
    have hnearest : nearest (scaled num den d.exponent).1 (scaled num den d.exponent).2 =
        d.significand := by
      refine nearest_eq (scaled_pos hden _) ?_ ?_ fun h => ?_ <;> rw [hscaled]
      · linarith
      · exact hhigh
      · exact ⟨by linarith [(hodd h).1], (hodd h).2⟩
    unfold round?
    rw [if_neg (Nat.ne_of_gt hnum)]
    dsimp only
    rw [hexponent, hnearest, if_neg (Nat.ne_of_lt hbits)]
    exact if_pos hgreatest
  · -- The quotient lies just below a power of two, and rounding carries.
    rw [not_or, not_le] at hcarry
    obtain ⟨hbelow, hexponent_ne⟩ := hcarry
    have hsignificand : d.significand = 4503599627370496 := by
      have hge : 4503599627370496 ≤ d.significand := hnormal.resolve_right hexponent_ne
      have hlt : (d.significand : ℚ) < 4503599627370497 := by linarith
      have hlt' : d.significand < 4503599627370497 := by exact_mod_cast hlt
      omega
    have hone_quarter : d.reachBelow = 1 :=
      if_pos ⟨hsignificand, lt_of_le_of_ne hleast (Ne.symm hexponent_ne)⟩
    rw [hone_quarter, hsignificand] at hlow
    push_cast at hlow
    have hexponent : exponentOf num den = d.exponent - 1 := by
      refine exponentOf_eq hnum hden (by omega) ?_ (.inl ?_)
      · rw [show d.exponent - 1 + 53 = d.exponent + 52 by omega, hpow, hu]
        exact mul_lt_mul_of_pos_right (by norm_num; exact hbelow) hscale
      · rw [show d.exponent - 1 + 52 = d.exponent + 51 by omega, hpow, hu]
        exact mul_le_mul_of_nonneg_right (by norm_num; linarith) hscale.le
    have hscaled : ((scaled num den (d.exponent - 1)).1 : ℚ) /
        (scaled num den (d.exponent - 1)).2 = 2 * u := by
      rw [scaled_div, hu, zpow_sub₀ two_ne_zero, zpow_one]
      field_simp
    have hnearest : nearest (scaled num den (d.exponent - 1)).1
        (scaled num den (d.exponent - 1)).2 = Nat.pow 2 53 := by
      refine nearest_eq (scaled_pos hden _) ?_ ?_ fun h => absurd h (by decide)
      all_goals
        rw [hscaled]
        norm_num
        linarith
    unfold round?
    rw [if_neg (Nat.ne_of_gt hnum)]
    dsimp only
    rw [hexponent, hnearest, if_pos rfl, Int.sub_add_cancel]
    have hsame : (⟨negative, Nat.pow 2 52, d.exponent⟩ : Double) = { d with negative } := by
      rw [hsignificand]
    rw [hsame]
    exact if_pos hgreatest

/-! ### Exact operations -/

lemma denominator_pos (d : Double) : 0 < d.denominator := Nat.pow_pos (by decide)

/-- The numerator over the denominator is the size. -/
lemma numerator_div_denominator (d : Double) :
    (d.numerator : ℚ) / d.denominator = d.magnitude := by
  unfold numerator denominator magnitude
  simp only [Nat.pow_eq, Nat.cast_mul, Nat.cast_pow, Nat.cast_ofNat]
  rw [mul_div_assoc, zpow_toNat]

/-- A natural of at most 53 bits is a number. -/
lemma round?_natural {n : ℕ} (hn : n < Nat.pow 2 53) (negative : Bool) :
    ∃ d, round? negative n 1 = some d ∧ d.negative = negative ∧ d.magnitude = n := by
  rcases Nat.eq_zero_or_pos n with rfl | hpos
  · refine ⟨_, rfl, rfl, ?_⟩
    unfold magnitude
    simp
  have hbits : n.log2 < 53 := (Nat.log2_lt (Nat.ne_of_gt hpos)).2 hn
  have hexponent : leastExponent ≤ exponentOf n 1 ∧ exponentOf n 1 ≤ 0 := by
    have hone : (1 : ℕ).log2 = 0 := by decide
    unfold exponentOf leastExponent
    dsimp only
    rw [hone]
    split_ifs <;> omega
  obtain ⟨hleast, hnonpos⟩ := hexponent
  have hscaled : scaled n 1 (exponentOf n 1) = (n * 2 ^ (-exponentOf n 1).toNat, 1) := by
    unfold scaled
    rw [Int.toNat_of_nonpos hnonpos]
    rfl
  have hnearest : ∀ m, nearest m 1 = m := by
    intro m
    unfold nearest
    rw [Nat.div_one, Nat.mod_one]
    exact if_neg (by omega)
  have hpower : (2 : ℚ) ^ (-exponentOf n 1).toNat * 2 ^ exponentOf n 1 = 1 := by
    rw [← zpow_natCast, Int.toNat_of_nonneg (Int.neg_nonneg.2 hnonpos), zpow_neg,
      inv_mul_cancel₀ (by positivity)]
  unfold round?
  rw [if_neg (Nat.ne_of_gt hpos)]
  dsimp only
  rw [hscaled, hnearest]
  dsimp only
  generalize exponentOf n 1 = exponent at *
  by_cases htop : n * 2 ^ (-exponent).toNat = Nat.pow 2 53
  · have hsmall : exponent + 1 ≤ greatestExponent := by
      unfold greatestExponent
      omega
    have hcast : (n : ℚ) * 2 ^ (-exponent).toNat = 2 ^ 53 := by exact_mod_cast htop
    rw [if_pos htop, if_pos hsmall]
    refine ⟨_, rfl, rfl, ?_⟩
    calc ((Nat.pow 2 52 : ℕ) : ℚ) * 2 ^ (exponent + 1) = 2 ^ 53 * 2 ^ exponent := by
          rw [zpow_add₀ two_ne_zero, Nat.pow_eq, Nat.cast_pow]
          push_cast
          ring
      _ = n * (2 ^ (-exponent).toNat * 2 ^ exponent) := by rw [← hcast, mul_assoc]
      _ = n := by rw [hpower, mul_one]
  · have hsmall : exponent ≤ greatestExponent := Int.le_trans hnonpos (by decide)
    rw [if_neg htop, if_pos hsmall]
    refine ⟨_, rfl, rfl, ?_⟩
    show ((n * 2 ^ (-exponent).toNat : ℕ) : ℚ) * 2 ^ exponent = n
    push_cast
    rw [mul_assoc, hpower, mul_one]

/-- Powers of ten up to the twenty-second are numbers. -/
lemma magnitude_tenTo {n : ℕ} (hn : n ≤ 22) :
    (tenTo n).negative = false ∧ (tenTo n).magnitude = 10 ^ n := by
  have hall : ∀ k ≤ 22, (tenTo k).negative = false ∧
      (tenTo k).numerator = Nat.pow 10 k * (tenTo k).denominator := by decide +kernel
  obtain ⟨hnegative, hnumerator⟩ := hall n hn
  have hpos : ((tenTo n).denominator : ℚ) ≠ 0 := by
    exact_mod_cast (denominator_pos (tenTo n)).ne'
  refine ⟨hnegative, ?_⟩
  rw [← numerator_div_denominator, hnumerator, Nat.cast_mul, mul_div_cancel_right₀ _ hpos]
  exact Nat.cast_pow 10 n

/-- Of a word of at most 53 bits and a power of ten up to the twenty-second either way the product
is rounded only once. -/
theorem ofScaled?_eq {d : Double} (hd : d.Valid) (hzero : d.significand ≠ 0) {word : ℕ}
    (hword : word < Nat.pow 2 53) {power : Int} (hpower : power.natAbs ≤ 22)
    (hnear : d.Near (word * 10 ^ power)) (negative : Bool) :
    ofScaled? negative word power = some { d with negative } := by
  obtain ⟨w, hround, hnegative, hw⟩ := round?_natural hword negative
  obtain ⟨hten, hsize⟩ := magnitude_tenTo hpower
  have hsign : (w.negative != (tenTo power.natAbs).negative) = negative := by
    rw [hten, hnegative]
    exact Bool.bne_false negative
  have hsmall : power.natAbs ≤ greatestPower := Nat.le_trans hpower (by decide)
  unfold ofScaled?
  rw [hround, Option.bind_some]
  dsimp only
  rw [if_pos hsmall]
  split_ifs with hup
  · have hproduct : ((w.numerator * (tenTo power.natAbs).numerator : ℕ) : ℚ) /
        (w.denominator * (tenTo power.natAbs).denominator : ℕ) = word * 10 ^ power := by
      push_cast
      rw [mul_div_mul_comm, numerator_div_denominator, numerator_div_denominator, hw, hsize,
        ← zpow_natCast, Int.natAbs_of_nonneg hup]
    unfold times?
    rw [hsign]
    exact round?_eq hd hzero (Nat.mul_pos (denominator_pos _) (denominator_pos _))
      (hproduct ▸ hnear) negative
  · have hquotient : ((w.numerator * (tenTo power.natAbs).denominator : ℕ) : ℚ) /
        (w.denominator * (tenTo power.natAbs).numerator : ℕ) = word * 10 ^ power := by
      push_cast
      rw [mul_div_mul_comm, numerator_div_denominator, ← inv_div, numerator_div_denominator, hw,
        hsize, ← zpow_natCast, ← zpow_neg, Int.ofNat_natAbs_of_nonpos (by omega), neg_neg]
    have hpos : 0 < (tenTo power.natAbs).numerator := by
      rw [Nat.pos_iff_ne_zero]
      intro hnone
      rw [← numerator_div_denominator, hnone, Nat.cast_zero, zero_div] at hsize
      exact absurd hsize.symm (by positivity)
    unfold dividedBy?
    rw [hsign]
    exact round?_eq hd hzero (Nat.mul_pos (denominator_pos _) hpos) (hquotient ▸ hnear) negative

end Double

end LeaseQueue
