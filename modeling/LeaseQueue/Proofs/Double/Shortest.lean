import LeaseQueue.Double.Shortest
import LeaseQueue.Proofs.Double.Rounding
import Mathlib.Data.Nat.Cast.Order.Field

/-!
# Shortest decimals

A decimal stands for a number exactly when it lies in the number's interval
(`Double.standsFor_iff_near`), and every number has a shortest decimal that stands for it
(`Double.standsFor_shortest`): the last grid that is searched is finer than the intervals are wide.
-/

namespace LeaseQueue

/-- The quotient that a decimal is. -/
def Decimal.value (c : Decimal) : ℚ := c.coefficient * 10 ^ c.exponent

namespace Double

variable {d : Double}

/-- A decimal is compared with quarters of the last place of a number as quotients are compared. -/
lemma compareQuarters_eq (d : Double) (c : Decimal) (quarters : ℕ) :
    d.compareQuarters c quarters =
      if c.value < quarters * 2 ^ (d.exponent - 2) then .lt
      else if quarters * 2 ^ (d.exponent - 2) < c.value then .gt else .eq := by
  let k : ℚ := 10 ^ (-c.exponent).toNat * 2 ^ (-(d.exponent - 2)).toNat
  have hk : 0 < k := by positivity
  have hsplit : ∀ {b : ℚ}, 0 < b → ∀ n : ℤ, b ^ n.toNat = b ^ n * b ^ (-n).toNat := fun hb n =>
    (div_eq_iff (pow_pos hb _).ne').1 (zpow_toNat _ n)
  have hleft : ((c.coefficient * Nat.pow 10 c.exponent.toNat *
      Nat.pow 2 (-(d.exponent - 2)).toNat : ℕ) : ℚ) = c.value * k := by
    simp only [Nat.pow_eq, Nat.cast_mul, Nat.cast_pow, Nat.cast_ofNat, Decimal.value, k]
    rw [hsplit (by norm_num : (0 : ℚ) < 10) c.exponent]
    ring
  have hright : ((quarters * Nat.pow 2 (d.exponent - 2).toNat *
      Nat.pow 10 (-c.exponent).toNat : ℕ) : ℚ) = quarters * 2 ^ (d.exponent - 2) * k := by
    simp only [Nat.pow_eq, Nat.cast_mul, Nat.cast_pow, Nat.cast_ofNat, k]
    rw [hsplit (by norm_num : (0 : ℚ) < 2) (d.exponent - 2)]
    ring
  have hcast : ∀ a b : ℕ, a < b ↔ (a : ℚ) < b := fun a b => Nat.cast_lt.symm
  unfold compareQuarters
  dsimp only
  rw [Nat.compare_eq_ite_lt]
  simp only [hcast, hleft, hright, mul_lt_mul_iff_left₀ hk]

/-- A decimal stands for a number other than zero exactly when it lies in the number's interval. -/
theorem standsFor_iff_near (hzero : d.significand ≠ 0) {c : Decimal} :
    standsFor c d = true ↔ d.Near c.value := by
  have hreach : d.reachBelow ≤ 4 * d.significand := by
    unfold reachBelow
    split_ifs <;> omega
  have hlow : ((4 * d.significand - d.reachBelow : ℕ) : ℚ) = 4 * d.significand - d.reachBelow := by
    rw [Nat.cast_sub hreach]
    push_cast
    rfl
  have hhigh : ((4 * d.significand + 2 : ℕ) : ℚ) = 4 * d.significand + 2 := by
    push_cast
    rfl
  have htest : standsFor c d =
      ((d.compareQuarters c (4 * d.significand - d.reachBelow) == .gt ||
          decide (d.significand % 2 = 0) &&
            d.compareQuarters c (4 * d.significand - d.reachBelow) == .eq) &&
        (d.compareQuarters c (4 * d.significand + 2) == .lt ||
          decide (d.significand % 2 = 0) &&
            d.compareQuarters c (4 * d.significand + 2) == .eq)) := rfl
  have hnear : d.Near c.value ↔
      ((4 * d.significand - d.reachBelow) * (2 : ℚ) ^ (d.exponent - 2) ≤ c.value ∧
        (d.significand % 2 = 1 →
          (4 * d.significand - d.reachBelow) * (2 : ℚ) ^ (d.exponent - 2) < c.value)) ∧
      (c.value ≤ (4 * d.significand + 2) * (2 : ℚ) ^ (d.exponent - 2) ∧
        (d.significand % 2 = 1 → c.value < (4 * d.significand + 2) * (2 : ℚ) ^ (d.exponent - 2))) :=
    ⟨fun ⟨hl, hh, ho⟩ => ⟨⟨hl, fun h => (ho h).1⟩, hh, fun h => (ho h).2⟩,
      fun ⟨⟨hl, hlo⟩, hh, hho⟩ => ⟨hl, hh, fun h => ⟨hlo h, hho h⟩⟩⟩
  rw [htest, hnear, Bool.and_eq_true, compareQuarters_eq, compareQuarters_eq, hlow, hhigh]
  generalize (4 * d.significand - d.reachBelow) * (2 : ℚ) ^ (d.exponent - 2) = low
  generalize (4 * d.significand + 2) * (2 : ℚ) ^ (d.exponent - 2) = high
  rcases Nat.mod_two_eq_zero_or_one d.significand with hparity | hparity
  all_goals
    refine and_congr ?_ ?_
    · rcases lt_trichotomy c.value low with h | h | h <;>
        simp [hparity, h, h.le, h.not_gt, ← not_lt]
    · rcases lt_trichotomy c.value high with h | h | h <;>
        simp [hparity, h, h.le, h.not_gt, ← not_lt]

/-- No number but zero has the decimal zero. -/
lemma coefficient_ne_zero_of_standsFor (hzero : d.significand ≠ 0) {c : Decimal}
    (hc : standsFor c d = true) : c.coefficient ≠ 0 := by
  intro hnone
  have hpos := ((standsFor_iff_near hzero).1 hc).pos hzero
  unfold Decimal.value at hpos
  rw [hnone, Nat.cast_zero, zero_mul] at hpos
  exact lt_irrefl 0 hpos

/-! ### The search -/

/-- What is found on a grid rounds to the number. -/
lemma standsFor_of_onGrid? {exponent : Int} {c : Decimal} (h : d.onGrid? exponent = some c) :
    standsFor c d = true := by
  unfold onGrid? at h
  dsimp only at h
  split at h
  · rename_i hlower hupper
    split_ifs at h <;> exact Option.some.inj h ▸ ‹_›
  · rename_i hlower _
    exact Option.some.inj h ▸ hlower
  · rename_i _ hupper
    exact Option.some.inj h ▸ hupper
  · cases h

/-- The shortest decimal of a number rounds to it, unless no grid has one that does. -/
lemma shortest_spec (d : Double) : standsFor d.shortest d = true ∨
    d.shortest = ⟨0, 0⟩ ∧ ∀ n < 20, d.onGrid? (d.places - (n : ℕ)) = none := by
  unfold shortest
  cases hfound : (List.range 20).findSome? fun n : Nat => d.onGrid? (d.places - n) with
  | none =>
    rw [List.findSome?_eq_none_iff] at hfound
    exact .inr ⟨rfl, fun n hn => hfound n (List.mem_range.2 hn)⟩
  | some c =>
    obtain ⟨n, -, hgrid⟩ := List.exists_of_findSome?_eq_some hfound
    exact .inl (standsFor_of_onGrid? hgrid)

/-- The exponent of the last grid for a number with 53 bits. -/
def lastGrid (exponent : Int) : Int := (53 + exponent) * 30103 / 100000 - 18

/-- The steps of that grid are less than half the last place of the number: `10 ^ 31` lies below
`2 ^ 103`, and `10 ^ 28` above `2 ^ 93`. -/
lemma fine_lastGrid {exponent : Int} (hleast : leastExponent ≤ exponent)
    (hgreatest : exponent ≤ greatestExponent) :
    (10 : ℚ) ^ lastGrid exponent < 2 ^ (exponent - 1) := by
  have hpow : ∀ (b : ℚ) (n : ℕ) (k : Int), (b ^ k) ^ n = (b ^ n) ^ k := by
    intro b n k
    rw [← zpow_natCast, ← zpow_natCast, ← zpow_mul, ← zpow_mul, mul_comm]
  have htwo : ∀ (n : ℕ) (k : Int), ((2 : ℚ) ^ n) ^ k = 2 ^ (n * k) := by
    intro n k
    rw [zpow_mul, zpow_natCast]
  simp only [leastExponent, greatestExponent] at hleast hgreatest
  rcases Int.le_total 0 (lastGrid exponent) with hsign | hsign
  · refine lt_of_pow_lt_pow_left₀ 31 (by positivity) ?_
    calc ((10 : ℚ) ^ lastGrid exponent) ^ 31 = (10 ^ 31) ^ lastGrid exponent := hpow _ _ _
      _ ≤ (2 ^ 103) ^ lastGrid exponent := zpow_le_zpow_left₀ hsign (by norm_num) (by norm_num)
      _ = 2 ^ (103 * lastGrid exponent) := htwo 103 _
      _ < 2 ^ (31 * (exponent - 1)) := by
          refine zpow_lt_zpow_right₀ one_lt_two ?_
          unfold lastGrid at hsign ⊢
          omega
      _ = (2 ^ (exponent - 1)) ^ 31 := by rw [hpow, htwo]; rfl
  · refine lt_of_pow_lt_pow_left₀ 28 (by positivity) ?_
    calc ((10 : ℚ) ^ lastGrid exponent) ^ 28 = (10 ^ 28) ^ lastGrid exponent := hpow _ _ _
      _ = ((10 ^ 28) ^ (-lastGrid exponent))⁻¹ := by rw [zpow_neg, inv_inv]
      _ ≤ ((2 ^ 93) ^ (-lastGrid exponent))⁻¹ :=
          inv_anti₀ (by positivity)
            (zpow_le_zpow_left₀ (Int.neg_nonneg.2 hsign) (by norm_num) (by norm_num))
      _ = 2 ^ (93 * lastGrid exponent) := by rw [← zpow_neg, neg_neg]; exact htwo 93 _
      _ < 2 ^ (28 * (exponent - 1)) := by
          refine zpow_lt_zpow_right₀ one_lt_two ?_
          unfold lastGrid at hsign ⊢
          omega
      _ = (2 ^ (exponent - 1)) ^ 28 := by rw [hpow, htwo]; rfl

/-- The last grid for a number is at least as fine. -/
lemma places_sub_le (hd : d.Valid) : d.places - 19 ≤ lastGrid d.exponent := by
  have hbits : d.significand.log2 < 53 := by
    rcases Nat.eq_zero_or_pos d.significand with hzero | hpos
    · rw [hzero]
      decide
    · exact (Nat.log2_lt (Nat.ne_of_gt hpos)).2 hd.2.2.1
  unfold places lastGrid
  omega

/-- Every number but zero has a shortest decimal that stands for it. -/
theorem standsFor_shortest (hd : d.Valid) (hzero : d.significand ≠ 0) :
    standsFor d.shortest d = true := by
  obtain ⟨grid, hgrid⟩ : ∃ grid : Int, d.places - (19 : ℕ) = grid := ⟨_, rfl⟩
  have hfine : (10 : ℚ) ^ grid < 2 ^ (d.exponent - 1) :=
    lt_of_le_of_lt (zpow_le_zpow_right₀ (by norm_num) (hgrid ▸ places_sub_le hd))
      (fine_lastGrid hd.1 hd.2.1)
  have hstep : (0 : ℚ) < 10 ^ grid := by positivity
  -- The decimal above the number on the last grid lies in the interval.
  let num := d.numerator * Nat.pow 10 (-grid).toNat
  let den := d.denominator * Nat.pow 10 grid.toNat
  have hden : 0 < den := Nat.mul_pos d.denominator_pos (Nat.pow_pos (by decide))
  have hquotient : (num : ℚ) / den = d.magnitude / 10 ^ grid := by
    have hneg := zpow_toNat 10 (-grid)
    rw [neg_neg] at hneg
    simp only [num, den, Nat.pow_eq, Nat.cast_mul, Nat.cast_pow, Nat.cast_ofNat]
    rw [mul_div_mul_comm, numerator_div_denominator, hneg, zpow_neg, div_eq_mul_inv _ (10 ^ grid)]
  have hupper : standsFor ⟨num / den + 1, grid⟩ d = true := by
    have hdown : d.magnitude < (num / den + 1 : ℕ) * 10 ^ grid := by
      rw [← div_lt_iff₀ hstep, ← hquotient, div_lt_iff₀ (by exact_mod_cast hden)]
      exact_mod_cast Nat.lt_mul_of_div_lt (Nat.lt_succ_self _) hden
    have hup : ((num / den + 1 : ℕ) : ℚ) * 10 ^ grid ≤ d.magnitude + 10 ^ grid := by
      have hfloor : ((num / den : ℕ) : ℚ) ≤ d.magnitude / 10 ^ grid := hquotient ▸ Nat.cast_div_le
      rw [le_div_iff₀ hstep] at hfloor
      push_cast
      linarith
    have hlast : (d.magnitude : ℚ) = 4 * d.significand * 2 ^ (d.exponent - 2) := by
      unfold magnitude
      rw [zpow_sub₀ two_ne_zero]
      ring
    have hhalf : (2 : ℚ) ^ (d.exponent - 1) = 2 * 2 ^ (d.exponent - 2) := by
      rw [zpow_sub₀ two_ne_zero, zpow_sub₀ two_ne_zero]
      ring
    have hreach : 0 ≤ (d.reachBelow : ℚ) * 2 ^ (d.exponent - 2) := by positivity
    have hvalue : Decimal.value ⟨num / den + 1, grid⟩ = (num / den + 1 : ℕ) * 10 ^ grid := rfl
    rw [standsFor_iff_near hzero]
    have hinside : (4 * d.significand - d.reachBelow) * (2 : ℚ) ^ (d.exponent - 2) <
          Decimal.value ⟨num / den + 1, grid⟩ ∧
        Decimal.value ⟨num / den + 1, grid⟩ <
          (4 * d.significand + 2) * (2 : ℚ) ^ (d.exponent - 2) := by
      rw [hvalue]
      exact ⟨by linarith, by linarith⟩
    exact ⟨hinside.1.le, hinside.2.le, fun _ => hinside⟩
  have hfound : d.onGrid? grid ≠ none := by
    intro hnone
    unfold onGrid? at hnone
    dsimp only at hnone
    split at hnone
    case h_4 hbelow =>
      rw [hupper] at hbelow
      cases hbelow
    all_goals cases hnone
  exact d.shortest_spec.resolve_right fun h => hfound (hgrid ▸ h.2 19 (by decide))

end Double

end LeaseQueue
