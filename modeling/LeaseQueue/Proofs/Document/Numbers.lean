import LeaseQueue.Proofs.Document.Lexemes

/-!
# Numbers that are read back

The digits of a written number make a word, to which a power of ten is applied
(`Number.Parts.word`, `Number.Parts.scale`); for a double-precision number that is its shortest
decimal (`Decimal.value_parts`).  The reader rounds the word, the power and the result, so it may
miss the number.  It does not where only the result needs rounding: a number for which few digits
are written is read back (`Number.readsBack_of_brief`).  Nothing is lost in writing, since no two
numbers are written alike (`Number.write_injective`).
-/

namespace LeaseQueue

namespace Number.Parts

/-- All digits of a number as one word. -/
def word (p : Parts) : ℕ := Digits.toNat (p.whole ++ p.places.getD [])

/-- The power of ten that is applied to the word. -/
def scale (p : Parts) : Int := p.power.getD 0 - (p.places.getD []).length

/-- Further digits make a word no less. -/
lemma le_foldl (ds : List Char) (word : ℕ) :
    word ≤ ds.foldl (fun n c => 10 * n + (c.toNat - 48)) word := by
  induction ds generalizing word with
  | nil => exact Nat.le_refl word
  | cons c ds ih => exact Nat.le_trans (by omega) (ih (10 * word + (c.toNat - 48)))

/-- Digits that fit a word are all taken. -/
lemma fillWord_eq {ds : List Char} {word : ℕ}
    (h : ds.foldl (fun n c => 10 * n + (c.toNat - 48)) word ≤ greatestInteger.toNat) :
    fillWord word ds = (ds.foldl (fun n c => 10 * n + (c.toNat - 48)) word, 0) := by
  induction ds generalizing word with
  | nil => rfl
  | cons c ds ih =>
    have hdigit : 10 * word + Digits.toNat [c] = 10 * word + (c.toNat - 48) := by
      show 10 * word + (10 * 0 + (c.toNat - 48)) = _
      omega
    have hlonger : 10 * word + (c.toNat - 48) ≤ greatestInteger.toNat :=
      Nat.le_trans (le_foldl ds _) h
    rw [fillWord, hdigit, if_pos hlonger]
    exact ih h

/-- Parts with a point or an exponent stand for their word times the power of ten, rounded. -/
lemma number?_eq_ofScaled? {p : Parts} (hpoint : p.places.isSome ∨ p.power.isSome)
    (hword : p.word ≤ greatestInteger.toNat) (negative : Bool) :
    p.number? negative = (Double.ofScaled? negative p.word p.scale).map .double := by
  have hfold : p.word = (p.places.getD []).foldl (fun n c => 10 * n + (c.toNat - 48))
      (Digits.toNat p.whole) := by
    unfold word Digits.toNat
    rw [List.foldl_append]
  have hwhole : Digits.toNat p.whole ≤ greatestInteger.toNat :=
    Nat.le_trans (le_foldl _ _) (hfold ▸ hword)
  have hfirst : fillWord 0 p.whole = (Digits.toNat p.whole, 0) := fillWord_eq hwhole
  have hsecond : fillWord (Digits.toNat p.whole) (p.places.getD []) = (p.word, 0) := by
    rw [hfold]
    exact fillWord_eq (hfold ▸ hword)
  have hnone : (p.places.isNone && p.power.isNone) = false := by
    rcases hpoint with h | h
    · rw [Option.isNone_eq_false_iff.2 h]
      rfl
    · rw [Option.isNone_eq_false_iff.2 h, Bool.and_false]
  unfold number? ofParts?
  dsimp only
  rw [hnone, Bool.false_and, Bool.false_and, if_neg Bool.false_ne_true, hfirst]
  dsimp only
  rw [hsecond]
  dsimp only
  congr 2
  unfold scale
  omega

end Number.Parts

/-! ### Double-precision numbers -/

/-- The digits of a written decimal, with the power of ten applied to them, are the decimal. -/
lemma Decimal.value_parts (c : Decimal) : (c.parts.word : ℚ) * 10 ^ c.parts.scale = c.value := by
  have hdigits : Digits.toNat (Digits.ofNat c.coefficient) = c.coefficient := Digits.toNat_ofNat _
  have hsame : ∀ {word : ℕ} {scale : Int}, word = c.coefficient → scale = c.exponent →
      (word : ℚ) * 10 ^ scale = c.value := by
    rintro _ _ rfl rfl
    rfl
  have hlength := List.length_pos_iff.2 (Digits.ofNat_ne_nil c.coefficient)
  unfold parts
  dsimp only
  split_ifs with hwhole hinside hbehind hsingle
  · -- The zeros before the point and the one behind it are part of the word.
    have hword : Digits.toNat (Digits.ofNat c.coefficient ++
        List.replicate c.exponent.toNat '0' ++ ['0']) =
          c.coefficient * Nat.pow 10 (c.exponent.toNat + 1) := by
      rw [List.append_assoc, ← List.replicate_succ', Digits.toNat_append_replicate, hdigits]
    have hpower : (10 : ℚ) ^ (c.exponent.toNat + 1) * 10 ^ (-1 : Int) = 10 ^ c.exponent := by
      rw [← zpow_natCast, ← zpow_add₀ (by norm_num)]
      congr 1
      omega
    show ((Digits.toNat (Digits.ofNat c.coefficient ++ List.replicate c.exponent.toNat '0' ++
      ['0']) : ℕ) : ℚ) * 10 ^ (-1 : Int) = c.coefficient * 10 ^ c.exponent
    rw [hword, Nat.cast_mul, Nat.pow_eq, Nat.cast_pow, mul_assoc]
    exact congrArg _ hpower
  · refine hsame ?_ ?_
    · unfold Number.Parts.word
      dsimp only [Option.getD_some]
      rw [List.take_append_drop, hdigits]
    · unfold Number.Parts.scale
      dsimp only [Option.getD_some, Option.getD_none]
      rw [List.length_drop]
      unfold point at *
      omega
  · refine hsame ?_ ?_
    · unfold Number.Parts.word
      dsimp only [Option.getD_some]
      rw [List.singleton_append, ← List.cons_append, ← List.replicate_succ,
        Digits.toNat_replicate_append, hdigits]
    · unfold Number.Parts.scale
      dsimp only [Option.getD_some, Option.getD_none]
      rw [List.length_append, List.length_replicate]
      unfold point at *
      omega
  · have hnone : (Digits.ofNat c.coefficient).drop 1 = [] := List.isEmpty_iff.1 hsingle
    refine hsame ?_ ?_
    · unfold Number.Parts.word
      dsimp only [Option.getD_none]
      rw [← hnone, List.take_append_drop, hdigits]
    · have hone := congrArg List.length hnone
      rw [List.length_drop, List.length_nil] at hone
      unfold Number.Parts.scale point
      dsimp only [Option.getD_some, Option.getD_none, List.length_nil]
      omega
  · refine hsame ?_ ?_
    · unfold Number.Parts.word
      dsimp only [Option.getD_some]
      rw [List.take_append_drop, hdigits]
    · unfold Number.Parts.scale point
      dsimp only [Option.getD_some]
      rw [List.length_drop]
      omega

/-- A decimal is written with a point or an exponent. -/
lemma Decimal.parts_isSome (c : Decimal) : c.parts.places.isSome ∨ c.parts.power.isSome := by
  unfold parts
  dsimp only
  split_ifs <;> simp

namespace Number

variable {d : Double}

/-- No double-precision number is written like an integer. -/
lemma parts_isSome (d : Double) :
    (double d).parts.places.isSome ∨ (double d).parts.power.isSome := by
  unfold parts Double.parts
  dsimp only
  split_ifs
  · exact .inl rfl
  · exact d.shortest.parts_isSome

/-- A number is near to what is written for it. -/
lemma near_parts (hd : d.Valid) (hzero : d.significand ≠ 0) :
    d.Near ((double d).parts.word * 10 ^ (double d).parts.scale) := by
  have hparts : (double d).parts = d.shortest.parts :=
    if_neg (by unfold Double.isZero; simpa using hzero)
  rw [hparts, d.shortest.value_parts, ← Double.standsFor_iff_near hzero]
  exact Double.standsFor_shortest hd hzero

/-- Nothing but its sign tells a zero from another. -/
lemma eq_zero_of_significand (hd : d.Valid) (hzero : d.significand = 0) :
    d = { Double.zero with negative := d.negative } := by
  obtain ⟨negative, significand, exponent⟩ := d
  obtain rfl : significand = 0 := hzero
  obtain rfl : exponent = Double.leastExponent :=
    hd.2.2.2.resolve_left (by decide : ¬Nat.pow 2 52 ≤ 0)
  rfl

/-- Whether few digits are written for a number: together they make a word of 53 bits, and a power
of ten up to the twenty-second either way is applied to it. -/
def Brief (n : Number) : Prop := n.parts.word < Nat.pow 2 53 ∧ n.parts.scale.natAbs ≤ 22

instance (n : Number) : Decidable n.Brief := inferInstanceAs (Decidable (_ ∧ _))

/-- A double-precision number for which few digits are written is read back. -/
theorem readsBack_of_brief (hd : d.Valid) (hbrief : (double d).Brief) :
    (double d).ReadsBack := by
  obtain ⟨hword, hscale⟩ := hbrief
  by_cases hzero : d.significand = 0
  · rw [eq_zero_of_significand hd hzero]
    cases d.negative <;> decide +kernel
  · have hsmall : (double d).parts.word ≤ greatestInteger.toNat :=
      Nat.le_trans (Nat.le_of_lt hword) (by decide)
    unfold ReadsBack
    rw [reread?_eq, Parts.number?_eq_ofScaled? (parts_isSome d) hsmall,
      Double.ofScaled?_eq hd hzero hword hscale (near_parts hd hzero)]
    rfl

/-! ### Numbers as they are written -/

/-- Parts that are written alike are the same. -/
lemma Parts.write_injective {p q : Parts} (hp : p.Proper) (hq : q.Proper)
    (h : p.write = q.write) : p = q := by
  have htext : ∀ r : Parts,
      r.write = r.whole ++ (writePlaces r.places ++ (writePower r.power ++ [])) := by
    intro r
    rw [write, List.append_nil, List.append_assoc]
  have hpwhole := Reader.readWhole?_append hp
    (Reader.ends_writePlaces Reader.stops_nil p.places p.power)
  have hqwhole := Reader.readWhole?_append hq
    (Reader.ends_writePlaces Reader.stops_nil q.places q.power)
  rw [← htext] at hpwhole hqwhole
  rw [h, hqwhole] at hpwhole
  obtain ⟨hwhole, hrest⟩ := Prod.mk.inj (Option.some.inj hpwhole)
  have hpplaces := Reader.readFraction?_append hp Reader.stops_nil
  rw [← hrest, Reader.readFraction?_append hq Reader.stops_nil] at hpplaces
  obtain ⟨hplaces, hrest⟩ := Prod.mk.inj (Option.some.inj hpplaces)
  have hppower := Reader.readExponent?_append Reader.stops_nil p.power
  rw [← hrest, Reader.readExponent?_append Reader.stops_nil] at hppower
  obtain ⟨hpower, -⟩ := Prod.mk.inj (Option.some.inj hppower)
  obtain ⟨whole, places, power⟩ := p
  obtain rfl : q.whole = whole := hwhole
  obtain rfl : q.places = places := hplaces
  obtain rfl : q.power = power := hpower
  rfl

/-- Numbers that are written alike have the same sign and the same parts. -/
lemma parts_eq_of_write_eq {m n : Number} (h : m.write = n.write) :
    m.isNegative = n.isNegative ∧ m.parts = n.parts := by
  have hunsigned : ∀ (k : Number) (cs : List Char), k.parts.write ≠ '-' :: cs := by
    intro k cs hwrite
    have hproper := k.proper_parts
    cases hwhole : k.parts.whole with
    | nil => exact hproper.whole_ne hwhole
    | cons c ds =>
      rw [Parts.write, hwhole] at hwrite
      have hdigit := hproper.whole_digits c (hwhole ▸ List.mem_cons_self)
      rw [(List.cons.inj hwrite).1] at hdigit
      exact absurd hdigit (by decide)
  have hparts : m.parts.write = n.parts.write → m.parts = n.parts :=
    Parts.write_injective m.proper_parts n.proper_parts
  rw [m.write_eq, n.write_eq] at h
  cases hm : m.isNegative <;> cases hn : n.isNegative <;>
    simp only [hm, hn, if_true, if_false, Bool.false_eq_true] at h
  · exact ⟨rfl, hparts h⟩
  · exact absurd h (hunsigned m _)
  · exact absurd h.symm (hunsigned n _)
  · exact ⟨rfl, hparts (List.cons.inj h).2⟩

/-- A double-precision number is known by its sign and its parts. -/
lemma eq_of_parts_eq {e : Double} (hd : d.Valid) (he : e.Valid)
    (hsign : d.negative = e.negative) (hparts : (double d).parts = (double e).parts) : d = e := by
  have hnone : ∀ {d e : Double}, d.significand = 0 → e.significand ≠ 0 → e.Valid →
      (double d).parts ≠ (double e).parts := by
    intro d e hzero hnonzero he hparts
    have hzeros : (double d).parts = { whole := ['0'], places := some ['0'] } :=
      if_pos (by unfold Double.isZero; simpa using hzero)
    have hpos := (near_parts he hnonzero).pos hnonzero
    rw [← hparts, hzeros] at hpos
    have hword : ((Parts.word { whole := ['0'], places := some ['0'] } : ℕ) : ℚ) = 0 := rfl
    rw [hword, zero_mul] at hpos
    exact lt_irrefl 0 hpos
  by_cases hd0 : d.significand = 0
  · by_cases he0 : e.significand = 0
    · rw [eq_zero_of_significand hd hd0, eq_zero_of_significand he he0, hsign]
    · exact absurd hparts (hnone hd0 he0 he)
  · by_cases he0 : e.significand = 0
    · exact absurd hparts.symm (hnone he0 hd0 hd)
    · -- Both are what the same quotient rounds to.
      obtain ⟨p, hp⟩ : ∃ p, (double d).parts = p := ⟨_, rfl⟩
      have hquotient : ((p.word * 10 ^ p.scale.toNat : ℕ) : ℚ) / (10 ^ (-p.scale).toNat : ℕ) =
          p.word * 10 ^ p.scale := by
        push_cast
        rw [mul_div_assoc, zpow_toNat]
      have hneard := near_parts hd hd0
      have hneare := near_parts he he0
      rw [← hparts] at hneare
      rw [hp, ← hquotient] at hneard hneare
      have hround := Double.round?_eq hd hd0 (by positivity) hneard false
      rw [Double.round?_eq he he0 (by positivity) hneare false] at hround
      have hsame := Option.some.inj hround
      exact Double.ext hsign (congrArg Double.significand hsame).symm
        (congrArg Double.exponent hsame).symm

/-- Whether it is a number that there is: any integer, but a double-precision number only as it is
written in its one way. -/
def Valid : Number → Prop
  | integer _ => True
  | double d => d.Valid

/-- Numbers that are written alike are the same. -/
theorem write_injective {m n : Number} (hm : m.Valid) (hn : n.Valid) (h : m.write = n.write) :
    m = n := by
  obtain ⟨hsign, hparts⟩ := parts_eq_of_write_eq h
  cases m with
  | integer a =>
    cases n with
    | integer b =>
      have hsize : a.natAbs = b.natAbs := by
        rw [← Digits.toNat_ofNat a.natAbs, ← Digits.toNat_ofNat b.natAbs]
        exact congrArg (fun p => Digits.toNat p.whole) hparts
      have hnegative : a < 0 ↔ b < 0 := decide_eq_decide.1 hsign
      exact congrArg integer (by omega)
    | double e =>
      have hpoint := parts_isSome e
      rw [← hparts] at hpoint
      rcases hpoint with h | h <;> cases h
  | double d =>
    cases n with
    | integer b =>
      have hpoint := parts_isSome d
      rw [hparts] at hpoint
      rcases hpoint with h | h <;> cases h
    | double e => exact congrArg double (eq_of_parts_eq hm hn hsign hparts)

end Number

end LeaseQueue
