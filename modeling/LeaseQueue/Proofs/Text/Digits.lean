import LeaseQueue.Text.Digits
import Mathlib.Tactic.IntervalCases
import Mathlib.Tactic.Lemma

/-!
# Digits that are read back

A number is written in as many decimal digits as it needs or in a fixed width, decimal or
hexadecimal, and each of these forms is read back as the number (`Digits.toNat_ofNat`,
`Digits.toNat_fixed`, `Digits.hexToNat?_hexFixed`).  A run of digits at the head of a text ends
where the next character is none (`Digits.Ends`).
-/

namespace LeaseQueue.Digits

/-- Whether a text does not go on with a digit. -/
def Ends (rest : List Char) : Prop := ∀ c ∈ rest.head?, c.isDigit = false

/-! ### Single digits -/

/-- A character is a digit exactly when its code lies among ten. -/
lemma isDigit_iff {c : Char} : c.isDigit = true ↔ 48 ≤ c.toNat ∧ c.toNat ≤ 57 := by
  rw [Char.isDigit, Bool.and_eq_true, decide_eq_true_eq, decide_eq_true_eq]
  rfl

/-- The code of the last digit. -/
lemma toNat_lastDigit (n : ℕ) : (lastDigit n).toNat = 48 + n % 10 := by
  have hlt : n % 10 < 10 := Nat.mod_lt n (by decide)
  unfold lastDigit
  interval_cases n % 10 <;> rfl

lemma isDigit_lastDigit (n : ℕ) : (lastDigit n).isDigit = true := by
  have hlt : n % 10 < 10 := Nat.mod_lt n (by decide)
  rw [isDigit_iff, toNat_lastDigit]
  omega

/-- A hexadecimal digit is read as its value. -/
lemma hexValue?_hexDigit {d : ℕ} (hd : d < 16) : hexValue? (hexDigit d) = some d := by
  interval_cases d <;> rfl

/-! ### Decimal numbers -/

/-- A further digit behind a number. -/
lemma toNat_concat (ds : List Char) (c : Char) :
    toNat (ds ++ [c]) = 10 * toNat ds + (c.toNat - 48) := by
  unfold toNat
  rw [List.foldl_append]
  rfl

/-- Zeros before a number count for nothing. -/
lemma toNat_replicate_append (n : ℕ) (ds : List Char) :
    toNat (List.replicate n '0' ++ ds) = toNat ds := by
  induction n with
  | zero => rfl
  | succ n ih => exact ih

/-- Zeros behind a number multiply it. -/
lemma toNat_append_replicate (ds : List Char) (n : ℕ) :
    toNat (ds ++ List.replicate n '0') = toNat ds * Nat.pow 10 n := by
  induction n with
  | zero =>
    rw [List.replicate_zero, List.append_nil]
    exact (Nat.mul_one _).symm
  | succ n ih =>
    rw [List.replicate_succ', ← List.append_assoc, toNat_concat, ih]
    show 10 * (toNat ds * Nat.pow 10 n) + 0 = toNat ds * (Nat.pow 10 n * 10)
    rw [Nat.add_zero, Nat.mul_comm 10, Nat.mul_assoc]

lemma length_fixed (width n : ℕ) : (fixed width n).length = width := by
  induction width generalizing n with
  | zero => rfl
  | succ width ih => rw [fixed, List.length_append, ih, List.length_singleton]

lemma isDigit_of_mem_fixed {width n : ℕ} : ∀ c ∈ fixed width n, c.isDigit = true := by
  induction width generalizing n with
  | zero => exact fun c hc => absurd hc List.not_mem_nil
  | succ width ih =>
    intro c hc
    rcases List.mem_append.1 hc with hc | hc
    · exact ih c hc
    · rw [List.mem_singleton.1 hc]
      exact isDigit_lastDigit n

/-- A number that the width suffices for is read back. -/
lemma toNat_fixed {width n : ℕ} (h : n < Nat.pow 10 width) : toNat (fixed width n) = n := by
  induction width generalizing n with
  | zero =>
    obtain rfl : n = 0 := Nat.lt_one_iff.1 h
    rfl
  | succ width ih =>
    have hlt : n / 10 < Nat.pow 10 width := Nat.div_lt_of_lt_mul (by rwa [Nat.mul_comm])
    rw [fixed, toNat_concat, ih hlt, toNat_lastDigit]
    omega

lemma isDigit_of_mem_ofNat {n : ℕ} : ∀ c ∈ ofNat n, c.isDigit = true :=
  fun _ hc => Nat.isDigit_of_mem_toDigits (by decide) (by decide) hc

lemma ofNat_ne_nil (n : ℕ) : ofNat n ≠ [] := Nat.toDigits_ne_nil

/-- A number in as many digits as it needs is read back. -/
lemma toNat_ofNat (n : ℕ) : toNat (ofNat n) = n :=
  calc toNat (ofNat n) = Nat.ofDigitChars 10 (Nat.toDigits 10 n) 0 :=
        (Nat.ofDigitChars_eq_foldl ..).symm
    _ = n := Nat.ofDigitChars_ten_toDigits

/-- The digits of a number are nothing but a number. -/
lemma toNat?_ofNat (n : ℕ) : toNat? (ofNat n) = some n := by
  have hdigits : (ofNat n).all Char.isDigit = true := List.all_eq_true.2 isDigit_of_mem_ofNat
  have hnonempty : (ofNat n).isEmpty = false := List.isEmpty_eq_false_iff.2 (ofNat_ne_nil n)
  unfold toNat?
  rw [hdigits, hnonempty, toNat_ofNat]
  rfl

/-- No number but zero begins with a zero. -/
lemma head?_ofNat {n : ℕ} (hn : 0 < n) : (ofNat n).head? ≠ some '0' := by
  induction n using Nat.strongRecOn with
  | ind n ih =>
    unfold ofNat
    rw [Nat.toDigits_eq_if (by decide)]
    split_ifs with hlt
    · interval_cases n <;> decide
    · have hhead := ih (n / 10) (by omega) (by omega)
      unfold ofNat at hhead
      cases hdigits : Nat.toDigits 10 (n / 10) with
      | nil => exact absurd hdigits Nat.toDigits_ne_nil
      | cons c cs =>
        rw [hdigits] at hhead
        exact hhead

/-! ### Hexadecimal numbers -/

lemma length_hexFixed (width n : ℕ) : (hexFixed width n).length = width := by
  induction width generalizing n with
  | zero => rfl
  | succ width ih => rw [hexFixed, List.length_append, ih, List.length_singleton]

/-- A number that the width suffices for is read back. -/
lemma hexToNat?_hexFixed {width n : ℕ} (h : n < Nat.pow 16 width) :
    hexToNat? (hexFixed width n) = some n := by
  induction width generalizing n with
  | zero =>
    obtain rfl : n = 0 := Nat.lt_one_iff.1 h
    rfl
  | succ width ih =>
    have hlt : n / 16 < Nat.pow 16 width := Nat.div_lt_of_lt_mul (by rwa [Nat.mul_comm])
    have hdigits := ih hlt
    unfold hexToNat? at *
    rw [hexFixed, List.foldlM_append, hdigits]
    show (hexValue? (hexDigit (n % 16))).map (16 * (n / 16) + ·) >>= _ = some n
    rw [hexValue?_hexDigit (Nat.mod_lt n (by decide))]
    show some (16 * (n / 16) + n % 16) = some n
    rw [Nat.div_add_mod]

/-! ### Runs of digits -/

section Runs

variable {ds rest : List Char}

/-- What does not go on with a digit has none at its head. -/
lemma Ends.takeWhile (h : Ends rest) : rest.takeWhile Char.isDigit = [] := by
  cases rest with
  | nil => rfl
  | cons c rest => exact List.takeWhile_cons_of_neg (by rw [h c rfl]; exact Bool.false_ne_true)

lemma Ends.dropWhile (h : Ends rest) : rest.dropWhile Char.isDigit = rest := by
  cases rest with
  | nil => rfl
  | cons c rest => exact List.dropWhile_cons_of_neg (by rw [h c rfl]; exact Bool.false_ne_true)

/-- Digits that nothing lengthens are a run. -/
lemma run_append (hds : ∀ c ∈ ds, c.isDigit = true) (hrest : Ends rest) :
    run (ds ++ rest) = (ds, rest) := by
  unfold run
  rw [List.takeWhile_append_of_pos hds, List.dropWhile_append_of_pos hds, hrest.takeWhile,
    hrest.dropWhile, List.append_nil]

/-- As many digits as are wanted, or fewer that nothing lengthens, are taken for a number. -/
lemma upTo?_append {most : ℕ} (hds : ∀ c ∈ ds, c.isDigit = true) (hne : ds ≠ [])
    (hlength : ds.length ≤ most) (hrest : ds.length = most ∨ Ends rest) :
    upTo? most (ds ++ rest) = some (toNat ds, rest) := by
  have hafter : (rest.take (most - ds.length)).takeWhile Char.isDigit = [] := by
    rcases hrest with hmost | hends
    · rw [hmost, Nat.sub_self]
      rfl
    · refine Ends.takeWhile fun c hc => hends c ?_
      cases hleft : most - ds.length with
      | zero =>
        rw [hleft] at hc
        cases hc
      | succ left =>
        rw [hleft] at hc
        cases rest with
        | nil => cases hc
        | cons d rest => exact hc
  have htaken : ((ds ++ rest).take most).takeWhile Char.isDigit = ds := by
    rw [List.take_append, List.take_of_length_le hlength, List.takeWhile_append_of_pos hds, hafter,
      List.append_nil]
  unfold upTo?
  rw [htaken]
  dsimp only
  rw [List.isEmpty_eq_false_iff.2 hne, List.drop_left]
  rfl

end Runs

end LeaseQueue.Digits
