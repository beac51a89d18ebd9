/-!
# Double-precision numbers

These are the finite binary numbers whose significand has at most 53 bits and whose exponent lies
between -1074 and 971.  An operation takes the exact result, a quotient of naturals, and rounds it
once: to the nearest of these numbers, and halfway between two of them to the one with the even
significand.  A result that rounds to none of them is too large.
-/

namespace LeaseQueue

/-- A double-precision number `± significand · 2 ^ exponent`. Both zeros are numbers. -/
@[ext]
structure Double where
  negative : Bool
  significand : Nat
  exponent : Int
  deriving DecidableEq

namespace Double

/-- The least exponent. -/
def leastExponent : Int := -1074

/-- The greatest exponent. -/
def greatestExponent : Int := 971

/-- Whether a number is written in its only way: with 53 bits, or with fewer at the least
exponent. -/
def Valid (d : Double) : Prop :=
  leastExponent ≤ d.exponent ∧ d.exponent ≤ greatestExponent ∧ d.significand < Nat.pow 2 53 ∧
    (Nat.pow 2 52 ≤ d.significand ∨ d.exponent = leastExponent)

instance (d : Double) : Decidable d.Valid := inferInstanceAs (Decidable (_ ∧ _))

/-- The positive zero. -/
def zero : Double := ⟨false, 0, leastExponent⟩

instance : Inhabited Double := ⟨zero⟩

/-- Whether it is one of the two zeros. -/
def isZero (d : Double) : Bool := d.significand = 0

/-- Whether it is less than zero. -/
def isBelowZero (d : Double) : Bool := d.negative && !d.isZero

/-- Whether two numbers are equal as values. The two zeros are. -/
def same (a b : Double) : Bool := a = b || (a.isZero && b.isZero)

/-! ### The magnitude as a quotient -/

/-- The numerator of the magnitude. -/
def numerator (d : Double) : Nat := d.significand * Nat.pow 2 d.exponent.toNat

/-- The denominator of the magnitude. -/
def denominator (d : Double) : Nat := Nat.pow 2 (-d.exponent).toNat

/-! ### Rounding -/

/-- A quotient rounded to the nearest natural, a half to the even one. -/
def nearest (num den : Nat) : Nat :=
  let q := num / den
  let r := num % den
  if den < 2 * r ∨ (2 * r = den ∧ q % 2 = 1) then q + 1 else q

/-- A quotient divided by a power of two. -/
def scaled (num den : Nat) (exponent : Int) : Nat × Nat :=
  (num * Nat.pow 2 (-exponent).toNat, den * Nat.pow 2 exponent.toNat)

/-- The exponent with which a positive quotient has 53 bits before the point, as far as exponents
go down. The bit counts of the two naturals tell it up to one. -/
def exponentOf (num den : Nat) : Int :=
  let low : Int := num.log2 - den.log2 - 53
  let s := scaled num den low
  max leastExponent (if s.2 * Nat.pow 2 53 ≤ s.1 then low + 1 else low)

/-- The number nearest to a quotient with a sign, unless that is too large. -/
def round? (negative : Bool) (num den : Nat) : Option Double :=
  if num = 0 then some ⟨negative, 0, leastExponent⟩
  else
    let exponent := exponentOf num den
    let s := scaled num den exponent
    let n := nearest s.1 s.2
    let d : Double :=
      if n = Nat.pow 2 53 then ⟨negative, Nat.pow 2 52, exponent + 1⟩ else ⟨negative, n, exponent⟩
    if d.exponent ≤ greatestExponent then some d else none

/-! ### Arithmetic -/

/-- The number nearest to an integer; no 64-bit word is too large. -/
def ofInt (n : Int) : Double := (round? (n < 0) n.natAbs 1).getD zero

/-- The number nearest to a power of ten; powers up to the 308th are not too large. -/
def tenTo (n : Nat) : Double := (round? false (Nat.pow 10 n) 1).getD zero

/-- The product, unless it is too large. -/
def times? (a b : Double) : Option Double :=
  round? (a.negative != b.negative) (a.numerator * b.numerator) (a.denominator * b.denominator)

/-- The quotient by a number that is not zero, unless it is too large. -/
def dividedBy? (a b : Double) : Option Double :=
  round? (a.negative != b.negative) (a.numerator * b.denominator) (a.denominator * b.numerator)

/-- The magnitude rounded to the nearest natural, a half upward. -/
def roundedSize (d : Double) : Nat := (2 * d.numerator + d.denominator) / (2 * d.denominator)

/-! ### Bits -/

/-- The sixty-four bits of a number in interchange format: sign, eleven bits of exponent, and the
significand without its leading bit. -/
def bits (d : Double) : Nat :=
  let sign := if d.negative then Nat.pow 2 63 else 0
  if d.significand < Nat.pow 2 52 then sign + d.significand
  else sign + (d.exponent + 1075).toNat * Nat.pow 2 52 + (d.significand - Nat.pow 2 52)

end Double

end LeaseQueue
