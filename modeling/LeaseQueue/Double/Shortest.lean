import LeaseQueue.Double.Basic

/-!
# The shortest decimal

Of the decimals that stand for a double-precision number one is written.  The reals that round to a
number form an interval: from halfway to the neighbour below to halfway to the neighbour above, ends
included if the significand is even.  Of the decimals in it the ones with the fewest digits are
taken, of these the nearest, and halfway between two of these the even one.
-/

namespace LeaseQueue

/-- A decimal `coefficient · 10 ^ exponent`. -/
@[ext]
structure Decimal where
  coefficient : Nat
  exponent : Int
  deriving DecidableEq

namespace Double

/-- How a decimal compares with a number of quarters of the last place of a double-precision
number, in which the ends of its interval are whole. -/
def compareQuarters (d : Double) (c : Decimal) (quarters : Nat) : Ordering :=
  let place := d.exponent - 2
  compare (c.coefficient * Nat.pow 10 c.exponent.toNat * Nat.pow 2 (-place).toNat)
    (quarters * Nat.pow 2 place.toNat * Nat.pow 10 (-c.exponent).toNat)

/-- Whether a decimal rounds to the magnitude of a number. Below a power of two the neighbour is
half as far away as above. -/
def standsFor (c : Decimal) (d : Double) : Bool :=
  let below := if d.significand = Nat.pow 2 52 ∧ leastExponent < d.exponent then 1 else 2
  let even := d.significand % 2 = 0
  let low := d.compareQuarters c (4 * d.significand - below)
  let high := d.compareQuarters c (4 * d.significand + 2)
  (low == .gt || even && low == .eq) && (high == .lt || even && high == .eq)

/-- The decimal of whole steps `10 ^ exponent` that lies next to the magnitude of a number and
rounds to it: of the two neighbours the nearer one, or the even one, if both do. -/
def onGrid? (d : Double) (exponent : Int) : Option Decimal :=
  let num := d.numerator * Nat.pow 10 (-exponent).toNat
  let den := d.denominator * Nat.pow 10 exponent.toNat
  let lower : Decimal := ⟨num / den, exponent⟩
  let upper : Decimal := ⟨num / den + 1, exponent⟩
  match standsFor lower d, standsFor upper d with
  | true, true => some (if nearest num den = num / den then lower else upper)
  | true, false => some lower
  | false, true => some upper
  | false, false => none

/-- How many places a magnitude has before its point, or one more; not positive if there are
none. -/
def places (d : Double) : Int := (d.significand.log2 + 1 + d.exponent) * 30103 / 100000 + 1

/-- The shortest decimal of a number that is not zero. The grids become finer from one step to the
next; the nineteenth or one before it has a decimal in the interval. -/
def shortest (d : Double) : Decimal :=
  ((List.range 20).findSome? fun n : Nat => d.onGrid? (d.places - n)).getD ⟨0, 0⟩

end Double

end LeaseQueue
