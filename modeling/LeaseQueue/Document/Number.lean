import LeaseQueue.Double.Shortest
import LeaseQueue.Text.Digits

/-!
# Numbers of documents

An integer that fits a 64-bit word, signed or not, stays an integer; every other number is a
double-precision number.  An integer never equals one of these, so `1` and `1.0` are two values.  A
number is written with the fewest digits that stand for it.  Reading rounds more than once, so a
number with many digits may be read as a neighbour of the one it was written for.
-/

namespace LeaseQueue

/-! ### Writing -/

/-- The digits of a decimal with a point. The point is written out as long as it falls among at
most sixteen digits or at most five places before the first one; beyond that one digit stands
before the point and the exponent, always with a sign, behind an `e`. -/
def Decimal.write (c : Decimal) : List Char :=
  let digits := Digits.ofNat c.coefficient
  let point : Int := digits.length + c.exponent
  if 0 ≤ c.exponent ∧ point ≤ 16 then
    digits ++ List.replicate c.exponent.toNat '0' ++ ['.', '0']
  else if 0 < point ∧ point ≤ 16 then
    digits.take point.toNat ++ '.' :: digits.drop point.toNat
  else if -5 < point ∧ point ≤ 0 then
    '0' :: '.' :: List.replicate (-point).toNat '0' ++ digits
  else
    let tail := digits.drop 1
    digits.take 1 ++ (if tail.isEmpty then [] else '.' :: tail)
      ++ 'e' :: (if point ≤ 0 then '-' else '+') :: Digits.ofNat (point - 1).natAbs

/-- The written form of a double-precision number. -/
def Double.write (d : Double) : List Char :=
  let magnitude := if d.isZero then ['0', '.', '0'] else d.shortest.write
  if d.negative then '-' :: magnitude else magnitude

/-! ### Reading -/

/-- The greatest power of ten that is applied in one step. -/
def Double.greatestPower : Nat := 308

/-- A word times a power of ten. The word is rounded, then multiplied or divided by the rounded
power; a division by more than the greatest power is two divisions, and one by more than twice
as much leaves nothing of any word. -/
def Double.ofScaled? (negative : Bool) (word : Nat) (exponent : Int) : Option Double :=
  (round? negative word 1).bind fun d =>
    let power := exponent.natAbs
    if power ≤ greatestPower then
      if 0 ≤ exponent then d.times? (tenTo power) else d.dividedBy? (tenTo power)
    else if d.isZero then some d
    else if 0 ≤ exponent then none
    else if power ≤ 2 * greatestPower then
      (d.dividedBy? (tenTo greatestPower)).bind fun e => e.dividedBy? (tenTo (power - greatestPower))
    else some { zero with negative }

/-- A number of a document. -/
inductive Number where
  | integer (n : Int)
  | double (d : Double)
  deriving DecidableEq

namespace Number

/-- The least signed 64-bit word. -/
def leastInteger : Int := -9223372036854775808

/-- The greatest unsigned 64-bit word. -/
def greatestInteger : Int := 18446744073709551615

/-- A word with further digits behind its last one, as many as fit 64 bits, and the number of those
left over. -/
def fillWord (word : Nat) : List Char → Nat × Nat
  | [] => (word, 0)
  | c :: rest =>
    let longer := 10 * word + Digits.toNat [c]
    if longer ≤ greatestInteger.toNat then fillWord longer rest else (word, rest.length + 1)

/-- The number of its written parts: a sign, digits, digits behind a point and an exponent. An
integer that fits no 64-bit word is rounded, and so is a negative zero. Only the leading digits
that fit a 64-bit word count for a rounded number, which is refused if it is too large. -/
def ofParts? (negative : Bool) (whole : List Char) (fraction : Option (List Char))
    (exponent : Option Int) : Option Number :=
  let n := Digits.toNat whole
  let signed : Int := if negative then -(n : Int) else n
  if fraction.isNone && exponent.isNone && !(negative && n = 0)
      && decide (leastInteger ≤ signed ∧ signed ≤ greatestInteger) then
    some (.integer signed)
  else
    let places := fraction.getD []
    let (word, dropped) := fillWord 0 whole
    let (word, unused) := fillWord word places
    let power : Int := dropped - (places.length - unused : Nat) + exponent.getD 0
    (Double.ofScaled? negative word power).map double

/-- The written form of a number. -/
def write : Number → List Char
  | .integer n => Digits.ofInt n
  | .double d => d.write

/-- Whether two numbers are equal as values. -/
def same : Number → Number → Bool
  | .integer a, .integer b => a = b
  | .double a, .double b => a.same b
  | _, _ => false

/-- The double-precision number nearest to a number. -/
def toDouble : Number → Double
  | .integer n => Double.ofInt n
  | .double d => d

end Number

end LeaseQueue
