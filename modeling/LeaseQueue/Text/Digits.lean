/-!
# Digits

Decimal and hexadecimal digits are lists of characters: the written form of a number, in as many
digits as it needs or in a fixed width, and the run of digits at the head of a text.
-/

namespace LeaseQueue.Digits

/-! ### Writing -/

/-- The last decimal digit of `n`. -/
def lastDigit (n : Nat) : Char := Char.ofNat (48 + n % 10)

/-- `n` in exactly `width` decimal digits, the higher ones cut off. -/
def fixed : (width : Nat) → Nat → List Char
  | 0, _ => []
  | width + 1, n => fixed width (n / 10) ++ [lastDigit n]

/-- `n` in as many decimal digits as it needs. -/
def ofNat (n : Nat) : List Char := Nat.toDigits 10 n

/-- `n` in decimal, a minus sign in front when it is negative. -/
def ofInt (n : Int) : List Char :=
  if n < 0 then '-' :: ofNat n.natAbs else ofNat n.natAbs

/-- The lower-case hexadecimal digit of a value below sixteen. -/
def hexDigit (n : Nat) : Char :=
  if n < 10 then Char.ofNat (48 + n) else Char.ofNat (87 + n)

/-- `n` in exactly `width` lower-case hexadecimal digits, the higher ones cut off. -/
def hexFixed : (width : Nat) → Nat → List Char
  | 0, _ => []
  | width + 1, n => hexFixed width (n / 16) ++ [hexDigit (n % 16)]

/-- `n` in as many lower-case hexadecimal digits as it needs. -/
def hexOfNat (n : Nat) : List Char := Nat.toDigits 16 n

/-! ### Reading -/

/-- The number a list of decimal digits stands for. -/
def toNat (cs : List Char) : Nat :=
  cs.foldl (fun n c => 10 * n + (c.toNat - 48)) 0

/-- The number that a text of decimal digits and nothing else stands for. -/
def toNat? (cs : List Char) : Option Nat :=
  if cs.isEmpty || !cs.all Char.isDigit then none else some (toNat cs)

/-- The number that decimal digits, perhaps after a sign, stand for. -/
def toInt? : List Char → Option Int
  | '-' :: cs => (toNat? cs).map fun n => -(n : Int)
  | '+' :: cs => (toNat? cs).map fun n => (n : Int)
  | cs => (toNat? cs).map fun n => (n : Int)

/-- The value of a hexadecimal digit in either case. -/
def hexValue? (c : Char) : Option Nat :=
  if '0' ≤ c ∧ c ≤ '9' then some (c.toNat - 48)
  else if 'a' ≤ c ∧ c ≤ 'f' then some (c.toNat - 87)
  else if 'A' ≤ c ∧ c ≤ 'F' then some (c.toNat - 55)
  else none

/-- The number a list of hexadecimal digits stands for, if it holds nothing else. -/
def hexToNat? (cs : List Char) : Option Nat :=
  cs.foldlM (fun n c => (hexValue? c).map (16 * n + ·)) 0

/-- The digits at the head of a text, and what follows them. -/
def run (cs : List Char) : List Char × List Char :=
  (cs.takeWhile Char.isDigit, cs.dropWhile Char.isDigit)

/-- The number written by at least one and at most `most` digits at the head of a text, and
what follows them. -/
def upTo? (most : Nat) (cs : List Char) : Option (Nat × List Char) :=
  let ds := (cs.take most).takeWhile Char.isDigit
  if ds.isEmpty then none else some (toNat ds, cs.drop ds.length)

end LeaseQueue.Digits
