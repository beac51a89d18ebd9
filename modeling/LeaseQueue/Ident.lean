import LeaseQueue.Text.Digits

/-!
# Identifiers

An identifier is a number of 128 bits, written as 32 lower-case hexadecimal digits in groups of 8,
4, 4, 4 and 12.  Reading takes either case, and also the digits without hyphens, the grouped form
between braces, and the grouped form after `urn:uuid:`.
-/

namespace LeaseQueue

/-- A number of 128 bits. -/
@[ext]
structure Ident where
  value : Nat
  value_lt : value < Nat.pow 2 128
  deriving DecidableEq

namespace Ident

/-- The identifier whose bits are all zero. -/
def nil : Ident := ⟨0, by decide⟩

instance : Inhabited Ident := ⟨nil⟩

/-- The identifier of a number, its higher bits cut off. -/
def ofNat (n : Nat) : Ident := ⟨n % Nat.pow 2 128, Nat.mod_lt _ (by decide)⟩

/-- The sizes of the groups of digits. -/
def groups : List Nat := [8, 4, 4, 4, 12]

/-- Digits cut into groups of the given sizes with a hyphen before each of them. -/
def hyphenated : List Nat → List Char → List Char
  | [], _ => []
  | n :: ns, ds => '-' :: ds.take n ++ hyphenated ns (ds.drop n)

/-- The written form: 32 digits in five groups. -/
def write (i : Ident) : List Char := (hyphenated groups (Digits.hexFixed 32 i.value)).drop 1

/-- The written form as text. -/
def text (i : Ident) : String := String.ofList i.write

/-- The digits of a text that consists of groups of the given sizes with a hyphen before each. -/
def ungroup? : List Nat → List Char → Option (List Char)
  | [], [] => some []
  | [], _ :: _ => none
  | n :: ns, '-' :: cs =>
    if (cs.take n).length = n then (ungroup? ns (cs.drop n)).map (cs.take n ++ ·) else none
  | _ :: _, _ => none

/-- The identifier of exactly 32 digits. -/
def ofDigits? (ds : List Char) : Option Ident :=
  if ds.length = 32 then (Digits.hexToNat? ds).map ofNat else none

/-- Reads the grouped form. -/
def readGrouped? (cs : List Char) : Option Ident := (ungroup? groups ('-' :: cs)).bind ofDigits?

/-- Reads any of the accepted forms. -/
def read? (cs : List Char) : Option Ident :=
  if cs.length = 32 then ofDigits? cs
  else if cs.length = 36 then readGrouped? cs
  else if cs.length = 38 then
    match cs with
    | '\x7b' :: rest => if rest.drop 36 = ['\x7d'] then readGrouped? (rest.take 36) else none
    | _ => none
  else if (cs.take 9).map Char.toLower = ['u', 'r', 'n', ':', 'u', 'u', 'i', 'd', ':'] then
    readGrouped? (cs.drop 9)
  else
    none

/-- The identifier a text stands for. -/
def ofText? (s : String) : Option Ident := read? s.toList

end Ident

end LeaseQueue
