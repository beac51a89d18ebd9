import LeaseQueue.Text.Blank
import LeaseQueue.Text.Digits
import LeaseQueue.Time.Instant

/-!
# The written form of dates and instants

Dates and instants are written after RFC 3339.  A date is `YYYY-MM-DD`; a year outside 0 to 9999
carries a sign.  An instant adds `T`, the time of day with the fewest of 0, 3, 6 or 9 fraction
digits that lose nothing, and the offset from UTC.  Within a leap second the seconds are sixty.

Reading is laxer than writing: blanks may stand before each number, numbers may have fewer digits,
the fraction may have any number of them (only nine count), `t` or a blank may replace `T`, and the
offset may be `UTC`, `Z` or a signed count of hours and minutes.
-/

namespace LeaseQueue

/-! ### Writing -/

/-- A year: four digits, or a sign and at least four digits outside 0 to 9999. -/
def writeYear (year : Int) : List Char :=
  if 0 ≤ year ∧ year ≤ 9999 then Digits.fixed 4 year.toNat
  else
    let digits := Digits.ofNat year.natAbs
    (if year < 0 then '-' else '+') :: (List.replicate (4 - digits.length) '0' ++ digits)

/-- A date as year, month and day. -/
def Civil.write (c : Civil) : List Char :=
  writeYear c.year ++ '-' :: Digits.fixed 2 c.month ++ '-' :: Digits.fixed 2 c.day

/-- A date as text. -/
def Date.text (d : Date) : String := String.ofList d.civil.write

/-- The fraction of a second, in the fewest of 0, 3, 6 or 9 digits that lose nothing. -/
def writeFraction (nanos : Nat) : List Char :=
  if nanos = 0 then []
  else if nanos % 1000000 = 0 then '.' :: Digits.fixed 3 (nanos / 1000000)
  else if nanos % 1000 = 0 then '.' :: Digits.fixed 6 (nanos / 1000)
  else '.' :: Digits.fixed 9 nanos

/-- A time of day, given in seconds since midnight and the nanoseconds of the second. A leap second
is the sixtieth of its minute. -/
def writeTimeOfDay (second nanos : Nat) : List Char :=
  Digits.fixed 2 (second / 3600) ++ ':' :: Digits.fixed 2 (second / 60 % 60)
    ++ ':' :: Digits.fixed 2 (second % 60 + nanos / 1000000000)
    ++ writeFraction (nanos % 1000000000)

/-- An instant without its offset. -/
def Instant.writeLocal (t : Instant) : List Char :=
  t.date.civil.write ++ 'T' :: writeTimeOfDay t.secondOfDay.toNat t.fraction.toNat

/-- An instant with the offset `Z`. -/
def Instant.write (t : Instant) : List Char := t.writeLocal ++ ['Z']

/-- An instant as text, with the offset `Z`. -/
def Instant.text (t : Instant) : String := String.ofList t.write

/-- An instant as text, with the offset `+00:00`. -/
def Instant.offsetText (t : Instant) : String :=
  String.ofList (t.writeLocal ++ ['+', '0', '0', ':', '0', '0'])

/-! ### Reading -/

/-- A number of at most `most` digits after blanks. -/
def readNumber (most : Nat) (cs : List Char) : Option (Nat × List Char) :=
  Digits.upTo? most (skipBlanks cs)

/-- A given character after blanks. -/
def readMark (mark : Char) (cs : List Char) : Option (List Char) :=
  match skipBlanks cs with
  | c :: rest => if c = mark then some rest else none
  | [] => none

/-- A year after blanks: up to four digits, or a sign and any number of digits. -/
def readYear (cs : List Char) : Option (Int × List Char) :=
  match skipBlanks cs with
  | '-' :: rest => (Digits.upTo? rest.length rest).map fun r => (-(r.1 : Int), r.2)
  | '+' :: rest => (Digits.upTo? rest.length rest).map fun r => ((r.1 : Int), r.2)
  | cs => (Digits.upTo? 4 cs).map fun r => ((r.1 : Int), r.2)

/-- A year, a month and a day, valid or not. -/
def readCivil (cs : List Char) : Option (Civil × List Char) := do
  let (year, cs) ← readYear cs
  let cs ← readMark '-' cs
  let (month, cs) ← readNumber 2 cs
  let cs ← readMark '-' cs
  let (day, cs) ← readNumber 2 cs
  return (⟨year, month, day⟩, cs)

/-- The nanoseconds of a fraction of a second, if there is one; digits after the ninth are
skipped. -/
def readFraction (cs : List Char) : Option (Nat × List Char) :=
  match cs with
  | '.' :: rest =>
    let digits := (Digits.run rest).1
    let kept := digits.take 9
    if kept.isEmpty then none
    else some (Digits.toNat kept * Nat.pow 10 (9 - kept.length), (Digits.run rest).2)
  | cs => some (0, cs)

/-- A time of day, in seconds since midnight and the nanoseconds of the second. The sixtieth second
of any minute is a leap second. -/
def readTimeOfDay (cs : List Char) : Option ((Nat × Nat) × List Char) := do
  let (hour, cs) ← readNumber 2 cs
  let cs ← readMark ':' cs
  let (minute, cs) ← readNumber 2 cs
  let cs ← readMark ':' cs
  let (second, cs) ← readNumber 2 cs
  let (fraction, cs) ← readFraction cs
  if hour ≤ 23 ∧ minute ≤ 59 ∧ second ≤ 60 then
    let whole := min second 59
    return ((hour * 3600 + minute * 60 + whole, (second - whole) * 1000000000 + fraction), cs)
  else
    none

/-- Exactly two digits. -/
def readTwoDigits (cs : List Char) : Option (Nat × List Char) :=
  match cs with
  | a :: b :: rest =>
    if a.isDigit && b.isDigit then some (Digits.toNat [a, b], rest) else none
  | _ => none

/-- The seconds of a signed offset of hours and minutes, which may have colons and blanks
between them, and which is less than a day. -/
def readSignedOffset (sign : Int) (cs : List Char) : Option (Int × List Char) := do
  let (hours, cs) ← readTwoDigits cs
  let (minutes, cs) ← readTwoDigits (cs.dropWhile fun c => c = ':' || isBlankChar c)
  if minutes ≤ 59 ∧ hours ≤ 23 then
    return (sign * (hours * 3600 + minutes * 60 : Nat), cs)
  else
    none

/-- The seconds of an offset from UTC. -/
def readOffset (cs : List Char) : Option (Int × List Char) :=
  match cs with
  | 'Z' :: rest | 'z' :: rest => some (0, rest)
  | '+' :: rest => readSignedOffset 1 rest
  | '-' :: rest | '−' :: rest => readSignedOffset (-1) rest
  | a :: b :: c :: rest =>
    if [a, b, c].map Char.toUpper = ['U', 'T', 'C'] then some (0, rest) else none
  | _ => none

/-- A date that fills the whole text. -/
def Date.read? (cs : List Char) : Option Date := do
  let (civil, cs) ← readCivil cs
  if (skipBlanks cs).isEmpty then Date.ofCivil? civil else none

/-- An instant that fills the whole text. -/
def Instant.read? (cs : List Char) : Option Instant := do
  let (civil, cs) ← readCivil cs
  let date ← Date.ofCivil? civil
  let cs ← match cs with
    | 'T' :: rest | 't' :: rest | ' ' :: rest => some rest
    | _ => none
  let ((second, nanos), cs) ← readTimeOfDay cs
  let (offset, cs) ← readOffset (skipBlanks cs)
  if (skipBlanks cs).isEmpty then
    Instant.ofTicks? ((date.days * 86400 + second - offset) * ticksPerSecond + nanos)
  else
    none

/-- The date a text stands for. -/
def Date.ofText? (s : String) : Option Date := Date.read? s.toList

/-- The instant a text stands for. -/
def Instant.ofText? (s : String) : Option Instant := Instant.read? s.toList

end LeaseQueue
