import LeaseQueue.Time.Civil
import LeaseQueue.Time.Span

/-!
# Instants

An instant is a point of time in UTC with nanosecond resolution, from the start of the first to the
end of the last supported year.  A leap second may follow any second; it belongs to the second
before it, has no count of its own, and its nanoseconds are counted again for the second after it.

An instant is kept as a number of *ticks*.  Each second has two billion of them: one for each of its
own nanoseconds, then one for each of a leap second behind it.  So ticks are ordered as instants
are.  Both limits are part of the type, so the span between any two instants is representable, while
an instant plus a span may not exist.
-/

namespace LeaseQueue

/-- The nanoseconds of a second. -/
def nanosPerSecond : Int := 1000000000

/-- The nanoseconds of a day. -/
def nanosPerDay : Int := 86400000000000

/-- The ticks of a second and the leap second that may follow it. -/
def ticksPerSecond : Int := 2000000000

/-- The first tick of the first supported year. -/
def leastTicks : Int := -16669202457600000000000

/-- The last tick of the last supported year, in the leap second that may end it. -/
def greatestTicks : Int := 16420533753599999999999

/-- A point of time, in ticks from the start of 1970 in UTC. -/
@[ext]
structure Instant where
  ticks : Int
  least_le : leastTicks ≤ ticks
  le_greatest : ticks ≤ greatestTicks
  deriving DecidableEq

namespace Instant

instance : LE Instant := ⟨fun a b => a.ticks ≤ b.ticks⟩

instance : LT Instant := ⟨fun a b => a.ticks < b.ticks⟩

instance (a b : Instant) : Decidable (a ≤ b) := inferInstanceAs (Decidable (a.ticks ≤ b.ticks))

instance (a b : Instant) : Decidable (a < b) := inferInstanceAs (Decidable (a.ticks < b.ticks))

theorem le_def {a b : Instant} : a ≤ b ↔ a.ticks ≤ b.ticks := Iff.rfl

theorem lt_def {a b : Instant} : a < b ↔ a.ticks < b.ticks := Iff.rfl

/-! ### Seconds and nanoseconds -/

/-- The second of an instant, counted from 1970. -/
def second (t : Instant) : Int := t.ticks / ticksPerSecond

/-- The nanoseconds of an instant since the start of its second. -/
def fraction (t : Instant) : Int := t.ticks % ticksPerSecond

/-- Whether an instant lies in a leap second. -/
def isLeap (t : Instant) : Bool := nanosPerSecond ≤ t.fraction

/-- The nanoseconds of an instant since the start of 1970. -/
def nanos (t : Instant) : Int := t.second * nanosPerSecond + t.fraction

/-- The instant of a number of ticks, if there is one. -/
def ofTicks? (n : Int) : Option Instant :=
  if h : leastTicks ≤ n ∧ n ≤ greatestTicks then some ⟨n, h.1, h.2⟩ else none

/-- The instant that many nanoseconds from the start of 1970, if there is one. It lies in no leap
second. -/
def ofNanos? (n : Int) : Option Instant :=
  ofTicks? (n / nanosPerSecond * ticksPerSecond + n % nanosPerSecond)

/-! ### Limits -/

/-- The first instant. -/
def least : Instant := ⟨leastTicks, by decide, by decide⟩

/-- The last instant outside of leap seconds. -/
def greatest : Instant := ⟨16420533753598999999999, by decide, by decide⟩

/-- The start of 1970. -/
def epoch : Instant := ⟨0, by decide, by decide⟩

instance : Inhabited Instant := ⟨epoch⟩

/-! ### Instants and spans -/

/-- The instant a span after another, if there is one. From within a leap second a short span leads
to another instant of it or of the second before it; a longer one leaves it and then counts its
nanoseconds as passed. No span leads into a leap second from outside. -/
def add? (t : Instant) (s : Span) : Option Instant :=
  if t.isLeap then
    if ticksPerSecond ≤ t.fraction + s.nanos then ofNanos? (t.nanos - nanosPerSecond + s.nanos)
    else if -nanosPerSecond < s.nanos then ofTicks? (t.ticks + s.nanos)
    else ofNanos? (t.nanos + s.nanos)
  else ofNanos? (t.nanos + s.nanos)

/-- The instant a span after another; the last instant when there is none. -/
def after (t : Instant) (s : Span) : Instant := (t.add? s).getD greatest

/-- What a clock without leap seconds shows at an instant: it is in the next second already. -/
def settled (t : Instant) : Instant := (ofNanos? t.nanos).getD greatest

/-- The seconds of an instant since the start of its day. -/
def secondOfDay (t : Instant) : Int := t.second % 86400

/-- The span from an earlier instant to this one. A leap second of one of them is counted if the
time of day of the other lies beyond it. -/
def since (t earlier : Instant) : Span :=
  let leap :=
    if earlier.isLeap ∧ earlier.secondOfDay < t.secondOfDay then nanosPerSecond
    else if t.isLeap ∧ t.secondOfDay < earlier.secondOfDay then -nanosPerSecond
    else 0
  ⟨t.nanos - earlier.nanos + leap⟩

/-- The day of an instant. -/
def date (t : Instant) : Date := ⟨t.second / 86400⟩

end Instant

end LeaseQueue
