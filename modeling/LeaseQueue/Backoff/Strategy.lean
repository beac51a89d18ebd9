import LeaseQueue.Double.Basic
import LeaseQueue.Time.Span
import LeaseQueue.Word

/-!
# Backoff strategies

A strategy says how long a job that failed waits for its next attempt.  It grows a delay with the
number of the attempt, caps it, shifts it at random, and keeps it above a floor, in that order.
What does not fit a span counts as the longest one.
-/

namespace LeaseQueue

/-! ### Growth -/

/-- How a delay grows with the number of the attempt. -/
inductive Growth where
  | constant (delay : Span)
  /-- In proportion to the number of the attempt. -/
  | linear (factor : Span) (cap : Option Span)
  /-- Doubling from the second attempt on. -/
  | exponential (base : Span) (cap : Option Span)
  deriving DecidableEq

namespace Growth

/-- The delay under a cap, if there is one. -/
def capped (delay : Span) : Option Span → Span
  | some cap => min delay cap
  | none => delay

/-- The greatest factor by which a span is multiplied. -/
def greatestFactor : Nat := 2147483647

/-- A multiple of a span; the longest span when the factor or the product is too large. -/
def scaled (s : Span) (factor : Nat) : Span :=
  if factor ≤ greatestFactor then (s.times? factor).getD Span.greatest else Span.greatest

/-- The factor of an exponential delay: one for the first attempt, and twice as much for each
further one, until it is too large for sure. -/
def doubling (attempt : Nat) : Nat := Nat.pow 2 (min (attempt - 1) 31)

/-- The delay before an attempt. -/
def delay (g : Growth) (attempt : UInt32) : Span :=
  match g with
  | constant delay => delay
  | linear factor cap => capped (scaled factor attempt.toNat) cap
  | exponential base cap => capped (scaled base (doubling attempt.toNat)) cap

end Growth

/-! ### Jitter -/

/-- How far a delay may be shifted either way. -/
inductive Jitter where
  | absolute (limit : Span)
  /-- In proportion to the delay. -/
  | relative (ratio : Double)
  deriving DecidableEq

namespace Jitter

/-- The most milliseconds by which a delay is shifted. -/
def greatestSpread : Nat := 9223372036854775807

/-- The greatest shift in milliseconds. Those of the limit or of the delay are kept in a word, and a
delay may have more of them than a word holds. -/
def spread (j : Jitter) (delay : Span) : Nat :=
  match j with
  | absolute limit => (inWord limit.toMillis).natAbs
  | relative ratio =>
    match (Double.ofInt (inWord delay.toMillis)).times? ratio with
    | some x => min greatestSpread x.roundedSize
    | none => greatestSpread

/-- A delay shifted by a number of milliseconds; the delay itself when that is not
representable. -/
def shifted (delay : Span) (millis : Int) : Span :=
  (delay.add? (Span.ofMillis millis)).getD delay

end Jitter

/-! ### Strategies -/

/-- A source of random shifts: for a greatest shift `n`, a number from `-n` to `n`. -/
abbrev Draw := Nat → Int

/-- A draw that stays within the greatest shift. -/
def Draw.Fair (draw : Draw) : Prop := ∀ n : Nat, -(n : Int) ≤ draw n ∧ draw n ≤ n

/-- How long to wait before an attempt. -/
structure Strategy where
  growth : Growth
  jitter : Option Jitter := none
  floor : Span := Span.zero

namespace Strategy

/-- The delay before an attempt. -/
def delay (s : Strategy) (draw : Draw) (attempt : UInt32) : Span :=
  let grown := s.growth.delay attempt
  let moved := match s.jitter with
    | some jitter => Jitter.shifted grown (draw (jitter.spread grown))
    | none => grown
  max moved s.floor

end Strategy

end LeaseQueue
