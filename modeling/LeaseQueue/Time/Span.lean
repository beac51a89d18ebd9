import LeaseQueue.Text.Digits

/-!
# Spans of time

A span is a signed length in whole nanoseconds.  A *representable* span lies within `Span.greatest`
either way, which is what a count of milliseconds in a signed 64-bit word can hold; sums and
conversions that leave that range have no result.
-/

namespace LeaseQueue

/-- A signed length of time in nanoseconds. -/
@[ext]
structure Span where
  nanos : Int
  deriving DecidableEq

namespace Span

instance : Inhabited Span := ⟨⟨0⟩⟩

instance : LE Span := ⟨fun a b => a.nanos ≤ b.nanos⟩

instance : LT Span := ⟨fun a b => a.nanos < b.nanos⟩

instance (a b : Span) : Decidable (a ≤ b) := inferInstanceAs (Decidable (a.nanos ≤ b.nanos))

instance (a b : Span) : Decidable (a < b) := inferInstanceAs (Decidable (a.nanos < b.nanos))

instance : Max Span := ⟨fun a b => if a ≤ b then b else a⟩

instance : Min Span := ⟨fun a b => if a ≤ b then a else b⟩

theorem le_def {a b : Span} : a ≤ b ↔ a.nanos ≤ b.nanos := Iff.rfl

theorem lt_def {a b : Span} : a < b ↔ a.nanos < b.nanos := Iff.rfl

/-! ### Units -/

/-- The empty span. -/
def zero : Span := ⟨0⟩

/-- A span of whole milliseconds. -/
def ofMillis (n : Int) : Span := ⟨n * 1000000⟩

/-- A span of whole seconds. -/
def ofSeconds (n : Int) : Span := ⟨n * 1000000000⟩

/-- The most milliseconds a representable span counts. -/
def greatestMillis : Int := 9223372036854775807

/-- The longest representable span. -/
def greatest : Span := ofMillis greatestMillis

/-- The longest representable span backwards. -/
def least : Span := ofMillis (-greatestMillis)

/-- Whether a span lies between the longest ones. -/
def Representable (s : Span) : Prop := least ≤ s ∧ s ≤ greatest

instance (s : Span) : Decidable s.Representable := inferInstanceAs (Decidable (_ ∧ _))

/-- The whole milliseconds of a span, its fraction cut off toward zero. -/
def toMillis (s : Span) : Int := s.nanos.tdiv 1000000

/-! ### Text -/

/-- A span as its nanoseconds in decimal. -/
def text (s : Span) : String := String.ofList (Digits.ofInt s.nanos)

/-- The span of a decimal number of nanoseconds. -/
def ofText? (s : String) : Option Span := (Digits.toInt? s.toList).map Span.mk

/-! ### Arithmetic with limits -/

/-- The span itself, unless it is not representable. -/
def checked (s : Span) : Option Span := if s.Representable then some s else none

/-- A span of whole seconds, if it is representable. -/
def ofSeconds? (n : Int) : Option Span := (ofSeconds n).checked

/-- A span of whole milliseconds, if it is representable. -/
def ofMillis? (n : Int) : Option Span := (ofMillis n).checked

/-- The sum of two spans, if it is representable. -/
def add? (a b : Span) : Option Span := checked ⟨a.nanos + b.nanos⟩

/-- A multiple of a span, if its whole seconds lie strictly between the least and the greatest
signed 64-bit words. The limit is wider than for sums, so a product need not be
representable. -/
def times? (a : Span) (k : Int) : Option Span :=
  let product := a.nanos * k
  if -9223372036854775808 < product / 1000000000 ∧ product / 1000000000 < 9223372036854775807 then
    some ⟨product⟩
  else
    none

end Span

end LeaseQueue
