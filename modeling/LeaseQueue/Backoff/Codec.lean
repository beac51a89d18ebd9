import LeaseQueue.Backoff.Strategy
import LeaseQueue.Document.Decode

/-!
# Encoded strategies

Strategies are written down as records.
-/

namespace LeaseQueue

/-- The growth of a record that names its kind. -/
def Growth.ofDocument? (d : Document) : Option Growth := do
  match ← d.required "kind" Value.asString? with
  | "constant" => return constant (← d.required "delay" Value.asSpan?)
  | "linear" =>
    return linear (← d.required "factor" Value.asSpan?) (← d.optional "max" Value.asSpan?)
  | "exponential" =>
    return exponential (← d.required "base" Value.asSpan?) (← d.optional "max" Value.asSpan?)
  | _ => none

/-- The jitter of a record that holds its limit under the name of its kind. -/
def Jitter.ofValue? (v : Value) : Option Jitter := do
  let d ← v.asDocument?
  match ← d.optional "absolute" Value.asSpan? with
  | some limit => return absolute limit
  | none => return relative (← d.required "relative" Value.asDouble?)

/-- The strategy of a record: its growth, and perhaps a jitter and a floor. -/
def Strategy.ofValue? (v : Value) : Option Strategy := do
  let d ← v.asDocument?
  return {
    growth := ← Growth.ofDocument? d
    jitter := ← d.optional "jitter" Jitter.ofValue?
    floor := (← d.optional "min" Value.asSpan?).getD Span.zero }

end LeaseQueue
