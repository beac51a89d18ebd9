import LeaseQueue.Backoff.Strategy
import LeaseQueue.Document.Decode
import LeaseQueue.Document.Writer
import LeaseQueue.Text.Quoted

/-!
# Backoff policies

A policy is a strategy without jitter that can be written into a configuration.  Its lengths are
whole seconds.
-/

namespace LeaseQueue

/-- A strategy that is given by a few numbers of seconds. -/
inductive Policy where
  | fixed (delay : Int64)
  | linear (step : Int64) (cap : Option Int64)
  | exponential (base : Int64) (cap : Option Int64)
  deriving DecidableEq

namespace Policy

/-- Five minutes between attempts. -/
def standard : Policy := fixed 300

instance : Inhabited Policy := ⟨standard⟩

/-- A number of seconds as a span; the longest span when it is not representable, be it positive
or negative. -/
def seconds (n : Int64) : Span := (Span.ofSeconds? n.toInt).getD Span.greatest

/-- How the delays of a policy grow. -/
def growth : Policy → Growth
  | fixed delay => .constant (seconds delay)
  | linear step cap => .linear (seconds step) (cap.map seconds)
  | exponential base cap => .exponential (seconds base) (cap.map seconds)

/-- The strategy of a policy. It does not jitter, and its delays are never negative. -/
def strategy (p : Policy) : Strategy where
  growth := p.growth

/-- The delay before an attempt. -/
def delay (p : Policy) (attempt : UInt32) : Span := p.strategy.delay (fun _ => 0) attempt

/-! ### Encoding -/

/-- A policy as a value; the field `kind` comes first and tells which policy it is. -/
def toValue : Policy → Value
  | fixed delay => .object [("kind", .string "fixed"), ("delay_seconds", .ofInt delay.toInt)]
  | linear step cap =>
    .object [("kind", .string "linear"), ("step_seconds", .ofInt step.toInt),
      ("max_seconds", .ofOption (fun n => .ofInt n.toInt) cap)]
  | exponential base cap =>
    .object [("kind", .string "exponential"), ("base_seconds", .ofInt base.toInt),
      ("max_seconds", .ofOption (fun n => .ofInt n.toInt) cap)]

/-- The encoded policy. -/
def text (p : Policy) : String := p.toValue.text

/-- The policy of a kind and the fields that follow it. -/
def ofParts? (kind : String) (rest : Value) : Option Policy :=
  match kind with
  | "fixed" => do
    let d ← rest.asRecord? ["delay_seconds"]
    return fixed (← d.required "delay_seconds" Value.asInt64?)
  | "linear" => do
    let d ← rest.asRecord? ["step_seconds", "max_seconds"]
    return linear (← d.required "step_seconds" Value.asInt64?)
      (← d.optional "max_seconds" Value.asInt64?)
  | "exponential" => do
    let d ← rest.asRecord? ["base_seconds", "max_seconds"]
    return exponential (← d.required "base_seconds" Value.asInt64?)
      (← d.optional "max_seconds" Value.asInt64?)
  | _ => none

/-- The policy of a value. A list gives the kind first. -/
def ofValue? (v : Value) : Option Policy := do
  match v with
  | .object fields => ofParts? (← Document.required fields "kind" Value.asString?) v
  | .array (kind :: rest) => ofParts? (← kind.asString?) (.array rest)
  | _ => none

/-- A policy as a description shows it. -/
def describe : Policy → String
  | fixed delay => Quoted.record "Fixed" [("delay_seconds", toString delay.toInt)] false
  | linear step cap =>
    Quoted.record "Linear" [("step_seconds", toString step.toInt),
      ("max_seconds", Quoted.optional (cap.map Int64.toInt))] false
  | exponential base cap =>
    Quoted.record "Exponential" [("base_seconds", toString base.toInt),
      ("max_seconds", Quoted.optional (cap.map Int64.toInt))] false

end Policy

end LeaseQueue
