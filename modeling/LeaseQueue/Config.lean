import LeaseQueue.Backoff.Policy

/-!
# The configuration of a queue

A configuration is a record whose fields may be left out, which then have their standard values.
-/

namespace LeaseQueue

/-- What a queue can be configured with; the lengths are in milliseconds. -/
structure Config where
  queues : List String := ["default"]
  pollIntervalMillis : UInt64 := 1000
  leaseMillis : UInt64 := 300000
  defaultMaxAttempts : UInt32 := 3
  backoff : Policy := .standard
  workerPrefix : String := "worker"
  deriving DecidableEq

namespace Config

/-- The configuration of a queue that is not configured. -/
def standard : Config := {}

instance : Inhabited Config := ⟨standard⟩

/-- The milliseconds of a length that is not negative, as far as they fit a 64-bit word. -/
def wholeMillis (length : Span) : UInt64 :=
  UInt64.ofNat (min 18446744073709551615 (length.nanos / 1000000).toNat)

/-- Sets how often a worker looks for a job. -/
def withPollInterval (c : Config) (length : Span) : Config :=
  { c with pollIntervalMillis := wholeMillis length }

/-- Sets for how long a claim holds. -/
def withLease (c : Config) (length : Span) : Config :=
  { c with leaseMillis := wholeMillis length }

/-- How often a worker looks for a job; at least a millisecond. -/
def pollInterval (c : Config) : Span := Span.ofMillis (max c.pollIntervalMillis.toNat 1 : Nat)

/-- For how long a claim holds. -/
def lease (c : Config) : Span := (Span.ofMillis? c.leaseMillis.toNat).getD Span.greatest

/-! ### Encoding -/

/-- The names of the fields of an encoded configuration. -/
def fieldNames : List String :=
  ["queues", "poll_interval_ms", "lease_duration_ms", "default_max_attempts", "backoff",
   "worker_id_prefix"]

/-- A configuration as a value. -/
def toValue (c : Config) : Value :=
  .object (fieldNames.zip
    [.array (c.queues.map .string), .ofInt c.pollIntervalMillis.toNat, .ofInt c.leaseMillis.toNat,
     .ofInt c.defaultMaxAttempts.toNat, c.backoff.toValue, .string c.workerPrefix])

/-- The encoded configuration. -/
def text (c : Config) : String := c.toValue.text

/-- The configuration of a value; what it leaves out has its standard value. -/
def ofValue? (v : Value) : Option Config := do
  let d ← v.asPartialRecord? fieldNames
  return {
    queues := ← d.defaulted "queues" Value.asStrings? standard.queues
    pollIntervalMillis :=
      ← d.defaulted "poll_interval_ms" Value.asUInt64? standard.pollIntervalMillis
    leaseMillis := ← d.defaulted "lease_duration_ms" Value.asUInt64? standard.leaseMillis
    defaultMaxAttempts :=
      ← d.defaulted "default_max_attempts" Value.asUInt32? standard.defaultMaxAttempts
    backoff := ← d.defaulted "backoff" Policy.ofValue? standard.backoff
    workerPrefix := ← d.defaulted "worker_id_prefix" Value.asString? standard.workerPrefix }

/-- A configuration as a description shows it. -/
def describe (c : Config) : String :=
  Quoted.record "QueueConfig"
    [("queues", Quoted.bracket (c.queues.map Quoted.quote)),
     ("poll_interval_ms", toString c.pollIntervalMillis),
     ("lease_duration_ms", toString c.leaseMillis),
     ("default_max_attempts", toString c.defaultMaxAttempts),
     ("backoff", c.backoff.describe),
     ("worker_id_prefix", Quoted.quote c.workerPrefix)] false

end Config

end LeaseQueue
