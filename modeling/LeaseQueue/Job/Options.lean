import LeaseQueue.Job.Submission

/-!
# Options of a producer

Options are what a producer may say about a job beyond its payload; with them a payload becomes a
submission.
-/

namespace LeaseQueue

/-- What a producer may say about a job beyond its queue, type and payload. -/
structure Options where
  priority : Int32 := 0
  delay : Option Span := none
  scheduledAt : Option Instant := none
  maxRetries : Option UInt32 := none
  /-- How long the job may take; the length is not negative. -/
  timeout : Option Span := none
  metadata : Document := []
  organization : Option Ident := none
  user : Option Ident := none

namespace Options

/-- Adds a named value to the metadata. -/
def addMetadata (o : Options) (key : String) (value : Value) : Options :=
  { o with metadata := o.metadata.insert key value }

/-- The instant for which a job is scheduled: a given one, or the end of a delay that is not
negative, or now. -/
def schedule (o : Options) (now : Instant) : Except Invalid Instant :=
  match o.delay, o.scheduledAt with
  | some _, some _ => .error .conflictingSchedule
  | some delay, none => if delay < Span.zero then .error .negativeDelay else .ok (now.after delay)
  | none, some time => .ok time
  | none, none => .ok now

/-- The whole seconds of a timeout, as far as they fit an unsigned 32-bit word. -/
def wholeSeconds (timeout : Span) : UInt32 :=
  UInt32.ofNat (min 4294967295 (timeout.nanos / 1000000000).toNat)

/-- The submission of a payload under the options. -/
def submission (o : Options) (queue type : String) (payload : Value)
    (defaultMaxAttempts : UInt32) (now : Instant) : Except Invalid Submission := do
  let scheduledAt ← o.schedule now
  return {
    id := none
    queue := queue
    type := type
    payload := payload
    metadata := .object o.metadata
    priority := o.priority
    maxAttempts := o.maxRetries.getD defaultMaxAttempts
    scheduledAt := scheduledAt
    organization := o.organization
    user := o.user
    timeoutSeconds := o.timeout.map wholeSeconds }

end Options

end LeaseQueue
