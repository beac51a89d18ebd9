import LeaseQueue.Backend.Injection

/-!
# Errors of a queue

Errors of the backend keep the call that met them, except that an invalid submission and an unknown
job mean the same at either level.
-/

namespace LeaseQueue

/-- Why a call to a queue fails. -/
inductive QueueError where
  | invalid (reason : Invalid)
  /-- A call to the backend failed. -/
  | backend (call : CallKind) (source : StoreError)
  | jobNotFound (id : Ident)
  /-- A value could not be turned into a document. -/
  | encoding (message : String)
  | alreadyRunning
  /-- A worker did not come to its end in an orderly way. -/
  | ungracefulShutdown
  | badState
  /-- A call to the backend broke off. -/
  | crashed (message : String)
  deriving DecidableEq

namespace QueueError

/-- The reason in a sentence. -/
def message : QueueError → String
  | invalid reason => "invalid job: " ++ reason.message
  | backend call source => "failed to " ++ call.describe ++ ": " ++ source.message
  | jobNotFound id => "job not found: " ++ id.text
  | encoding message => "error encoding or decoding value: " ++ message
  | alreadyRunning => "the queue is already running"
  | ungracefulShutdown => "failed to gracefully shut down"
  | badState => "system in bad state"
  | crashed message => message

/-- The error of a call to the backend. -/
def ofFault (call : CallKind) : Fault → QueueError
  | .error (.invalid reason) => invalid reason
  | .error (.jobNotFound id) => jobNotFound id
  | .error source => backend call source
  | .crash message => crashed message

end QueueError

end LeaseQueue
