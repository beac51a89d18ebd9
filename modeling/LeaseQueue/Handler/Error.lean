/-!
# Errors of handlers

A handler may fail in ways of its own, or because its payload could not be decoded.
-/

namespace LeaseQueue

/-- An error that a handler returns: a message, and whether another error caused it. -/
structure HandlerError where
  message : String
  caused : Bool := false
  deriving DecidableEq

namespace HandlerError

/-- The same error, caused by another one. -/
def withCause (e : HandlerError) : HandlerError := { e with caused := true }

/-- The payload is not what the handler expects. -/
def undecodable (reason : String) : HandlerError :=
  withCause ⟨"failed to decode payload: " ++ reason, false⟩

end HandlerError

end LeaseQueue
