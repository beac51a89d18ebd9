import LeaseQueue.Queue.Service

/-!
# Descriptions

Stores, queues and managers are described for diagnosis.
-/

namespace LeaseQueue

/-- A store as a description shows it: by the number of its jobs. -/
def Store.describe (s : Store) : String :=
  Quoted.record "InMemoryBackend" [("jobs", Quoted.optional (some s.jobs.length))] false

namespace Service

variable {σ : Type}

/-- A queue as a description shows it. It counts as running until the run is ended. -/
def describe (s : Service σ) : String :=
  Quoted.record "Queue"
    [("config", s.queue.config.describe),
     ("registry", Quoted.record "RwLock"
       [("data", s.registry.describe), ("poisoned", "false")] true),
     ("running", if s.running then "true" else "false")] true

/-- The manager of a queue as a description shows it. -/
def describeManager (s : Service σ) : String :=
  Quoted.record "QueueManager" [("queue", s.describe)] true

end Service

end LeaseQueue
