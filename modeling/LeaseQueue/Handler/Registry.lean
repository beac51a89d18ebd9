import LeaseQueue.Text.Quoted

/-!
# Registries

A registry says which handler runs the jobs of a type.  Each type has at most one handler, the one
registered last.
-/

namespace LeaseQueue

/-- Handlers by the type of job they run, in the order in which the types first came up. -/
structure Registry (η : Type) where
  entries : List (String × η) := []

namespace Registry

variable {η : Type}

/-- The registry without handlers. -/
def empty : Registry η := {}

/-- The handler of a type. -/
def get? (r : Registry η) (type : String) : Option η :=
  (r.entries.find? fun e => e.1 = type).map Prod.snd

/-- Whether a type has a handler. -/
def contains (r : Registry η) (type : String) : Bool := r.entries.any fun e => e.1 = type

/-- Gives a type its handler. -/
def register (r : Registry η) (type : String) (handler : η) : Registry η :=
  if r.contains type then
    ⟨r.entries.map fun e => if e.1 = type then (type, handler) else e⟩
  else
    ⟨r.entries ++ [(type, handler)]⟩

/-- The number of types that have a handler. -/
def size (r : Registry η) : Nat := r.entries.length

/-- Whether no type has a handler. -/
def isEmpty (r : Registry η) : Bool := r.entries.isEmpty

/-- The types that have a handler, in the order of their code points. -/
def types (r : Registry η) : List String :=
  (r.entries.map Prod.fst).mergeSort fun a b => decide (¬ b < a)

/-- A registry as a description shows it. -/
def describe (r : Registry η) : String :=
  Quoted.record "HandlerRegistry"
    [("job_types", Quoted.bracket (r.types.map Quoted.quote))] false

end Registry

end LeaseQueue
