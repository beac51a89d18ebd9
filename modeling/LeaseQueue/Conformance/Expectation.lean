import LeaseQueue.Store.Basic

/-!
# Expectations

An expectation says how many of the jobs in a store meet some conditions.
-/

namespace LeaseQueue

/-- What a test expects to have been put in: jobs that meet all of the criteria, a given number of
them or at least one. -/
structure Expectation where
  criteria : List Criterion
  count : Option Nat := none

/-- Whether a store is as expected. -/
def Expectation.isMetBy (e : Expectation) (s : Store) : Bool :=
  let jobs := s.select (.all (e.criteria.map .is))
  match e.count with
  | some n => jobs.length = n
  | none => !jobs.isEmpty

end LeaseQueue
