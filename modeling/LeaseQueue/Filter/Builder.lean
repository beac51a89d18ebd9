import LeaseQueue.Filter.Basic

/-!
# Building filters

Filters are put together step by step.  A conjunction whose left side is one already grows by its
right side instead of being nested, and so does a disjunction; the right side is never taken apart.

An expression is such a construction written down: what it denotes as a condition, and the filter
that the steps make of it.
-/

namespace LeaseQueue

namespace Filter

/-- The filter that every job passes. -/
def everything : Filter := all []

/-- Both conditions. -/
def both : Filter → Filter → Filter
  | all fs, g => all (fs ++ [g])
  | f, g => all [f, g]

/-- One condition or the other. -/
def either : Filter → Filter → Filter
  | any fs, g => any (fs ++ [g])
  | f, g => any [f, g]

/-- A construction of a filter. -/
inductive Expression where
  | is (c : Criterion)
  | everything
  | not (e : Expression)
  | both (a b : Expression)
  | either (a b : Expression)

namespace Expression

/-- What an expression says of a job. -/
def holds : Expression → Job → Bool
  | is c, j => c.holds j
  | everything, _ => true
  | not e, j => !e.holds j
  | both a b, j => a.holds j && b.holds j
  | either a b, j => a.holds j || b.holds j

/-- The filter an expression constructs. -/
def filter : Expression → Filter
  | is c => .is c
  | everything => Filter.everything
  | not e => .not e.filter
  | both a b => Filter.both a.filter b.filter
  | either a b => Filter.either a.filter b.filter

end Expression

end Filter

end LeaseQueue
