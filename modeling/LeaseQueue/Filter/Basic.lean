import LeaseQueue.Job.Basic

/-!
# Filters

A filter is a condition on jobs, and has a meaning on each job.
-/

namespace LeaseQueue

/-- A condition on a single property of a job. -/
inductive Criterion where
  | id (i : Ident)
  | queue (name : String)
  | type (name : String)
  | status (s : Status)
  | payload (v : Value)
  | organization (i : Ident)
  | scheduledBefore (t : Instant)
  | scheduledAfter (t : Instant)

/-- Whether a job has the property. No payload equals a value that is no object, and a job without
an organization belongs to none. -/
def Criterion.holds : Criterion → Job → Bool
  | id i, j => decide (j.id = i)
  | queue name, j => decide (j.queue = name)
  | type name, j => decide (j.type = name)
  | status s, j => decide (j.status = s)
  | payload (.object d), j => Document.same j.payload d
  | payload _, _ => false
  | organization i, j => decide (j.organization = some i)
  | scheduledBefore t, j => decide (j.scheduledAt < t)
  | scheduledAfter t, j => decide (t < j.scheduledAt)

/-- A condition on a job. -/
inductive Filter where
  | is (c : Criterion)
  | not (f : Filter)
  | all (fs : List Filter)
  | any (fs : List Filter)

namespace Filter

mutual

/-- Whether a job meets a condition. -/
def holds : Filter → Job → Bool
  | is c, j => c.holds j
  | not f, j => !f.holds j
  | all fs, j => holdsAll fs j
  | any fs, j => holdsAny fs j
termination_by structural f => f

/-- Whether a job meets all of some conditions. -/
def holdsAll : List Filter → Job → Bool
  | [], _ => true
  | f :: fs, j => f.holds j && holdsAll fs j
termination_by structural fs => fs

/-- Whether a job meets one of some conditions. -/
def holdsAny : List Filter → Job → Bool
  | [], _ => false
  | f :: fs, j => f.holds j || holdsAny fs j
termination_by structural fs => fs

end

theorem holdsAll_eq (fs : List Filter) (j : Job) : holdsAll fs j = fs.all (·.holds j) := by
  induction fs with
  | nil => rfl
  | cons f fs ih => simp [holdsAll, ih]

theorem holdsAny_eq (fs : List Filter) (j : Job) : holdsAny fs j = fs.any (·.holds j) := by
  induction fs with
  | nil => rfl
  | cons f fs ih => simp [holdsAny, ih]

end Filter

end LeaseQueue
