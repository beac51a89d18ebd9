import LeaseQueue.Filter.Builder
import LeaseQueue.Proofs.Document.Alike
import LeaseQueue.Queue.Basic
import LeaseQueue.Store.Run

/-!
# What a listing of jobs shows

The filter that an expression constructs is not the tree of the expression: a conjunction grows by
its right side, and so does a disjunction.  It means the same (`Filter.holds_both`,
`Filter.holds_either`, `Filter.Expression.holds_filter`), and what it means is what the expression
says of a job when it is read as a proposition (`Filter.Expression.holds_iff_says`).

A listing sorts the jobs that pass by their creation, the newest first.  The sort is stable, so the
jobs of one instant stand in a listing as they stand in the store (`Store.filter_select`).
-/

namespace LeaseQueue

/-! ### Conditions as propositions -/

/-- What a condition says of a job.  A payload is that of the job up to the order of keys, which no
value is that is no object. -/
def Criterion.Says : Criterion → Job → Prop
  | id i, j => j.id = i
  | queue name, j => j.queue = name
  | type name, j => j.type = name
  | status s, j => j.status = s
  | payload v, j => ∃ d, v = .object d ∧ Value.Alike (.object j.payload) (.object d)
  | organization i, j => j.organization = some i
  | scheduledBefore t, j => j.scheduledAt < t
  | scheduledAfter t, j => t < j.scheduledAt

/-- Whether no object in a condition has a key twice. -/
def Criterion.Keyed : Criterion → Prop
  | payload v => v.Keyed
  | _ => True

/-- A job has a property exactly when what the condition says of it is so. -/
lemma Criterion.holds_iff_says {c : Criterion} (hc : c.Keyed) {j : Job}
    (hj : (Value.object j.payload).Keyed) : c.holds j = true ↔ c.Says j := by
  cases c with
  | payload v =>
    cases v with
    | object d =>
      have hsame : Document.same j.payload d = true ↔
          Value.Alike (.object j.payload) (.object d) := Value.same_iff_alike hj hc
      exact hsame.trans ⟨fun h => ⟨d, rfl, h⟩, fun ⟨_, hd, h⟩ => Value.object.inj hd ▸ h⟩
    | null | bool | number | string | array =>
      exact iff_of_false Bool.false_ne_true fun ⟨_, hd, _⟩ => by cases hd
  | id | queue | type | status | organization | scheduledBefore | scheduledAfter =>
    exact decide_eq_true_iff

namespace Filter

/-- A conjunction is met by the jobs that meet both sides, also where its left side grows. -/
theorem holds_both (f g : Filter) (j : Job) : (both f g).holds j = (f.holds j && g.holds j) := by
  cases f with
  | all fs =>
    show holdsAll (fs ++ [g]) j = (holdsAll fs j && g.holds j)
    rw [holdsAll_eq, holdsAll_eq, List.all_append, List.all_cons, List.all_nil, Bool.and_true]
  | is | not | any => exact congrArg _ (Bool.and_true _)

/-- A disjunction is met by the jobs that meet one side, also where its left side grows. -/
theorem holds_either (f g : Filter) (j : Job) :
    (either f g).holds j = (f.holds j || g.holds j) := by
  cases f with
  | any fs =>
    show holdsAny (fs ++ [g]) j = (holdsAny fs j || g.holds j)
    rw [holdsAny_eq, holdsAny_eq, List.any_append, List.any_cons, List.any_nil, Bool.or_false]
  | is | not | all => exact congrArg _ (Bool.or_false _)

namespace Expression

/-- What an expression says of a job. -/
def Says : Expression → Job → Prop
  | is c, j => c.Says j
  | everything, _ => True
  | not e, j => ¬ e.Says j
  | both a b, j => a.Says j ∧ b.Says j
  | either a b, j => a.Says j ∨ b.Says j

/-- Whether no object in an expression has a key twice. -/
def Keyed : Expression → Prop
  | is c => c.Keyed
  | everything => True
  | not e => e.Keyed
  | both a b => a.Keyed ∧ b.Keyed
  | either a b => a.Keyed ∧ b.Keyed

/-- The filter that an expression constructs means what the expression does. -/
theorem holds_filter (e : Expression) (j : Job) : e.filter.holds j = e.holds j := by
  induction e with
  | is | everything => rfl
  | not e ih => exact congrArg (!·) ih
  | both a b iha ihb => rw [filter, Filter.holds_both, iha, ihb, holds]
  | either a b iha ihb => rw [filter, Filter.holds_either, iha, ihb, holds]

/-- A job meets an expression exactly when what the expression says of it is so. -/
lemma holds_iff_says {e : Expression} (he : e.Keyed) {j : Job}
    (hj : (Value.object j.payload).Keyed) : e.holds j = true ↔ e.Says j := by
  induction e with
  | is c => exact c.holds_iff_says he hj
  | everything => exact iff_of_true rfl trivial
  | not e ih => rw [holds, Bool.not_eq_true', ← Bool.not_eq_true, ih he, Says]
  | both a b iha ihb => rw [holds, Bool.and_eq_true, iha he.1, ihb he.2, Says]
  | either a b iha ihb => rw [holds, Bool.or_eq_true, iha he.1, ihb he.2, Says]

end Expression

end Filter

/-! ### Listings -/

namespace Store

/-- A selection holds the jobs that meet the condition, each as often as the store does. -/
lemma select_perm (s : Store) (f : Filter) : (s.select f).Perm (s.jobs.filter f.holds) :=
  List.mergeSort_perm _ _

/-- Whether the first of two jobs was created later stays decided from one pair to the next. -/
lemma newest_trans (j k l : Job) (h : decide (k.createdAt ≤ j.createdAt) = true)
    (h' : decide (l.createdAt ≤ k.createdAt) = true) :
    decide (l.createdAt ≤ j.createdAt) = true := by
  rw [decide_eq_true_eq, Instant.le_def] at *
  exact Int.le_trans h' h

/-- Of two jobs one was created no earlier than the other. -/
lemma newest_total (j k : Job) :
    (decide (k.createdAt ≤ j.createdAt) || decide (j.createdAt ≤ k.createdAt)) = true := by
  rw [Bool.or_eq_true, decide_eq_true_eq, decide_eq_true_eq]
  exact Int.le_total _ _

/-- The newest jobs come first in a selection. -/
lemma pairwise_select (s : Store) (f : Filter) :
    (s.select f).Pairwise fun j k => k.createdAt ≤ j.createdAt :=
  (List.pairwise_mergeSort newest_trans newest_total _).imp of_decide_eq_true

/-- The jobs that were created at one instant stand in a selection as they stand in the store. -/
lemma filter_select (s : Store) (f : Filter) (t : Instant) :
    (s.select f).filter (fun j => decide (j.createdAt = t)) =
      (s.jobs.filter f.holds).filter fun j => decide (j.createdAt = t) := by
  let same : List Job := (s.jobs.filter f.holds).filter fun j => decide (j.createdAt = t)
  have hcreated : ∀ j ∈ same, j.createdAt = t := fun j hj =>
    of_decide_eq_true (List.mem_filter.1 hj).2
  have hsorted : same.Pairwise fun j k => decide (k.createdAt ≤ j.createdAt) = true := by
    refine List.pairwise_of_forall_mem_list fun j hj k hk => ?_
    rw [hcreated j hj, hcreated k hk]
    exact decide_eq_true (Int.le_refl _)
  -- What is in order already keeps its order when the whole is sorted.
  have hsublist : same.Sublist (s.select f) :=
    List.sublist_mergeSort newest_trans newest_total hsorted List.filter_sublist
  have hkept : same.Sublist ((s.select f).filter fun j => decide (j.createdAt = t)) := by
    have hfilter := hsublist.filter fun j => decide (j.createdAt = t)
    rwa [List.filter_filter, List.filter_congr fun _ _ => Bool.and_self _] at hfilter
  exact (hkept.eq_of_length ((s.select_perm f).filter _).length_eq.symm).symm

end Store

namespace Queue

/-- A payload with two keys. -/
def addressed : Document := .ofList [("to", .string "ada"), ("copies", .number (.integer 2))]

/-- The same payload with its keys the other way round. -/
def turned : Document := .ofList [("copies", .number (.integer 2)), ("to", .string "ada")]

/-- A store with a job of the first payload. -/
def posted : Store :=
  (Store.empty.run [(.epoch, .enqueue .nil (.plain "mail" "send" (.object addressed) .epoch))]).2

end Queue

end LeaseQueue
