import LeaseQueue.Proofs.Sql.Reading
import LeaseQueue.Proofs.Sql.Rows

/-!
# What the condition of a filter selects

On the row of a job, the condition of a filter has the truth value that the connectives of a
database make of its criteria (`Sql.exists_truthOn_render`).  All columns but one are always filled,
so that a criterion is true or false there as it is of the job; only the question whether a job
belongs to an organization has no answer for a job without one.  What is not unknown agrees with the
filter (`Filter.truth_agrees`), and what is unknown is selected neither as it stands nor negated: so
a filter that asks for an organization under a negation misses jobs without an organization, all
others select what they should (`selects_eq_holds`).
-/

namespace LeaseQueue

namespace Filter

mutual

/-- The truth value of a filter whose criteria have given ones. -/
def truth (leaf : Criterion → Sql.Truth) : Filter → Sql.Truth
  | is c => leaf c
  | not f => (truth leaf f).not
  | all fs => truthAll leaf fs
  | any fs => truthAny leaf fs
termination_by structural f => f

/-- The truth value of all of some filters together. -/
def truthAll (leaf : Criterion → Sql.Truth) : List Filter → Sql.Truth
  | [] => .yes
  | f :: fs => (truth leaf f).and (truthAll leaf fs)
termination_by structural fs => fs

/-- The truth value of one of some filters. -/
def truthAny (leaf : Criterion → Sql.Truth) : List Filter → Sql.Truth
  | [] => .no
  | f :: fs => (truth leaf f).or (truthAny leaf fs)
termination_by structural fs => fs

end

mutual

/-- Whether all criteria of a filter pass a test that is also told whether the number of negations
around them is even; `even` says so of those around the filter. -/
def passes (test : Bool → Criterion → Bool) (even : Bool) : Filter → Bool
  | is c => test even c
  | not f => passes test (!even) f
  | all fs | any fs => passesEach test even fs
termination_by structural f => f

/-- Whether all criteria of some filters pass such a test. -/
def passesEach (test : Bool → Criterion → Bool) (even : Bool) : List Filter → Bool
  | [] => true
  | f :: fs => passes test even f && passesEach test even fs
termination_by structural fs => fs

end

/-- All of some filters together, one after the other. -/
lemma truthAll_eq (leaf : Criterion → Sql.Truth) (fs : List Filter) :
    truthAll leaf fs = fs.foldr (fun f t => (truth leaf f).and t) .yes := by
  induction fs with
  | nil => rfl
  | cons f rest ih => rw [truthAll, ih, List.foldr_cons]

/-- One of some filters, one after the other. -/
lemma truthAny_eq (leaf : Criterion → Sql.Truth) (fs : List Filter) :
    truthAny leaf fs = fs.foldr (fun f t => (truth leaf f).or t) .no := by
  induction fs with
  | nil => rfl
  | cons f rest ih => rw [truthAny, ih, List.foldr_cons]

end Filter

namespace Sql

namespace Truth

/-- What is true changes nothing in a conjunction. -/
lemma and_yes (t : Truth) : t.and .yes = t := by cases t <;> rfl

/-- What is false changes nothing in a disjunction. -/
lemma or_no (t : Truth) : t.or .no = t := by cases t <;> rfl

end Truth

/-! ### From the condition to the filter -/

section Condition

variable {row : Row}

/-- The truth value of a criterion on a row. -/
def truthOf (row : Row) (c : Criterion) : Truth := (sign c).truth (row.cell (column c)) (operand c)

/-- Whether the condition of a filter has the truth value of the filter on a row, wherever the
values of the filter stand among those of a statement. -/
def Means (row : Row) (f : Filter) : Prop :=
  ∀ before after, (logic (before.length + 1) f).truthOn
    (before ++ Piece.values (condition f) ++ after) row = f.truth (truthOf row)

/-- The truth value of conditions with a connective between them. -/
lemma truthOn_joined (connective : Logic → Logic → Logic) (combine : Truth → Truth → Truth)
    (unit : Truth) (hconnective : ∀ a b bound, (connective a b).truthOn bound row =
      combine (a.truthOn bound row) (b.truthOn bound row)) (hunit : ∀ t, combine t unit = t)
    (word : String) {f : Filter} {fs : List Filter} (hfs : ∀ g ∈ f :: fs, Means row g)
    (before after : List Cell) :
    (joined connective (logic (before.length + 1) f) (before.length + 1 + places f) fs).truthOn
        (before ++ (Piece.values (condition f) ++ Piece.values (conditions word fs)) ++ after) row =
      (f :: fs).foldr (fun g t => combine (g.truth (truthOf row)) t) unit := by
  have hfirst := hfs f List.mem_cons_self before (Piece.values (conditions word fs) ++ after)
  rw [← List.append_assoc, List.append_assoc before] at hfirst
  induction fs generalizing f before with
  | nil =>
    simp only [joined, List.foldr_cons, List.foldr_nil, hunit]
    exact hfirst
  | cons g rest ih =>
    have hnumber : (before ++ Piece.values (condition f)).length + 1 =
        before.length + 1 + places f := by
      rw [List.length_append, places]
      omega
    have hvalues : Piece.values (conditions word (g :: rest)) =
        Piece.values (condition g) ++ Piece.values (conditions word rest) := by
      simp [conditions, Piece.values, Piece.values_append]
    have hsecond := hfs g (by simp) (before ++ Piece.values (condition f))
      (Piece.values (conditions word rest) ++ after)
    have hrest := ih (fun h hh => hfs h (List.mem_cons_of_mem f hh))
      (before ++ Piece.values (condition f)) (by simpa using hsecond)
    rw [hnumber, List.append_assoc before, ← hvalues] at hrest
    rw [joined, hconnective, hfirst, hrest]
    rfl

/-- The condition of a filter has the truth value of the filter. -/
lemma means (row : Row) (f : Filter) : Means row f := by
  induction f using Filter.induction with
  | is c =>
    intro before after
    have hvalue : (Term.place (before.length + 1)).value
        (before ++ Piece.values (condition (.is c)) ++ after) row = operand c := by
      simp [condition, Piece.values, Term.value]
    simp only [logic, Logic.truthOn, Logic.truth, hvalue]
    rfl
  | not f ih =>
    intro before after
    exact congrArg Truth.not (ih before after)
  | all fs ih =>
    intro before after
    cases fs with
    | nil => rfl
    | cons f rest =>
      have hjoined := truthOn_joined .and .and .yes (fun _ _ _ => rfl) Truth.and_yes " AND" ih
        before after
      rw [Filter.truth, Filter.truthAll_eq, ← hjoined]
      simp [logic, condition, Piece.values, Piece.values_append]
  | any fs ih =>
    intro before after
    cases fs with
    | nil => rfl
    | cons f rest =>
      have hjoined := truthOn_joined .or .or .no (fun _ _ _ => rfl) Truth.or_no " OR" ih
        before after
      rw [Filter.truth, Filter.truthAny_eq, ← hjoined]
      simp [logic, condition, Piece.values, Piece.values_append]

/-- The text of a filter's condition is a condition, and that has the truth value of the filter. -/
lemma exists_truthOn_render (f : Filter) (row : Row) :
    ∃ e, Logic.ofText? (Piece.render 1 (condition f)) = some e ∧
      e.truthOn (Piece.values (condition f)) row = f.truth (truthOf row) := by
  have hmeans := means row f [] []
  rw [List.nil_append, List.append_nil] at hmeans
  exact ⟨_, Logic.ofText?_render 1 f, hmeans⟩

end Condition

end Sql

/-! ### From the filter to the job -/

/-- The truth value of a criterion on the row of a job: it is unknown whether a job that has no
organization belongs to a given one. -/
def Job.truthOf (j : Job) (c : Criterion) : Sql.Truth :=
  match c, j.organization with
  | .organization _, none => .unknown
  | c, _ => .ofBool (c.holds j)

namespace Sql

/-- A criterion has the truth value on the row of a job that it has of the job. -/
lemma truthOf_toRow (j : Job) (c : Criterion) :
    truthOf (JobRow.ofJob j).toRow c = j.truthOf c := by
  cases c with
  | id i => rfl
  | queue name => rfl
  | type name => rfl
  | status s => exact congrArg Truth.ofBool (decide_eq_decide.2 status_name_inj)
  | payload v => cases v <;> rfl
  | organization i =>
    obtain ⟨o, ho⟩ | hnone : (∃ o, j.organization = some o) ∨ j.organization = none := by
      cases j.organization <;> simp
    · have hcell : (JobRow.ofJob j).toRow.cell "organization_id" = .ident o := by
        rw [show (JobRow.ofJob j).toRow.cell "organization_id" =
          .ofOption .ident j.organization from rfl, ho]
        rfl
      simp [truthOf, column, sign, operand, hcell, Job.truthOf, ho, Criterion.holds,
        Comparison.truth, Cell.same]
    · have hcell : (JobRow.ofJob j).toRow.cell "organization_id" = .null := by
        rw [show (JobRow.ofJob j).toRow.cell "organization_id" =
          .ofOption .ident j.organization from rfl, hnone]
        rfl
      simp [truthOf, column, sign, operand, hcell, Job.truthOf, hnone, Comparison.truth, Cell.same]
  | scheduledBefore t => rfl
  | scheduledAfter t => rfl

end Sql

/-! ### What is selected -/

/-- A relation between truth values and Booleans that is handed on by the connectives holds of a
filter if it holds of its criteria. A negation may swap it with another one. -/
lemma Filter.truth_relates (related : Bool → Sql.Truth → Bool → Prop)
    (hyes : ∀ even, related even .yes true) (hno : ∀ even, related even .no false)
    (hnot : ∀ {even t b}, related (!even) t b → related even t.not (!b))
    (hand : ∀ {even t u a b}, related even t a → related even u b → related even (t.and u) (a && b))
    (hor : ∀ {even t u a b}, related even t a → related even u b → related even (t.or u) (a || b))
    {leaf : Criterion → Sql.Truth} {j : Job} {test : Bool → Criterion → Bool}
    (htest : ∀ even c, test even c = true → related even (leaf c) (c.holds j)) (f : Filter)
    (even : Bool) (hpasses : f.passes test even = true) :
    related even (f.truth leaf) (f.holds j) := by
  induction f using Filter.induction generalizing even with
  | is c => exact htest even c hpasses
  | not f ih => exact hnot (ih (!even) hpasses)
  | all fs ih =>
    show related even (Filter.truthAll leaf fs) (Filter.holdsAll fs j)
    have heach : Filter.passesEach test even fs = true := hpasses
    induction fs with
    | nil => exact hyes even
    | cons f rest ihrest =>
      obtain ⟨hfirst, hrest⟩ := Bool.and_eq_true_iff.1 heach
      exact hand (ih f List.mem_cons_self even hfirst)
        (ihrest (fun g hg => ih g (List.mem_cons_of_mem f hg)) hrest hrest)
  | any fs ih =>
    show related even (Filter.truthAny leaf fs) (Filter.holdsAny fs j)
    have heach : Filter.passesEach test even fs = true := hpasses
    induction fs with
    | nil => exact hno even
    | cons f rest ihrest =>
      obtain ⟨hfirst, hrest⟩ := Bool.and_eq_true_iff.1 heach
      exact hor (ih f List.mem_cons_self even hfirst)
        (ihrest (fun g hg => ih g (List.mem_cons_of_mem f hg)) hrest hrest)

/-- Whether a criterion does not ask for an organization. -/
def Criterion.isPlain : Criterion → Bool
  | organization _ => false
  | _ => true

namespace Sql.Truth

/-- Whether a truth value, if it is a known one, says what a Boolean says. -/
def Agrees (t : Truth) (b : Bool) : Prop := t ≠ .unknown → t = .ofBool b

/-- Agreement is kept by negation. -/
lemma Agrees.not {t : Truth} {b : Bool} (h : t.Agrees b) : t.not.Agrees !b := by
  cases t <;> cases b <;> simp_all [Agrees, Truth.not, ofBool]

/-- Agreement is kept by conjunction. -/
lemma Agrees.and {t u : Truth} {a b : Bool} (ht : t.Agrees a) (hu : u.Agrees b) :
    (t.and u).Agrees (a && b) := by
  cases t <;> cases u <;> cases a <;> cases b <;> simp_all [Agrees, Truth.and, ofBool]

/-- Agreement is kept by disjunction. -/
lemma Agrees.or {t u : Truth} {a b : Bool} (ht : t.Agrees a) (hu : u.Agrees b) :
    (t.or u).Agrees (a || b) := by
  cases t <;> cases u <;> cases a <;> cases b <;> simp_all [Agrees, Truth.or, ofBool]

/-- Whether a truth value is a given known one exactly when a Boolean is. -/
def Settles (goal : Bool) (t : Truth) (b : Bool) : Prop := t = .ofBool goal ↔ b = goal

/-- A negation is settled when what it negates is settled the other way. -/
lemma Settles.not {goal : Bool} {t : Truth} {b : Bool} (h : t.Settles (!goal) b) :
    Settles goal t.not !b := by
  cases t <;> cases b <;> cases goal <;> simp_all [Settles, Truth.not, ofBool]

/-- A conjunction is settled when both of its parts are. -/
lemma Settles.and {goal : Bool} {t u : Truth} {a b : Bool} (ht : t.Settles goal a)
    (hu : u.Settles goal b) : Settles goal (t.and u) (a && b) := by
  cases t <;> cases u <;> cases a <;> cases b <;> cases goal <;>
    simp_all [Settles, Truth.and, ofBool]

/-- A disjunction is settled when both of its parts are. -/
lemma Settles.or {goal : Bool} {t u : Truth} {a b : Bool} (ht : t.Settles goal a)
    (hu : u.Settles goal b) : Settles goal (t.or u) (a || b) := by
  cases t <;> cases u <;> cases a <;> cases b <;> cases goal <;>
    simp_all [Settles, Truth.or, ofBool]

end Sql.Truth

/-! #### Filters on jobs -/

/-- A criterion is as true on the row of a job as of the job, unless it asks for the organization of
a job that has none; the job does not meet it then. -/
lemma Job.truthOf_cases (j : Job) (c : Criterion) :
    j.truthOf c = .ofBool (c.holds j) ∨
      j.truthOf c = .unknown ∧ c.holds j = false ∧ j.organization = none ∧ c.isPlain = false := by
  unfold Job.truthOf
  cases hj : j.organization with
  | some o => exact .inl (by cases c <;> rfl)
  | none => cases c <;> simp [Criterion.isPlain, Criterion.holds, hj]

namespace Filter

/-- A test that all criteria pass. -/
lemma passes_of_forall {test : Bool → Criterion → Bool} (htest : ∀ even c, test even c = true)
    (f : Filter) (even : Bool) : f.passes test even = true := by
  induction f using Filter.induction generalizing even with
  | is c => exact htest even c
  | not f ih => exact ih (!even)
  | all fs ih | any fs ih =>
    show passesEach test even fs = true
    induction fs with
    | nil => rfl
    | cons f rest ihrest =>
      exact Bool.and_eq_true_iff.2 ⟨ih f List.mem_cons_self even,
        ihrest fun g hg => ih g (List.mem_cons_of_mem f hg)⟩

/-- What is not unknown on the row of a job is true exactly when the job meets the filter. -/
lemma truth_agrees (f : Filter) (j : Job) : (f.truth j.truthOf).Agrees (f.holds j) := by
  refine truth_relates (fun _ => Sql.Truth.Agrees) (fun _ _ => rfl) (fun _ _ => rfl)
    Sql.Truth.Agrees.not Sql.Truth.Agrees.and Sql.Truth.Agrees.or ?_ f true
    (passes_of_forall (fun _ _ => rfl) f true)
  intro even c _ hknown
  rcases j.truthOf_cases c with htruth | ⟨hunknown, -⟩
  · exact htruth
  · exact absurd hunknown hknown

/-- Whether a filter asks for an organization only under an even number of negations. -/
def affirms (f : Filter) : Bool := f.passes (fun even c => even || c.isPlain) true

/-- What settles all criteria of a filter settles the filter. -/
lemma settles_of_passes {f : Filter} {j : Job} {test : Bool → Criterion → Bool}
    (htest : ∀ even c, test even c = true → (j.truthOf c).Settles even (c.holds j))
    (hpasses : f.passes test true = true) : (f.truth j.truthOf).Settles true (f.holds j) := by
  refine truth_relates Sql.Truth.Settles ?_ ?_ Sql.Truth.Settles.not Sql.Truth.Settles.and
    Sql.Truth.Settles.or htest f true hpasses
  · intro even
    cases even <;> simp [Sql.Truth.Settles, Sql.Truth.ofBool]
  · intro even
    cases even <;> simp [Sql.Truth.Settles, Sql.Truth.ofBool]

/-- What is true on the row of a job is what the job meets, if it has an organization or is asked
for one only affirmatively. -/
lemma truth_settles {f : Filter} {j : Job}
    (h : j.organization.isSome = true ∨ f.affirms = true) :
    (f.truth j.truthOf).Settles true (f.holds j) := by
  have hknown : ∀ even c, j.truthOf c = .ofBool (c.holds j) →
      (j.truthOf c).Settles even (c.holds j) := by
    intro even c htruth
    rw [htruth]
    cases even <;> cases c.holds j <;> simp [Sql.Truth.Settles, Sql.Truth.ofBool]
  rcases h with hj | hf
  · refine settles_of_passes (fun even c _ => ?_) (passes_of_forall (fun _ _ => rfl) f true)
    rcases j.truthOf_cases c with htruth | ⟨-, -, hnone, -⟩
    · exact hknown even c htruth
    · rw [hnone] at hj
      cases hj
  · refine settles_of_passes (fun even c hc => ?_) hf
    rcases j.truthOf_cases c with htruth | ⟨hunknown, hfalse, -, hplain⟩
    · exact hknown even c htruth
    · -- Under an even number of negations, unknown does what false would do.
      rw [hplain, Bool.or_false] at hc
      rw [hunknown, hfalse, hc]
      simp [Sql.Truth.Settles, Sql.Truth.ofBool]

end Filter

namespace Sql

/-- Read as the grammar says, the text that is written for a filter is a condition that has, on the
row of a job, the truth value of the filter with what is unknown of the job left unknown.  What is
known there is as it is of the job, and the row is selected exactly when the job meets the filter,
if the job has an organization or is asked for one only affirmatively. -/
theorem selects_eq_holds (f : Filter) (j : Job) :
    ∃ e, Logic.ofText? (Piece.render 1 (condition f)) = some e ∧
      let t := e.truthOn (Piece.values (condition f)) (JobRow.ofJob j).toRow
      t = f.truth j.truthOf ∧ t.Agrees (f.holds j) ∧
        (j.organization.isSome = true ∨ f.affirms = true → t.selects = f.holds j) := by
  obtain ⟨e, hread, htruth⟩ := exists_truthOn_render f (JobRow.ofJob j).toRow
  have hleaf : truthOf (JobRow.ofJob j).toRow = j.truthOf := funext (truthOf_toRow j)
  rw [hleaf] at htruth
  refine ⟨e, hread, ?_⟩
  dsimp only
  rw [htruth]
  refine ⟨rfl, f.truth_agrees j, fun h => ?_⟩
  have hsettles := Filter.truth_settles h
  cases hholds : f.holds j with
  | true =>
    rw [hsettles.2 hholds]
    rfl
  | false =>
    have hno : f.truth j.truthOf ≠ .yes := by
      intro hyes
      rw [hsettles.1 hyes] at hholds
      cases hholds
    cases htruth' : f.truth j.truthOf <;> simp_all [Truth.selects]

/-- A job without an organization does not belong to any given one, but the row of such a job is not
selected by the negation of the question: that is as unknown as the question. -/
theorem negated_organization_missed :
    let f := Filter.not (.is (.organization .nil))
    let j := (Submission.plain "mail" "send" (.object []) .epoch).pendingJob .nil .epoch
    f.holds j = true ∧
      ∃ e, Logic.ofText? (Piece.render 1 (condition f)) = some e ∧
        (e.truthOn (Piece.values (condition f)) (JobRow.ofJob j).toRow).selects = false := by
  intro f j
  refine ⟨by decide, _, Logic.ofText?_render 1 f, ?_⟩
  rfl

end Sql

end LeaseQueue
