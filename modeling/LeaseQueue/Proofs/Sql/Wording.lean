import LeaseQueue.Proofs.Sql.Reading
import LeaseQueue.Proofs.Sql.Rows

/-!
# The statement that selects jobs

The text of a selection is made of fixed words and of the criteria of its filter, each written as
its column, its sign and the number of its value (`Sql.Spells`).  Read by the grammar, the condition
in it has the truth value of the filter, whatever truth values the numbered criteria are given
(`Sql.truth_logic`).  The values themselves stay outside: filters of one outline have one text.
-/

namespace LeaseQueue

namespace Filter

mutual

/-- The criteria of a filter from left to right. -/
def criteria : Filter → List Criterion
  | is c => [c]
  | not f => criteria f
  | all fs | any fs => criteriaOf fs
termination_by structural f => f

/-- The criteria of some filters, one filter after the other. -/
def criteriaOf : List Filter → List Criterion
  | [] => []
  | f :: fs => criteria f ++ criteriaOf fs
termination_by structural fs => fs

end

mutual

/-- Whether a filter is met if its criteria, counted from left to right and from `n` on, have the
truth values that are assigned to their numbers. -/
def verdict (assigned : ℕ → Bool) (n : ℕ) : Filter → Bool
  | is _ => assigned n
  | not f => !verdict assigned n f
  | all fs => verdictOf assigned and true n fs
  | any fs => verdictOf assigned or false n fs
termination_by structural f => f

/-- The verdicts on some filters, put together by a connective; that on no filter is `unit`. -/
def verdictOf (assigned : ℕ → Bool) (connective : Bool → Bool → Bool) (unit : Bool) (n : ℕ) :
    List Filter → Bool
  | [] => unit
  | f :: fs => connective (verdict assigned n f)
      (verdictOf assigned connective unit (n + f.criteria.length) fs)
termination_by structural fs => fs

end

end Filter

/-- A criterion with its value left out, which is to say, replaced by a fixed one. -/
def Criterion.outline : Criterion → Criterion
  | id _ => id .nil
  | queue _ => queue ""
  | type _ => type ""
  | status _ => status .pending
  | payload _ => payload .null
  | organization _ => organization .nil
  | scheduledBefore _ => scheduledBefore .epoch
  | scheduledAfter _ => scheduledAfter .epoch

namespace Filter

mutual

/-- A filter with the values of its criteria left out: what two filters have in common that differ
in these values only. -/
def outline : Filter → Filter
  | is c => is c.outline
  | not f => not (outline f)
  | all fs => all (outlines fs)
  | any fs => any (outlines fs)
termination_by structural f => f

/-- Some filters with the values of their criteria left out. -/
def outlines : List Filter → List Filter
  | [] => []
  | f :: fs => outline f :: outlines fs
termination_by structural fs => fs

end

end Filter

namespace Sql

/-! ### Spelling -/

/-- Whether pieces are fixed texts without numbered places and, in this order, criteria with the
values that they bind. -/
inductive Spells : List Piece → List Criterion → Prop
  | nil : Spells [] []
  | text (s : String) (hs : '$' ∉ s.toList) {ps : List Piece} {cs : List Criterion}
      (h : Spells ps cs) : Spells (.text s :: ps) cs
  | criterion (c : Criterion) {ps : List Piece} {cs : List Criterion} (h : Spells ps cs) :
      Spells (.text (" " ++ comparison c ++ " ") :: .bound (operand c) :: ps) (c :: cs)

namespace Spells

variable {ps qs : List Piece} {cs ds : List Criterion}

/-- Pieces in a row spell the criteria in a row. -/
lemma append (hp : Spells ps cs) (hq : Spells qs ds) : Spells (ps ++ qs) (cs ++ ds) := by
  induction hp with
  | nil => exact hq
  | text s hs _ ih => exact .text s hs ih
  | criterion c _ ih => exact .criterion c ih

/-- The values that are bound are those of the criteria. -/
lemma values_eq (h : Spells ps cs) : Piece.values ps = cs.map operand := by
  induction h with
  | nil => rfl
  | text s _ _ ih => exact ih
  | criterion c _ ih => exact congrArg (operand c :: ·) ih

/-- No number contains the mark of a place. -/
lemma not_mem_toString (n : ℕ) : '$' ∉ (toString n).toList := by
  rw [Nat.toString_eq_ofList_toDigits, String.toList_ofList]
  intro hmem
  have hdigit : '$'.isDigit = true := Nat.isDigit_of_mem_toDigits (by decide) (by decide) hmem
  exact absurd hdigit (by decide)

/-- No comparison contains the mark of a place. -/
lemma not_mem_comparison (c : Criterion) : '$' ∉ (" " ++ comparison c ++ " ").toList := by
  cases c <;> simp [comparison]

/-- In the text, every criterion stands before the place that has its number. -/
lemma exists_render (h : Spells ps cs) {i : ℕ} {c : Criterion} (hc : cs[i]? = some c) (n : ℕ) :
    ∃ before after, Piece.render n ps =
        before ++ (" " ++ comparison c ++ " $" ++ toString (n + i)) ++ after ∧
      before.toList.count '$' = i := by
  have hmark : " $" = " " ++ "$" := rfl
  induction h generalizing i n with
  | nil => cases hc
  | text s hs _ ih =>
    obtain ⟨before, after, hrender, hcount⟩ := ih hc n
    refine ⟨s ++ before, after, ?_, ?_⟩
    · simp only [Piece.render, hrender, String.append_assoc]
    · rw [String.toList_append, List.count_append, List.count_eq_zero.2 hs, hcount, Nat.zero_add]
  | @criterion d ps cs _ ih =>
    cases i with
    | zero =>
      obtain rfl : d = c := Option.some.inj hc
      refine ⟨"", Piece.render (n + 1) ps, ?_, rfl⟩
      simp only [Piece.render, hmark, String.append_assoc, String.empty_append, Nat.add_zero]
    | succ i =>
      obtain ⟨before, after, hrender, hcount⟩ := ih hc (n + 1)
      refine ⟨" " ++ comparison d ++ " " ++ "$" ++ toString n ++ before, after, ?_, ?_⟩
      · rw [Nat.add_right_comm, Nat.add_assoc] at hrender
        simp only [Piece.render, hrender, String.append_assoc]
      · simp only [String.toList_append, List.count_append, hcount,
          List.count_eq_zero.2 (not_mem_toString n)]
        have hcomparison := List.count_eq_zero.2 (not_mem_comparison d)
        simp only [String.toList_append, List.count_append] at hcomparison
        rw [hcomparison, Nat.zero_add, Nat.add_zero, Nat.add_comm]
        rfl

end Spells

/-- The condition of a filter spells its criteria, if those of further filters do. -/
lemma spells_conditions {connective : String} (hconnective : '$' ∉ connective.toList)
    {fs : List Filter} (hfs : ∀ f ∈ fs, Spells (condition f) f.criteria) :
    Spells (conditions connective fs) (Filter.criteriaOf fs) := by
  induction fs with
  | nil => exact .nil
  | cons f rest ih =>
    have hrest := ih fun g hg => hfs g (List.mem_cons_of_mem f hg)
    exact .text connective hconnective ((hfs f List.mem_cons_self).append hrest)

/-- Conditions in brackets spell the criteria of their filters. -/
lemma spells_bracket {connective : String} (hconnective : '$' ∉ connective.toList) {f : Filter}
    {fs : List Filter} (hfs : ∀ g ∈ f :: fs, Spells (condition g) g.criteria) :
    Spells (.text " (" :: condition f ++ conditions connective fs ++ [.text ")"])
      (Filter.criteriaOf (f :: fs)) := by
  have hrest := spells_conditions hconnective fun g hg => hfs g (List.mem_cons_of_mem f hg)
  have hinner := (hfs f List.mem_cons_self).append hrest
  have hlast : Spells [.text ")"] [] := .text ")" (by decide) .nil
  have hall := Spells.text " (" (by decide) (hinner.append hlast)
  rw [List.append_nil] at hall
  exact hall

/-- The condition of a filter spells the criteria of the filter. -/
lemma spells_condition (f : Filter) : Spells (condition f) f.criteria := by
  induction f using Filter.induction with
  | is c => exact .criterion c .nil
  | not f ih => exact .text " NOT" (by decide) ih
  | all fs ih =>
    cases fs with
    | nil => exact .text " TRUE" (by decide) .nil
    | cons f rest => exact spells_bracket (by decide) ih
  | any fs ih =>
    cases fs with
    | nil => exact .text " FALSE" (by decide) .nil
    | cons f rest => exact spells_bracket (by decide) ih

/-- A filter binds as many values as it has criteria. -/
lemma places_eq (f : Filter) : places f = f.criteria.length := by
  rw [places, (spells_condition f).values_eq, List.length_map]

/-! ### The condition that is read -/

/-- Leaves as the grammar reads them: the columns and signs of criteria, numbered from `n` on. -/
def numbered (n : ℕ) (cs : List Criterion) : List (String × Comparison × ℕ) :=
  cs.mapIdx fun i c => (column c, sign c, n + i)

/-- The numbers go on where the first criteria end. -/
lemma numbered_append (n : ℕ) (cs ds : List Criterion) :
    numbered n (cs ++ ds) = numbered n cs ++ numbered (n + cs.length) ds := by
  unfold numbered
  rw [List.mapIdx_append]
  simp only [Nat.add_comm, Nat.add_left_comm]

/-- What holds of the condition of each filter, and of two conditions with the connective between
them when it holds of both, holds of the condition that is joined from all.  Conditions are told the
number of their first place and the filters that they are made of. -/
lemma joined_induction {connective : Logic → Logic → Logic} {R : ℕ → List Filter → Logic → Prop}
    {f : Filter} {fs : List Filter} (hone : ∀ g ∈ f :: fs, ∀ n, R n [g] (logic n g))
    (hjoin : ∀ n g gs a b, R n [g] a → R (n + places g) gs b → R n (g :: gs) (connective a b))
    (n : ℕ) : R n (f :: fs) (joined connective (logic n f) (n + places f) fs) := by
  have hfirst := hone f List.mem_cons_self n
  induction fs generalizing f n with
  | nil => exact hfirst
  | cons g rest ih =>
    have hothers : ∀ h ∈ g :: rest, ∀ n, R n [h] (logic n h) := fun h hh =>
      hone h (List.mem_cons_of_mem f hh)
    rw [joined]
    exact hjoin n f (g :: rest) _ _ hfirst (ih hothers _ (hothers g List.mem_cons_self _))

/-- The leaves of a joined condition are the criteria of the filters. -/
lemma leaves_joined {connective : Logic → Logic → Logic}
    (hconnective : ∀ a b, (connective a b).leaves = a.leaves ++ b.leaves) {f : Filter}
    {fs : List Filter} (hfs : ∀ g ∈ f :: fs, ∀ n, (logic n g).leaves = numbered n g.criteria)
    (n : ℕ) : (joined connective (logic n f) (n + places f) fs).leaves =
      numbered n (Filter.criteriaOf (f :: fs)) := by
  refine joined_induction (R := fun n fs e => e.leaves = numbered n (Filter.criteriaOf fs))
    (fun g hg n => ?_) (fun n g gs a b ha hb => ?_) n
  · rw [Filter.criteriaOf, Filter.criteriaOf, List.append_nil]
    exact hfs g hg n
  · rw [Filter.criteriaOf, Filter.criteriaOf, List.append_nil] at ha
    rw [hconnective, ha, hb, Filter.criteriaOf, numbered_append, places_eq]

/-- The leaves of the condition that is read are the criteria of the filter. -/
lemma leaves_logic (f : Filter) : ∀ n, (logic n f).leaves = numbered n f.criteria := by
  induction f using Filter.induction with
  | is c => exact fun n => rfl
  | not f ih => exact ih
  | all fs ih =>
    intro n
    cases fs with
    | nil => rfl
    | cons f rest => exact leaves_joined (fun _ _ => rfl) ih n
  | any fs ih =>
    intro n
    cases fs with
    | nil => rfl
    | cons f rest => exact leaves_joined (fun _ _ => rfl) ih n

/-- A criterion is as true as it is assigned to its number. -/
def assignedTruth (assigned : ℕ → Bool) (_ : String) (_ : Comparison) (place : ℕ) : Truth :=
  .ofBool (assigned place)

section Verdict

variable {assigned : ℕ → Bool}

/-- Whether the condition of a filter has the truth value of the filter, wherever its numbers
begin. -/
def Decides (assigned : ℕ → Bool) (f : Filter) : Prop :=
  ∀ n, (logic n f).truth (assignedTruth assigned) = .ofBool (f.verdict assigned n)

/-- The truth value of a joined condition. -/
lemma truth_joined {connective : Logic → Logic → Logic} {combine : Truth → Truth → Truth}
    {op : Bool → Bool → Bool} {unit : Bool}
    (hconnective : ∀ a b, (connective a b).truth (assignedTruth assigned) =
      combine (a.truth (assignedTruth assigned)) (b.truth (assignedTruth assigned)))
    (hop : ∀ x y, combine (.ofBool x) (.ofBool y) = .ofBool (op x y)) (hunit : ∀ x, op x unit = x)
    {f : Filter} {fs : List Filter} (hfs : ∀ g ∈ f :: fs, Decides assigned g) (n : ℕ) :
    (joined connective (logic n f) (n + places f) fs).truth (assignedTruth assigned) =
      .ofBool (Filter.verdictOf assigned op unit n (f :: fs)) := by
  refine joined_induction (R := fun n fs e => e.truth (assignedTruth assigned) =
    .ofBool (Filter.verdictOf assigned op unit n fs))
    (fun g hg n => ?_) (fun n g gs a b ha hb => ?_) n
  · rw [Filter.verdictOf, Filter.verdictOf, hunit]
    exact hfs g hg n
  · rw [Filter.verdictOf, Filter.verdictOf, hunit] at ha
    rw [hconnective, ha, hb, hop, Filter.verdictOf, places_eq]

/-- The condition that is read has the truth value of the filter, whatever is assigned. -/
lemma truth_logic (assigned : ℕ → Bool) (f : Filter) : Decides assigned f := by
  induction f using Filter.induction with
  | is c => exact fun n => rfl
  | not f ih =>
    intro n
    rw [logic, Logic.truth, ih n, Filter.verdict]
    exact Truth.not_ofBool _
  | all fs ih =>
    intro n
    cases fs with
    | nil => rfl
    | cons f rest => exact truth_joined (fun _ _ => rfl) Truth.and_ofBool Bool.and_true ih n
  | any fs ih =>
    intro n
    cases fs with
    | nil => rfl
    | cons f rest => exact truth_joined (fun _ _ => rfl) Truth.or_ofBool Bool.or_false ih n

end Verdict

/-! ### Outlines -/

/-- A piece with its value left out. -/
def Piece.blank : Piece → Piece
  | text s => text s
  | bound _ => bound .null

/-- The text of pieces does not depend on their values. -/
lemma Piece.render_eq_of_map_blank {ps qs : List Piece} (h : ps.map blank = qs.map blank) (n : ℕ) :
    render n ps = render n qs := by
  have hblank : ∀ (ps : List Piece) (n : ℕ), render n (ps.map blank) = render n ps := by
    intro ps
    induction ps with
    | nil => exact fun n => rfl
    | cons p rest ih =>
      intro n
      cases p with
      | text s => exact congrArg (s ++ ·) (ih n)
      | bound c => exact congrArg ("$" ++ toString n ++ ·) (ih (n + 1))
  rw [← hblank ps n, h, hblank qs n]

/-- Leaving out the values of a filter leaves out those of its condition, and nothing else. -/
lemma map_blank_conditions {connective : String} {fs : List Filter}
    (hfs : ∀ f ∈ fs, (condition f.outline).map Piece.blank = (condition f).map Piece.blank) :
    (conditions connective (Filter.outlines fs)).map Piece.blank =
      (conditions connective fs).map Piece.blank := by
  induction fs with
  | nil => rfl
  | cons f rest ih =>
    have hrest := ih fun g hg => hfs g (List.mem_cons_of_mem f hg)
    simp only [Filter.outlines, conditions, List.map_cons, List.map_append, List.cons_append,
      hfs f List.mem_cons_self, hrest]

/-- Leaving out the values of a filter leaves out those of its condition, and nothing else. -/
lemma map_blank_condition (f : Filter) :
    (condition f.outline).map Piece.blank = (condition f).map Piece.blank := by
  induction f using Filter.induction with
  | is c => cases c <;> rfl
  | not f ih => exact congrArg (Piece.text " NOT" :: ·) ih
  | all fs ih | any fs ih =>
    cases fs with
    | nil => rfl
    | cons f rest =>
      have hrest : ∀ connective, (conditions connective (Filter.outlines rest)).map Piece.blank =
          (conditions connective rest).map Piece.blank := fun _ =>
        map_blank_conditions fun g hg => ih g (List.mem_cons_of_mem f hg)
      simp only [Filter.outline, Filter.outlines, condition, List.map_cons, List.map_append,
        List.cons_append, ih f List.mem_cons_self, hrest]

-- Only conjunctions and disjunctions are put in brackets.
example : Piece.render 1 (condition (.all [.is (.queue "default"),
    .any [.is (.status .failed), .is (.status .cancelled)],
    .not (.is (.scheduledBefore .epoch))])) =
      " ( queue_name = $1 AND ( status = $2 OR status = $3) AND NOT scheduled_at < $4)" := by
  decide

-- Without brackets a negation is read before a conjunction, and that before a disjunction.
example : Logic.ofText? " NOT a = $1 AND b < $2 OR c > $3" =
    some (.or (.and (.not (.leaf "a" .equal 1)) (.leaf "b" .less 2)) (.leaf "c" .greater 3)) := by
  decide

end Sql

end LeaseQueue
