import LeaseQueue.Proofs.Text.Digits
import LeaseQueue.Sql.Condition
import LeaseQueue.Sql.Grammar
import Mathlib.Data.List.Basic

/-!
# Reading the condition of a filter

The text of a filter's condition, read by the grammar of conditions, is the condition that the
filter is meant to be (`Logic.ofText?_render`).  The proof follows the two halves of the reader.  A
text is cut into words and brackets, and those of a condition are the ones that the filter calls for
(`Token.scans`); words and brackets are put together, and those of a filter make its
condition, whatever follows them (`Logic.reads`).
-/

namespace LeaseQueue

/-- What holds of single criteria and is handed on by the connectives holds of all filters. -/
@[elab_as_elim]
theorem Filter.induction {P : Filter → Prop} (is : ∀ c, P (.is c)) (not : ∀ f, P f → P (.not f))
    (all : ∀ fs, (∀ f ∈ fs, P f) → P (.all fs)) (any : ∀ fs, (∀ f ∈ fs, P f) → P (.any fs)) :
    ∀ f, P f
  | .is c => is c
  | .not f => not f (Filter.induction is not all any f)
  | .all fs => all fs fun f _ => Filter.induction is not all any f
  | .any fs => any fs fun f _ => Filter.induction is not all any f

namespace Sql

/-! ### Pieces -/

namespace Piece

/-- The values bound in pieces in a row. -/
lemma values_append (ps qs : List Piece) : values (ps ++ qs) = values ps ++ values qs := by
  induction ps with
  | nil => rfl
  | cons p rest ih => cases p <;> simp [values, ih]

/-- The text of pieces in a row: the numbers go on where the first ones end. -/
lemma render_append (n : ℕ) (ps qs : List Piece) :
    render n (ps ++ qs) = render n ps ++ render (n + (values ps).length) qs := by
  induction ps generalizing n with
  | nil => simp [render, values]
  | cons p rest ih =>
    cases p with
    | text s => simp [render, values, ih, String.append_assoc]
    | bound c =>
      have hnumber : n + 1 + (values rest).length = n + ((values rest).length + 1) := by omega
      simp [render, values, ih, String.append_assoc, hnumber]

end Piece

/-! ### What a filter is meant to be -/

/-- The column that a criterion looks at. -/
def column : Criterion → String
  | .id _ => "id"
  | .queue _ => "queue_name"
  | .type _ => "job_type"
  | .status _ => "status"
  | .payload _ => "payload"
  | .organization _ => "organization_id"
  | .scheduledBefore _ | .scheduledAfter _ => "scheduled_at"

/-- How a criterion compares its column. -/
def sign : Criterion → Comparison
  | .scheduledBefore _ => .less
  | .scheduledAfter _ => .greater
  | _ => .equal

/-- A comparison is written as its column and its sign. -/
lemma comparison_eq (c : Criterion) : comparison c = column c ++ " " ++ (sign c).sign := by
  cases c <;> rfl

/-- The number of values that a filter binds. -/
def places (f : Filter) : ℕ := (Piece.values (condition f)).length

/-- The text of a condition and of what follows it. -/
lemma render_condition_append (n : ℕ) (f : Filter) (ps : List Piece) :
    Piece.render n (condition f ++ ps) =
      Piece.render n (condition f) ++ Piece.render (n + places f) ps :=
  Piece.render_append n _ ps

mutual

/-- The condition that a filter is meant to be, its values numbered from `n` on. -/
def logic (n : ℕ) : Filter → Logic
  | .is c => .leaf (column c) (sign c) n
  | .not f => .not (logic n f)
  | .all [] => .constant true
  | .all (f :: fs) => joined .and (logic n f) (n + places f) fs
  | .any [] => .constant false
  | .any (f :: fs) => joined .or (logic n f) (n + places f) fs
termination_by structural f => f

/-- A condition and those of further filters, put together by a connective. -/
def joined (connective : Logic → Logic → Logic) (e : Logic) (n : ℕ) : List Filter → Logic
  | [] => e
  | f :: fs => connective e (joined connective (logic n f) (n + places f) fs)
termination_by structural fs => fs

end

mutual

/-- The words and brackets that a filter calls for. -/
def tokens (n : ℕ) : Filter → List Token
  | .is c => [.word (column c).toList, .word (sign c).sign.toList, .word ('$' :: Digits.ofNat n)]
  | .not f => .word ['N', 'O', 'T'] :: tokens n f
  | .all [] => [.word ['T', 'R', 'U', 'E']]
  | .all (f :: fs) =>
    .opening :: (tokens n f ++ joinedTokens ['A', 'N', 'D'] (n + places f) fs ++ [.closing])
  | .any [] => [.word ['F', 'A', 'L', 'S', 'E']]
  | .any (f :: fs) =>
    .opening :: (tokens n f ++ joinedTokens ['O', 'R'] (n + places f) fs ++ [.closing])
termination_by structural f => f

/-- The words and brackets of further filters, each after the connective. -/
def joinedTokens (connective : List Char) (n : ℕ) : List Filter → List Token
  | [] => []
  | f :: fs => .word connective :: (tokens n f ++ joinedTokens connective (n + places f) fs)
termination_by structural fs => fs

end

/-! ### Cutting a text into words and brackets -/

namespace Token

/-- Whether a character belongs to a word. -/
def InWord (c : Char) : Prop := c ≠ ' ' ∧ c ≠ '(' ∧ c ≠ ')'

instance (c : Char) : Decidable (InWord c) := inferInstanceAs (Decidable (_ ∧ _))

/-- Whether a word ends where a text goes on. -/
def EndsWord (text : List Char) : Prop := ∀ c rest, text = c :: rest → ¬InWord c

/-- The characters of a word are added to what has begun. -/
lemma scan_append {word : List Char} (hword : ∀ c ∈ word, InWord c) (begun text : List Char) :
    scan begun (word ++ text) = scan (begun ++ word) text := by
  induction word generalizing begun with
  | nil => simp
  | cons c rest ih =>
    obtain ⟨hblank, hopening, hclosing⟩ := hword c List.mem_cons_self
    have hrest := ih (fun d hd => hword d (List.mem_cons_of_mem c hd)) (begun ++ [c])
    rw [List.cons_append, scan, if_neg hblank, if_neg hopening, if_neg hclosing, hrest,
      List.append_assoc, List.singleton_append]

/-- What has begun ends where a word ends. -/
lemma scan_of_endsWord {text : List Char} (htext : EndsWord text) (begun : List Char) :
    scan begun text = ended begun ++ scan [] text := by
  cases text with
  | nil => simp [scan, ended]
  | cons c rest =>
    have hc := htext c rest rfl
    unfold InWord at hc
    by_cases hblank : c = ' '
    · simp [scan, hblank, ended]
    · by_cases hopening : c = '('
      · simp [scan, hopening, ended]
      · have hclosing : c = ')' := by tauto
        simp [scan, hclosing, ended]

/-- A word is cut off from what follows it. -/
lemma scan_word {word text : List Char} (hword : ∀ c ∈ word, InWord c) (hne : word ≠ [])
    (htext : EndsWord text) : scan [] (word ++ text) = .word word :: scan [] text := by
  have hended : ended word = [.word word] := by
    unfold ended
    rw [List.isEmpty_eq_false_iff.2 hne]
    rfl
  rw [scan_append hword, List.nil_append, scan_of_endsWord htext, hended, List.singleton_append]

/-- A text that goes on with a blank or a closing bracket, or not at all, ends a word. -/
lemma endsWord_nil : EndsWord [] := fun _ _ h => by cases h

/-- A blank ends a word. -/
lemma endsWord_blank (text : List Char) : EndsWord (' ' :: text) := by
  intro c rest h
  obtain ⟨rfl, -⟩ := List.cons.inj h
  exact fun hc => hc.1 rfl

/-- A closing bracket ends a word. -/
lemma endsWord_closing (text : List Char) : EndsWord (')' :: text) := by
  intro c rest h
  obtain ⟨rfl, -⟩ := List.cons.inj h
  exact fun hc => hc.2.2 rfl

/-- A blank before a word is skipped. -/
lemma scan_blank (text : List Char) : scan [] (' ' :: text) = scan [] text := rfl

/-- An opening bracket stands for itself. -/
lemma scan_opening (text : List Char) : scan [] ('(' :: text) = .opening :: scan [] text := rfl

/-- A closing bracket stands for itself. -/
lemma scan_closing (text : List Char) : scan [] (')' :: text) = .closing :: scan [] text := rfl

/-- The characters of a numbered place belong to a word. -/
lemma inWord_place (n : ℕ) : ∀ c ∈ '$' :: Digits.ofNat n, InWord c := by
  intro c hc
  rcases List.mem_cons.1 hc with rfl | hc
  · exact ⟨by decide, by decide, by decide⟩
  · have hdigit : c.isDigit = true := Nat.isDigit_of_mem_toDigits (by decide) (by decide) hc
    refine ⟨?_, ?_, ?_⟩ <;>
    · rintro rfl
      exact absurd hdigit (by decide)

/-- A text whose characters pass the test one by one is a word. -/
lemma inWord_of_all {text : List Char} (h : (text.all fun d => decide (InWord d)) = true) :
    ∀ d ∈ text, InWord d :=
  fun d hd => of_decide_eq_true (List.all_eq_true.1 h d hd)

/-- The names of columns are words. -/
lemma inWord_column (c : Criterion) :
    (∀ d ∈ (column c).toList, InWord d) ∧ (column c).toList ≠ [] := by
  cases c <;> exact ⟨inWord_of_all (by simp only [column]; decide), by simp only [column]; decide⟩

/-- The signs of comparisons are words. -/
lemma inWord_sign (c : Comparison) : (∀ d ∈ c.sign.toList, InWord d) ∧ c.sign.toList ≠ [] := by
  cases c <;> exact ⟨inWord_of_all (by decide), by decide⟩

/-- The condition of a filter begins with a blank. -/
lemma endsWord_condition (n : ℕ) (f : Filter) (text : List Char) :
    EndsWord ((Piece.render n (condition f)).toList ++ text) := by
  have hblank : ∃ rest, (Piece.render n (condition f)).toList = ' ' :: rest := by
    cases f with
    | is c => simp [condition, Piece.render]
    | not f => simp [condition, Piece.render]
    | all fs => cases fs <;> simp [condition, Piece.render]
    | any fs => cases fs <;> simp [condition, Piece.render]
  obtain ⟨rest, hrest⟩ := hblank
  rw [hrest]
  exact endsWord_blank _

/-- So do those of further filters, if there are any. -/
lemma endsWord_conditions (connective : List Char) (fs : List Filter) (n : ℕ) {text : List Char}
    (htext : EndsWord text) :
    EndsWord ((Piece.render n (conditions (String.ofList (' ' :: connective)) fs)).toList ++
      text) := by
  cases fs with
  | nil => exact htext
  | cons f rest =>
    simp only [conditions, Piece.render, String.toList_append, String.toList_ofList,
      List.cons_append]
    exact endsWord_blank _

/-- Whether the words and brackets of a filter's condition are those that the filter calls for. -/
def Scans (f : Filter) : Prop :=
  ∀ n text, EndsWord text →
    scan [] ((Piece.render n (condition f)).toList ++ text) = tokens n f ++ scan [] text

/-- The words and brackets of the conditions of further filters. -/
lemma scan_conditions {connective : List Char} (hword : ∀ c ∈ connective, InWord c)
    (hne : connective ≠ []) {fs : List Filter} (hfs : ∀ f ∈ fs, Scans f) (n : ℕ)
    {text : List Char} (htext : EndsWord text) :
    scan [] ((Piece.render n (conditions (String.ofList (' ' :: connective)) fs)).toList ++ text) =
      joinedTokens connective n fs ++ scan [] text := by
  induction fs generalizing n with
  | nil => rfl
  | cons f rest ih =>
    have hrest := ih (fun g hg => hfs g (List.mem_cons_of_mem f hg)) (n + places f)
    have hends := endsWord_conditions connective rest (n + places f) htext
    simp only [conditions, joinedTokens, Piece.render, render_condition_append,
      String.toList_append, String.toList_ofList, List.cons_append, List.append_assoc]
    rw [scan_blank, scan_word hword hne (endsWord_condition n f _),
      hfs f List.mem_cons_self n _ hends, hrest]

/-- The words and brackets of conditions in brackets. -/
lemma scan_bracket {connective : List Char} (hword : ∀ c ∈ connective, InWord c)
    (hne : connective ≠ []) {f : Filter} {fs : List Filter} (hfs : ∀ g ∈ f :: fs, Scans g) (n : ℕ)
    (text : List Char) :
    scan [] ((Piece.render n (.text " (" :: condition f ++
        conditions (String.ofList (' ' :: connective)) fs ++ [.text ")"])).toList ++ text) =
      .opening :: (tokens n f ++ joinedTokens connective (n + places f) fs ++ [.closing]) ++
        scan [] text := by
  have hends := endsWord_conditions connective fs (n + places f) (endsWord_closing text)
  have hrest := scan_conditions hword hne (fun g hg => hfs g (List.mem_cons_of_mem f hg))
    (n + places f) (endsWord_closing text)
  have hlast : ∀ m, (Piece.render m [.text ")"]).toList = [')'] := by simp [Piece.render]
  have hrender : (Piece.render n (.text " (" :: condition f ++
        conditions (String.ofList (' ' :: connective)) fs ++ [.text ")"])).toList ++ text =
      ' ' :: '(' :: ((Piece.render n (condition f)).toList ++
        ((Piece.render (n + places f) (conditions (String.ofList (' ' :: connective)) fs)).toList ++
          ')' :: text)) := by
    rw [List.cons_append, List.cons_append, List.append_assoc, Piece.render,
      render_condition_append, Piece.render_append]
    simp only [String.toList_append, hlast, List.append_assoc, List.singleton_append]
    rfl
  rw [hrender, scan_blank, scan_opening, hfs f List.mem_cons_self n _ hends, hrest, scan_closing]
  simp only [List.cons_append, List.append_assoc, List.nil_append]

/-- The words and brackets of a condition are those that its filter calls for. -/
lemma scans (f : Filter) : Scans f := by
  induction f using Filter.induction with
  | is c =>
    intro n text htext
    obtain ⟨hcolumn, hcolumn'⟩ := inWord_column c
    obtain ⟨hsign, hsign'⟩ := inWord_sign (sign c)
    have hplace : (toString n).toList = Digits.ofNat n := by
      rw [Nat.toString_eq_ofList_toDigits, String.toList_ofList]
      rfl
    have hblank : " ".toList = [' '] := rfl
    have hmark : "$".toList = ['$'] := rfl
    simp only [condition, tokens, Piece.render, comparison_eq, String.toList_append, hplace,
      hblank, hmark, List.append_assoc, List.cons_append, List.nil_append]
    rw [scan_blank, scan_word hcolumn hcolumn' (endsWord_blank _), scan_blank,
      scan_word hsign hsign' (endsWord_blank _), scan_blank]
    exact congrArg _ (congrArg _ (scan_word (inWord_place n) (List.cons_ne_nil _ _) htext))
  | not f ih =>
    intro n text htext
    have hword : ∀ c ∈ ['N', 'O', 'T'], InWord c := by simp [InWord]
    simp only [condition, tokens, Piece.render, String.toList_append, List.append_assoc,
      List.cons_append]
    rw [show " NOT".toList = ' ' :: ['N', 'O', 'T'] from rfl, List.cons_append, scan_blank,
      scan_word hword (List.cons_ne_nil _ _) (endsWord_condition n f text), ih n text htext]
  | all fs ih =>
    intro n text htext
    cases fs with
    | nil =>
      have hword : ∀ c ∈ ['T', 'R', 'U', 'E'], InWord c := by simp [InWord]
      have hrender : (Piece.render n [.text " TRUE"]).toList = ' ' :: ['T', 'R', 'U', 'E'] := by
        simp [Piece.render]
      rw [condition, tokens, hrender, List.cons_append, scan_blank,
        scan_word hword (List.cons_ne_nil _ _) htext, List.singleton_append]
    | cons f rest => exact scan_bracket (by simp [InWord]) (List.cons_ne_nil _ _) ih n text
  | any fs ih =>
    intro n text htext
    cases fs with
    | nil =>
      have hword : ∀ c ∈ ['F', 'A', 'L', 'S', 'E'], InWord c := by simp [InWord]
      have hrender : (Piece.render n [.text " FALSE"]).toList =
          ' ' :: ['F', 'A', 'L', 'S', 'E'] := by
        simp [Piece.render]
      rw [condition, tokens, hrender, List.cons_append, scan_blank,
        scan_word hword (List.cons_ne_nil _ _) htext, List.singleton_append]
    | cons f rest => exact scan_bracket (by simp [InWord]) (List.cons_ne_nil _ _) ih n text

end Token

/-! ### Putting words and brackets together -/

namespace Logic

section Steps

variable {fuel : ℕ} {ts rest rest' : List Token} {a b : Logic}

/-- A condition that no `AND` follows. -/
lemma readAnd?_single (ha : readNot? fuel ts = some (a, rest))
    (hrest : ∀ r, rest ≠ .word ['A', 'N', 'D'] :: r) :
    readAnd? (fuel + 1) ts = some (a, rest) := by
  simp only [readAnd?, ha, Option.bind_eq_bind, Option.bind_some]
  rfl

/-- A condition and those that follow it after an `AND`. -/
lemma readAnd?_cons (ha : readNot? fuel ts = some (a, .word ['A', 'N', 'D'] :: rest))
    (hb : readAnd? fuel rest = some (b, rest')) :
    readAnd? (fuel + 1) ts = some (.and a b, rest') := by
  simp only [readAnd?, ha, hb, Option.bind_eq_bind, Option.bind_some]
  rfl

/-- A condition that no `OR` follows. -/
lemma readOr?_single (ha : readAnd? fuel ts = some (a, rest))
    (hrest : ∀ r, rest ≠ .word ['O', 'R'] :: r) : readOr? (fuel + 1) ts = some (a, rest) := by
  simp only [readOr?, ha, Option.bind_eq_bind, Option.bind_some]
  rfl

/-- A condition and those that follow it after an `OR`. -/
lemma readOr?_cons (ha : readAnd? fuel ts = some (a, .word ['O', 'R'] :: rest))
    (hb : readOr? fuel rest = some (b, rest')) :
    readOr? (fuel + 1) ts = some (.or a b, rest') := by
  simp only [readOr?, ha, hb, Option.bind_eq_bind, Option.bind_some]
  rfl

end Steps

/-- A comparison is read back. -/
lemma leaf?_criterion (c : Criterion) (n : ℕ) :
    leaf? (column c).toList (sign c).sign.toList ('$' :: Digits.ofNat n) =
      some (.leaf (column c) (sign c) n) := by
  have hsign : Comparison.ofSign? (sign c).sign = some (sign c) := by cases sign c <;> decide
  have hplace : place? ('$' :: Digits.ofNat n) = some n := Digits.toNat?_ofNat n
  simp only [leaf?, String.ofList_toList, hsign, hplace, Option.bind_eq_bind, Option.bind_some]
  rfl

/-- The words of a criterion make its comparison. -/
lemma readNot?_criterion (c : Criterion) (n fuel : ℕ) (rest : List Token) :
    readNot? (fuel + 1) (tokens n (.is c) ++ rest) = some (logic n (.is c), rest) := by
  have hleaf := leaf?_criterion c n
  have hnot : (column c).toList ≠ ['N', 'O', 'T'] := by
    cases c <;> simp only [column] <;> decide
  have htrue : (column c).toList ≠ ['T', 'R', 'U', 'E'] := by
    cases c <;> simp only [column] <;> decide
  have hfalse : (column c).toList ≠ ['F', 'A', 'L', 'S', 'E'] := by
    cases c <;> simp only [column] <;> decide
  simp only [tokens, logic, List.cons_append, List.nil_append, readNot?, hleaf, Option.map_some]

/-- Whether the words and brackets of a filter make its condition, whatever follows them. -/
def Reads (f : Filter) : Prop :=
  ∀ n fuel rest, 3 * (tokens n f).length ≤ fuel →
    readNot? fuel (tokens n f ++ rest) = some (logic n f, rest)

/-- The words of conditions with `AND` between them. -/
lemma readAnd?_joined {f : Filter} {fs : List Filter} (hfs : ∀ g ∈ f :: fs, Reads g) (n : ℕ)
    (fuel : ℕ) {rest : List Token} (hrest : ∀ r, rest ≠ .word ['A', 'N', 'D'] :: r)
    (hfuel : 3 * (tokens n f ++ joinedTokens ['A', 'N', 'D'] (n + places f) fs).length < fuel) :
    readAnd? fuel (tokens n f ++ joinedTokens ['A', 'N', 'D'] (n + places f) fs ++ rest) =
      some (joined .and (logic n f) (n + places f) fs, rest) := by
  induction fs generalizing f n fuel with
  | nil =>
    obtain ⟨fuel, rfl⟩ : ∃ k, fuel = k + 1 := ⟨fuel - 1, by omega⟩
    have hread := hfs f List.mem_cons_self n fuel rest (by simp at hfuel; omega)
    simpa [joinedTokens, joined] using readAnd?_single hread hrest
  | cons g gs ih =>
    obtain ⟨fuel, rfl⟩ : ∃ k, fuel = k + 1 := ⟨fuel - 1, by omega⟩
    simp only [joinedTokens, List.length_append, List.length_cons] at hfuel
    have hread := hfs f List.mem_cons_self n fuel
      (joinedTokens ['A', 'N', 'D'] (n + places f) (g :: gs) ++ rest) (by omega)
    have hothers := ih (fun h hh => hfs h (List.mem_cons_of_mem f hh)) (n + places f)
      fuel (by simp only [List.length_append]; omega)
    rw [List.append_assoc]
    exact readAnd?_cons hread (by simpa using hothers)

/-- The words of conditions with `OR` between them. -/
lemma readOr?_joined {f : Filter} {fs : List Filter} (hfs : ∀ g ∈ f :: fs, Reads g) (n : ℕ)
    (fuel : ℕ) {rest : List Token} (hand : ∀ r, rest ≠ .word ['A', 'N', 'D'] :: r)
    (hor : ∀ r, rest ≠ .word ['O', 'R'] :: r)
    (hfuel : 3 * (tokens n f ++ joinedTokens ['O', 'R'] (n + places f) fs).length + 1 < fuel) :
    readOr? fuel (tokens n f ++ joinedTokens ['O', 'R'] (n + places f) fs ++ rest) =
      some (joined .or (logic n f) (n + places f) fs, rest) := by
  induction fs generalizing f n fuel with
  | nil =>
    obtain ⟨fuel, rfl⟩ : ∃ k, fuel = k + 2 := ⟨fuel - 2, by omega⟩
    have hread := hfs f List.mem_cons_self n fuel rest (by simp at hfuel; omega)
    simpa [joinedTokens, joined] using readOr?_single (readAnd?_single hread hand) hor
  | cons g gs ih =>
    obtain ⟨fuel, rfl⟩ : ∃ k, fuel = k + 2 := ⟨fuel - 2, by omega⟩
    simp only [joinedTokens, List.length_append, List.length_cons] at hfuel
    have hread := hfs f List.mem_cons_self n fuel
      (joinedTokens ['O', 'R'] (n + places f) (g :: gs) ++ rest) (by omega)
    have hothers := ih (fun h hh => hfs h (List.mem_cons_of_mem f hh)) (n + places f)
      (fuel + 1) (by simp only [List.length_append]; omega)
    rw [List.append_assoc]
    refine readOr?_cons (readAnd?_single hread ?_) (by simpa using hothers)
    simp

/-- The words and brackets of a filter make its condition. -/
lemma reads (f : Filter) : Reads f := by
  induction f using Filter.induction with
  | is c =>
    intro n fuel rest hfuel
    obtain ⟨fuel, rfl⟩ : ∃ k, fuel = k + 1 := ⟨fuel - 1, by simp [tokens] at hfuel; omega⟩
    exact readNot?_criterion c n fuel rest
  | not f ih =>
    intro n fuel rest hfuel
    simp only [tokens, List.length_cons] at hfuel
    obtain ⟨fuel, rfl⟩ : ∃ k, fuel = k + 1 := ⟨fuel - 1, by omega⟩
    simp only [tokens, logic, List.cons_append, readNot?, ih n fuel rest (by omega),
      Option.map_some]
  | all fs ih =>
    intro n fuel rest hfuel
    cases fs with
    | nil =>
      obtain ⟨fuel, rfl⟩ : ∃ k, fuel = k + 1 := ⟨fuel - 1, by simp [tokens] at hfuel; omega⟩
      rfl
    | cons f fs =>
      simp only [tokens, List.length_cons, List.length_append, List.length_nil] at hfuel
      obtain ⟨fuel, rfl⟩ : ∃ k, fuel = k + 2 := ⟨fuel - 2, by omega⟩
      have hclosing : ∀ w r, Token.closing :: rest ≠ .word w :: r := by simp
      have hread := readAnd?_joined ih n fuel (hclosing _)
        (by simp only [List.length_append]; omega)
      have hinner := readOr?_single hread (hclosing _)
      simp only [tokens, logic, List.cons_append, List.append_assoc, List.nil_append] at hinner ⊢
      simp only [readNot?, hinner]
  | any fs ih =>
    intro n fuel rest hfuel
    cases fs with
    | nil =>
      obtain ⟨fuel, rfl⟩ : ∃ k, fuel = k + 1 := ⟨fuel - 1, by simp [tokens] at hfuel; omega⟩
      rfl
    | cons f fs =>
      simp only [tokens, List.length_cons, List.length_append, List.length_nil] at hfuel
      obtain ⟨fuel, rfl⟩ : ∃ k, fuel = k + 1 := ⟨fuel - 1, by omega⟩
      have hclosing : ∀ w r, Token.closing :: rest ≠ .word w :: r := by simp
      have hinner := readOr?_joined ih n fuel (hclosing _) (hclosing _)
        (by simp only [List.length_append]; omega)
      simp only [tokens, logic, List.cons_append, List.append_assoc, List.nil_append] at hinner ⊢
      simp only [readNot?, hinner]

/-- The text of a filter's condition is read as the condition that the filter is meant to be. -/
theorem ofText?_render (n : ℕ) (f : Filter) :
    ofText? (Piece.render n (condition f)) = some (logic n f) := by
  have hscan := Token.scans f n [] Token.endsWord_nil
  have htokens : Token.ofText (Piece.render n (condition f)) = tokens n f := by
    simpa [Token.ofText, Token.scan, Token.ended] using hscan
  have hread := reads f n (3 * (tokens n f).length + 1) [] (by omega)
  have hall := readOr?_single (readAnd?_single hread (by simp)) (by simp)
  rw [List.append_nil] at hall
  unfold ofText? ofTokens?
  rw [htokens, hall]

end Logic

end Sql

end LeaseQueue
