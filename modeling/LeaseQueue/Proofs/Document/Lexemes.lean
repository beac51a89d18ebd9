import LeaseQueue.Document.Reader
import LeaseQueue.Document.Writer
import LeaseQueue.Proofs.Double.Shortest
import LeaseQueue.Proofs.Text.Digits

/-!
# Strings and numbers that are read back

What stands in a written document between its brackets and commas are strings and numbers.  A string
is read back whatever its characters (`Reader.readString?_write`).  A number is written in parts,
digits before and behind a point and an exponent (`Number.Parts`), and the reader finds these parts
again (`Reader.readNumber?_write`); what it makes of them is `Number.reread?`.  An integer that fits
a word of 64 bits is made the same again (`Number.readsBack_integer`).
-/

namespace LeaseQueue

namespace Reader

/-- Whether a text goes on as it does behind a value: with a comma or a closing bracket, or not at
all. -/
def Stops (rest : List Char) : Prop := ∀ c ∈ rest.head?, c = ',' ∨ c = ']' ∨ c = '\x7d'

lemma stops_nil : Stops [] := fun c hc => by cases hc

lemma stops_comma (rest : List Char) : Stops (',' :: rest) := by
  rintro c ⟨⟩
  exact .inl rfl

lemma stops_bracket (rest : List Char) : Stops (']' :: rest) := by
  rintro c ⟨⟩
  exact .inr (.inl rfl)

lemma stops_brace (rest : List Char) : Stops ('\x7d' :: rest) := by
  rintro c ⟨⟩
  exact .inr (.inr rfl)

/-- Behind a value no digit lengthens it. -/
lemma Stops.ends {rest : List Char} (h : Stops rest) : Digits.Ends rest := by
  intro c hc
  rcases h c hc with rfl | rfl | rfl <;> rfl

/-! ### Strings -/

/-- An escaped code unit outside the surrogates stands for its character. -/
lemma readCodePoint?_hexFixed {n : ℕ} (hn : n < 0xd800) (rest : List Char) :
    readCodePoint? (Digits.hexFixed 4 n ++ rest) = some (Char.ofNat n, rest) := by
  have hlength := Digits.length_hexFixed 4 n
  have hfits : n < Nat.pow 16 4 := Nat.lt_trans hn (by decide)
  have hunit : readUnit? (Digits.hexFixed 4 n ++ rest) = some (n, rest) := by
    unfold readUnit?
    rw [List.take_left' hlength, List.drop_left' hlength, hlength, if_pos rfl,
      Digits.hexToNat?_hexFixed hfits]
    rfl
  unfold readCodePoint?
  rw [hunit]
  exact if_pos (.inl hn)

/-- A written character is read back in one step. -/
lemma readChars?_writeChar (c : Char) (fuel : ℕ) (rest : List Char) :
    readChars? (fuel + 1) (writeChar c ++ rest) =
      (readChars? fuel rest).map fun r => (c :: r.1, r.2) := by
  have hescape : ∀ e : List Char, readEscape? (e ++ rest) = some (c, rest) →
      readChars? (fuel + 1) ('\\' :: e ++ rest) =
        (readChars? fuel rest).map fun r => (c :: r.1, r.2) := by
    intro e he
    rw [List.cons_append, readChars?, if_neg (by decide), if_pos rfl, he]
    show (readChars? fuel rest).bind (fun r => some (c :: r.1, r.2)) = _
    cases readChars? fuel rest <;> rfl
  unfold writeChar
  split
  · exact hescape ['"'] rfl
  · exact hescape ['\\'] rfl
  · exact hescape ['n'] rfl
  · exact hescape ['r'] rfl
  · exact hescape ['t'] rfl
  · exact hescape ['b'] rfl
  · exact hescape ['f'] rfl
  · rename_i hquote hbackslash _ _ _ _ _
    split_ifs with hcontrol
    · have hsmall : c.toNat < 0xd800 := Nat.lt_trans hcontrol (by decide)
      have hpoint := readCodePoint?_hexFixed hsmall rest
      rw [Char.ofNat_toNat] at hpoint
      exact hescape ('u' :: Digits.hexFixed 4 c.toNat) hpoint
    · rw [List.singleton_append, readChars?, if_neg hquote, if_neg hbackslash, if_neg hcontrol]
      cases readChars? fuel rest <;> rfl

/-- Written characters are read back up to the quote behind them. -/
lemma readChars?_flatMap {cs : List Char} {fuel : ℕ} (hfuel : cs.length < fuel)
    (rest : List Char) :
    readChars? fuel (cs.flatMap writeChar ++ '"' :: rest) = some (cs, rest) := by
  induction cs generalizing fuel with
  | nil =>
    obtain ⟨fuel, rfl⟩ := Nat.exists_eq_succ_of_ne_zero (Nat.ne_of_gt hfuel)
    rfl
  | cons c cs ih =>
    obtain ⟨fuel, rfl⟩ := Nat.exists_eq_succ_of_ne_zero (Nat.ne_of_gt (Nat.zero_lt_of_lt hfuel))
    rw [List.flatMap_cons, List.append_assoc, readChars?_writeChar,
      ih (Nat.lt_of_succ_lt_succ hfuel)]
    rfl

/-- No character is written as nothing. -/
lemma length_le_flatMap_writeChar (cs : List Char) :
    cs.length ≤ (cs.flatMap writeChar).length := by
  have hone : ∀ c, 1 ≤ (writeChar c).length := by
    intro c
    unfold writeChar
    split
    all_goals try exact Nat.le_add_left _ _
    split_ifs <;> exact Nat.le_add_left _ _
  induction cs with
  | nil => exact Nat.zero_le _
  | cons c cs ih =>
    have hc := hone c
    rw [List.flatMap_cons, List.length_append, List.length_cons]
    omega

/-- A written string is read back behind its opening quote. -/
lemma readString?_write (s : String) (rest : List Char) :
    readString? (s.toList.flatMap writeChar ++ '"' :: rest) = some (s, rest) := by
  have hlength := length_le_flatMap_writeChar s.toList
  unfold readString?
  rw [readChars?_flatMap (by rw [List.length_append]; omega), Option.map_some, String.ofList_toList]

end Reader

/-! ### Numbers -/

namespace Number

/-- The parts in which a number is written, apart from its sign: digits before the point, digits
behind it if there is one, and an exponent if there is one. -/
structure Parts where
  whole : List Char
  places : Option (List Char) := none
  power : Option Int := none

namespace Parts

/-- The point and the digits behind it. -/
def writePlaces : Option (List Char) → List Char
  | none => []
  | some ds => '.' :: ds

/-- The exponent behind its letter and its sign. -/
def writePower : Option Int → List Char
  | none => []
  | some k => 'e' :: (if k < 0 then '-' else '+') :: Digits.ofNat k.natAbs

/-- The parts one behind the other. -/
def write (p : Parts) : List Char := p.whole ++ writePlaces p.places ++ writePower p.power

/-- Whether the digits are as they are in a document: some on either side of a point, and no zero
before other digits. -/
structure Proper (p : Parts) : Prop where
  whole_ne : p.whole ≠ []
  whole_digits : ∀ c ∈ p.whole, c.isDigit = true
  whole_head : p.whole = ['0'] ∨ p.whole.head? ≠ some '0'
  places_ne : ∀ ds ∈ p.places, ds ≠ []
  places_digits : ∀ ds ∈ p.places, ∀ c ∈ ds, c.isDigit = true

/-- The number that the parts stand for. -/
def number? (p : Parts) (negative : Bool) : Option Number :=
  ofParts? negative p.whole p.places p.power

end Parts

/-- Whether a number is written with a sign. -/
def isNegative : Number → Bool
  | integer n => decide (n < 0)
  | double d => d.negative

/-- What a number is read as when it was written. -/
def reread? (n : Number) : Option Number := (Reader.readNumber? n.write).map Prod.fst

/-- Whether a number is read back. -/
def ReadsBack (n : Number) : Prop := n.reread? = some n

instance (n : Number) : Decidable n.ReadsBack := inferInstanceAs (Decidable (_ = _))

end Number

namespace Reader

open Number (Parts)

variable {p : Parts} {rest : List Char}

/-- The digits before the point are found again. -/
lemma readWhole?_append (hp : p.Proper) (hrest : Digits.Ends rest) :
    readWhole? (p.whole ++ rest) = some (p.whole, rest) := by
  rcases hp.whole_head with hzero | hhead
  · rw [hzero]
    cases rest with
    | nil => rfl
    | cons c rest =>
      show (if c.isDigit then none else some (['0'], c :: rest)) = _
      rw [hrest c rfl]
      rfl
  · have hrun := Digits.run_append hp.whole_digits hrest
    cases hwhole : p.whole with
    | nil => exact absurd hwhole hp.whole_ne
    | cons c cs =>
      rw [hwhole] at hhead hrun
      have hc : c ≠ '0' := fun h => hhead (congrArg some h)
      rw [List.cons_append] at hrun ⊢
      unfold readWhole?
      split
      · rename_i hcons
        exact absurd (List.cons.inj hcons).1 hc
      · dsimp only
        rw [hrun]
        rfl

/-- What follows the digits behind a point, or takes the place of the point, is no digit. -/
lemma ends_writePower (hrest : Stops rest) (k : Option Int) :
    Digits.Ends (Parts.writePower k ++ rest) := by
  cases k with
  | none => exact hrest.ends
  | some k =>
    rintro c ⟨⟩
    rfl

lemma ends_writePlaces (hrest : Stops rest) (places : Option (List Char)) (k : Option Int) :
    Digits.Ends (Parts.writePlaces places ++ (Parts.writePower k ++ rest)) := by
  cases places with
  | none => exact ends_writePower hrest k
  | some ds =>
    rintro c ⟨⟩
    rfl

/-- The digits behind the point are found again. -/
lemma readFraction?_append (hp : p.Proper) (hrest : Stops rest) :
    readFraction? (Parts.writePlaces p.places ++ (Parts.writePower p.power ++ rest)) =
      some (p.places, Parts.writePower p.power ++ rest) := by
  have hends := ends_writePower hrest p.power
  cases hplaces : p.places with
  | none =>
    show readFraction? (Parts.writePower p.power ++ rest) = _
    unfold readFraction?
    split
    · rename_i hcons
      cases hpower : p.power with
      | none =>
        rw [hpower] at hcons
        have hpoint := hrest '.' (by rw [show rest = _ from hcons]; rfl)
        exact absurd hpoint (by decide)
      | some k =>
        rw [hpower] at hcons
        exact absurd (List.cons.inj hcons).1 (by decide)
    · rfl
  | some ds =>
    have hrun := Digits.run_append (hp.places_digits ds hplaces) hends
    show (let r := Digits.run (ds ++ (Parts.writePower p.power ++ rest))
      if r.1.isEmpty then none else some (some r.1, r.2)) = _
    rw [hrun]
    dsimp only
    rw [List.isEmpty_eq_false_iff.2 (hp.places_ne ds hplaces)]
    rfl

/-- The exponent is found again. -/
lemma readExponent?_append (hrest : Stops rest) (k : Option Int) :
    readExponent? (Parts.writePower k ++ rest) = some (k, rest) := by
  cases k with
  | none =>
    cases rest with
    | nil => rfl
    | cons c rest =>
      have hc : ¬(c = 'e' ∨ c = 'E') := by
        rcases hrest c rfl with rfl | rfl | rfl <;> decide
      exact if_neg hc
  | some k =>
    have hrun := Digits.run_append (Digits.isDigit_of_mem_ofNat (n := k.natAbs)) hrest.ends
    have hdigits : ∀ sign : Int, sign * k.natAbs = k →
        (let r := Digits.run (Digits.ofNat k.natAbs ++ rest)
          if r.1.isEmpty then none else some (some (sign * (Digits.toNat r.1 : Int)), r.2)) =
          some (some k, rest) := by
      intro sign hsign
      rw [hrun]
      dsimp only
      rw [List.isEmpty_eq_false_iff.2 (Digits.ofNat_ne_nil _), Digits.toNat_ofNat, hsign]
      rfl
    show readExponent?
      ('e' :: (if k < 0 then '-' else '+') :: (Digits.ofNat k.natAbs ++ rest)) = _
    split_ifs
    · exact hdigits (-1) (by omega)
    · exact hdigits 1 (by omega)

/-- The parts of a number are found again. -/
lemma readUnsigned?_write (hp : p.Proper) (hrest : Stops rest) (negative : Bool) :
    readUnsigned? negative (p.write ++ rest) =
      (p.number? negative).map fun n => (n, rest) := by
  have hwhole := readWhole?_append hp (ends_writePlaces hrest p.places p.power)
  have hplaces := readFraction?_append hp hrest
  have hpower := readExponent?_append hrest p.power
  unfold readUnsigned? Parts.write
  rw [List.append_assoc, List.append_assoc, hwhole]
  show (readFraction? _).bind _ = _
  rw [hplaces]
  show (readExponent? _).bind _ = _
  rw [hpower]
  show (p.number? negative).bind _ = _
  cases p.number? negative <;> rfl

end Reader

/-! ### Decimals -/

namespace Decimal

open Number (Parts)

/-- The place of the point, counted from the first digit on. -/
def point (c : Decimal) : Int := (Digits.ofNat c.coefficient).length + c.exponent

/-- The parts in which a decimal is written. -/
def parts (c : Decimal) : Parts :=
  let digits := Digits.ofNat c.coefficient
  if 0 ≤ c.exponent ∧ c.point ≤ 16 then
    { whole := digits ++ List.replicate c.exponent.toNat '0', places := some ['0'] }
  else if 0 < c.point ∧ c.point ≤ 16 then
    { whole := digits.take c.point.toNat, places := some (digits.drop c.point.toNat) }
  else if -5 < c.point ∧ c.point ≤ 0 then
    { whole := ['0'], places := some (List.replicate (-c.point).toNat '0' ++ digits) }
  else
    { whole := digits.take 1
      places := if (digits.drop 1).isEmpty then none else some (digits.drop 1)
      power := some (c.point - 1) }

/-- A decimal is written in its parts. -/
lemma write_eq (c : Decimal) : c.write = c.parts.write := by
  have hsign : ∀ k : Int, (k - 1 < 0) = (k ≤ 0) := fun k => propext ⟨by omega, by omega⟩
  unfold write parts point
  dsimp only
  split_ifs <;>
    simp only [*, Parts.write, Parts.writePlaces, Parts.writePower, List.append_assoc,
      List.append_nil, List.nil_append, List.cons_append, if_true, if_false]

/-- The parts of a decimal are as they are in a document, unless it is zero in a disguise. -/
lemma proper_parts {c : Decimal} (hc : c.coefficient = 0 → c.exponent ≤ 0) : c.parts.Proper := by
  have hdigits := Digits.isDigit_of_mem_ofNat (n := c.coefficient)
  have hlength := List.length_pos_iff.2 (Digits.ofNat_ne_nil c.coefficient)
  have hhead : c.coefficient = 0 ∧ Digits.ofNat c.coefficient = ['0'] ∨
      (Digits.ofNat c.coefficient).head? ≠ some '0' := by
    rcases Nat.eq_zero_or_pos c.coefficient with hzero | hpos
    · exact .inl ⟨hzero, by rw [hzero]; rfl⟩
    · exact .inr (Digits.head?_ofNat hpos)
  have hzeros : ∀ n, ∀ d ∈ List.replicate n '0', d.isDigit = true := by
    intro n d hd
    rw [List.eq_of_mem_replicate hd]
    rfl
  unfold parts point
  generalize Digits.ofNat c.coefficient = digits at *
  have hfirst_ne : digits.take 1 ≠ [] := by
    rw [← List.length_pos_iff, List.length_take]
    omega
  have hfirst_head : digits.take 1 = ['0'] ∨ (digits.take 1).head? ≠ some '0' := by
    rcases hhead with ⟨-, hdigits⟩ | hhead
    · rw [hdigits]
      exact .inl rfl
    · rw [List.head?_take, if_neg Nat.one_ne_zero]
      exact .inr hhead
  dsimp only
  split_ifs with hwhole hinside hbehind hsingle
  · -- All digits stand before the point, with zeros behind them.
    exact
      { whole_ne := List.append_ne_nil_of_left_ne_nil (List.length_pos_iff.1 hlength) _
        whole_digits := fun d hd => (List.mem_append.1 hd).elim (hdigits d) (hzeros _ d)
        whole_head := by
          rcases hhead with ⟨hzero, hdigits⟩ | hhead
          · have hexponent : c.exponent.toNat = 0 := by have := hc hzero; omega
            rw [hdigits, hexponent]
            exact .inl rfl
          · right
            rw [List.head?_append]
            cases digits with
            | nil => exact absurd hlength (Nat.lt_irrefl 0)
            | cons d digits => exact hhead
        places_ne := by
          rintro _ ⟨⟩
          exact List.cons_ne_nil _ _
        places_digits := by
          rintro _ ⟨⟩ d hd
          rw [List.mem_singleton.1 hd]
          rfl }
  · -- The point falls among the digits.
    exact
      { whole_ne := by
          rw [← List.length_pos_iff, List.length_take]
          omega
        whole_digits := fun d hd => hdigits d (List.mem_of_mem_take hd)
        whole_head := by
          rcases hhead with ⟨hzero, hdigits⟩ | hhead
          · have hone : digits.length = 1 := by rw [hdigits]; rfl
            have := hc hzero
            omega
          · right
            rw [List.head?_take, if_neg (by omega)]
            exact hhead
        places_ne := by
          rintro _ ⟨⟩
          rw [← List.length_pos_iff, List.length_drop]
          omega
        places_digits := by
          rintro _ ⟨⟩ d hd
          exact hdigits d (List.mem_of_mem_drop hd) }
  · -- The digits follow the point, perhaps after zeros.
    exact
      { whole_ne := List.cons_ne_nil _ _
        whole_digits := fun d hd => hzeros 1 d hd
        whole_head := .inl rfl
        places_ne := by
          rintro _ ⟨⟩
          exact List.append_ne_nil_of_right_ne_nil _ (List.length_pos_iff.1 hlength)
        places_digits := by
          rintro _ ⟨⟩ d hd
          exact (List.mem_append.1 hd).elim (hzeros _ d) (hdigits d) }
  · -- A single digit has no point behind it.
    exact
      { whole_ne := hfirst_ne
        whole_digits := fun d hd => hdigits d (List.mem_of_mem_take hd)
        whole_head := hfirst_head
        places_ne := by rintro _ ⟨⟩
        places_digits := by rintro _ ⟨⟩ }
  · -- Of several digits one stands before the point.
    exact
      { whole_ne := hfirst_ne
        whole_digits := fun d hd => hdigits d (List.mem_of_mem_take hd)
        whole_head := hfirst_head
        places_ne := by
          rintro _ ⟨⟩
          exact List.isEmpty_eq_false_iff.1 (Bool.eq_false_iff.2 hsingle)
        places_digits := by
          rintro _ ⟨⟩ d hd
          exact hdigits d (List.mem_of_mem_drop hd) }

end Decimal

/-! ### Numbers that are read -/

namespace Double

/-- The parts in which the magnitude of a number is written. -/
def parts (d : Double) : Number.Parts :=
  if d.isZero then { whole := ['0'], places := some ['0'] } else d.shortest.parts

/-- A number is written in its parts behind its sign. -/
lemma write_eq (d : Double) :
    d.write = if d.negative then '-' :: d.parts.write else d.parts.write := by
  have hparts : (if d.isZero then ['0', '.', '0'] else d.shortest.write) = d.parts.write := by
    unfold parts
    split_ifs
    · rfl
    · exact d.shortest.write_eq
  unfold write
  rw [hparts]

/-- The parts of a number are as they are in a document. -/
lemma proper_parts (d : Double) : d.parts.Proper := by
  unfold parts
  split_ifs with hzero
  · exact
      { whole_ne := List.cons_ne_nil _ _
        whole_digits := List.forall_mem_singleton.2 rfl
        whole_head := .inl rfl
        places_ne := by
          rintro _ ⟨⟩
          exact List.cons_ne_nil _ _
        places_digits := by
          rintro _ ⟨⟩
          exact List.forall_mem_singleton.2 rfl }
  · refine Decimal.proper_parts fun hcoefficient => ?_
    rcases d.shortest_spec with hstands | ⟨hnone, -⟩
    · have hsignificand : d.significand ≠ 0 := of_decide_eq_false (Bool.eq_false_iff.2 hzero)
      exact absurd hcoefficient (coefficient_ne_zero_of_standsFor hsignificand hstands)
    · rw [hnone]

end Double

namespace Number

/-- The parts in which a number is written. -/
def parts : Number → Parts
  | integer n => { whole := Digits.ofNat n.natAbs }
  | double d => d.parts

/-- A number is written in its parts behind its sign. -/
lemma write_eq (n : Number) :
    n.write = if n.isNegative then '-' :: n.parts.write else n.parts.write := by
  cases n with
  | integer n =>
    have hparts : (integer n).parts.write = Digits.ofNat n.natAbs := by
      show Digits.ofNat n.natAbs ++ [] ++ [] = _
      rw [List.append_nil, List.append_nil]
    rw [hparts]
    unfold write isNegative Digits.ofInt
    simp only [decide_eq_true_eq]
  | double d => exact d.write_eq

/-- The parts of a number are as they are in a document. -/
lemma proper_parts (n : Number) : n.parts.Proper := by
  cases n with
  | integer n =>
    exact
      { whole_ne := Digits.ofNat_ne_nil _
        whole_digits := Digits.isDigit_of_mem_ofNat
        whole_head := by
          show Digits.ofNat n.natAbs = ['0'] ∨ (Digits.ofNat n.natAbs).head? ≠ some '0'
          rcases Nat.eq_zero_or_pos n.natAbs with hzero | hpos
          · rw [hzero]
            exact .inl rfl
          · exact .inr (Digits.head?_ofNat hpos)
        places_ne := by rintro _ ⟨⟩
        places_digits := by rintro _ ⟨⟩ }
  | double d => exact d.proper_parts

/-- What a number is read as comes from its parts. -/
lemma readNumber?_write_eq (n : Number) {rest : List Char} (hrest : Reader.Stops rest) :
    Reader.readNumber? (n.write ++ rest) =
      (n.parts.number? n.isNegative).map fun m => (m, rest) := by
  have hread := Reader.readUnsigned?_write n.proper_parts hrest n.isNegative
  rw [n.write_eq]
  split_ifs with hnegative
  · rw [hnegative] at hread ⊢
    exact hread
  · have hpositive : n.isNegative = false := Bool.eq_false_iff.2 hnegative
    rw [hpositive] at hread ⊢
    rw [← hread]
    have hwhole := n.proper_parts.whole_digits
    cases hcs : n.parts.whole with
    | nil => exact absurd hcs n.proper_parts.whole_ne
    | cons c cs =>
      unfold Reader.readNumber?
      split
      · rename_i hcons
        rw [hcs] at hwhole
        have hminus : c = '-' := by
          rw [Parts.write, hcs] at hcons
          exact (List.cons.inj hcons).1
        have hdigit := hwhole c List.mem_cons_self
        rw [hminus] at hdigit
        exact absurd hdigit (by decide)
      · rfl

/-- What a number is read as. -/
lemma reread?_eq (n : Number) : n.reread? = n.parts.number? n.isNegative := by
  have hread := n.readNumber?_write_eq Reader.stops_nil
  rw [List.append_nil] at hread
  unfold reread?
  rw [hread]
  cases n.parts.number? n.isNegative <;> rfl

/-- An integer that fits a word of 64 bits is read back. -/
lemma readsBack_integer {n : Int} (hleast : leastInteger ≤ n) (hgreatest : n ≤ greatestInteger) :
    (integer n).ReadsBack := by
  have hvalue : Digits.toNat (Digits.ofNat n.natAbs) = n.natAbs := Digits.toNat_ofNat _
  have hsigned : (if decide (n < 0) = true then -(n.natAbs : Int) else n.natAbs) = n := by
    simp only [decide_eq_true_eq]
    split_ifs <;> omega
  have hzero : (decide (n < 0) && decide (n.natAbs = 0)) = false := by
    rw [Bool.and_eq_false_iff, decide_eq_false_iff_not, decide_eq_false_iff_not]
    omega
  unfold ReadsBack
  rw [reread?_eq]
  unfold Parts.number? ofParts? parts isNegative
  dsimp only
  rw [hvalue, hsigned, hzero, decide_eq_true (And.intro hleast hgreatest)]
  rfl

end Number

/-- A written number is read up to where the text goes on behind it. -/
lemma Reader.readNumber?_write (n : Number) {rest : List Char} (hrest : Stops rest) :
    readNumber? (n.write ++ rest) = n.reread?.map fun m => (m, rest) := by
  rw [n.readNumber?_write_eq hrest, n.reread?_eq]

end LeaseQueue
