import LeaseQueue.Proofs.Text.Digits
import LeaseQueue.Proofs.Time.After
import LeaseQueue.Proofs.Time.Calendar
import LeaseQueue.Time.Written

/-!
# Instants that are read back

Every instant outside of leap seconds is read back from its written form (`Instant.ofText?_text`),
from the first supported year to the last one, whatever its fraction.  A written date has a year of
four digits or with a sign, and a fraction of a second as few digits as will do; the reader, which
takes more than is ever written, finds each part again.  Behind each part the text goes on with a
mark that belongs to no number.
-/

namespace LeaseQueue

/-! ### Marks and numbers -/

/-- No digit is blank. -/
lemma isBlankChar_of_isDigit {c : Char} (hc : c.isDigit = true) : isBlankChar c = false := by
  rw [Digits.isDigit_iff] at hc
  unfold isBlankChar blankRanges
  simp only [List.any_cons, List.any_nil, Bool.or_false, Bool.or_eq_false_iff,
    Bool.and_eq_false_iff, decide_eq_false_iff_not]
  omega

/-- A character that is not blank is not skipped. -/
lemma skipBlanks_cons {c : Char} (hc : isBlankChar c = false) (rest : List Char) :
    skipBlanks (c :: rest) = c :: rest := by
  unfold skipBlanks
  rw [List.dropWhile_cons_of_neg]
  rw [hc]
  exact Bool.false_ne_true

/-- No digits are skipped. -/
lemma skipBlanks_digits {ds : List Char} (hds : ∀ c ∈ ds, c.isDigit = true) (hne : ds ≠ [])
    (rest : List Char) : skipBlanks (ds ++ rest) = ds ++ rest := by
  cases ds with
  | nil => exact absurd rfl hne
  | cons c ds => exact skipBlanks_cons (isBlankChar_of_isDigit (hds c List.mem_cons_self)) _

/-- A mark is found. -/
lemma readMark_cons {mark : Char} (hmark : isBlankChar mark = false) (rest : List Char) :
    readMark mark (mark :: rest) = some rest := by
  unfold readMark
  rw [skipBlanks_cons hmark]
  exact if_pos rfl

/-- A number of two digits is read back. -/
lemma readNumber_fixed {n : ℕ} (hn : n < 100) (rest : List Char) :
    readNumber 2 (Digits.fixed 2 n ++ rest) = some (n, rest) := by
  have hlength := Digits.length_fixed 2 n
  have hne : Digits.fixed 2 n ≠ [] := by
    rw [← List.length_pos_iff, hlength]
    decide
  unfold readNumber
  rw [skipBlanks_digits Digits.isDigit_of_mem_fixed hne,
    Digits.upTo?_append Digits.isDigit_of_mem_fixed hne (Nat.le_of_eq hlength) (.inl hlength),
    Digits.toNat_fixed (by exact hn)]

/-! ### Dates -/

/-- A year of four digits is read back. -/
lemma readYear_fixed {n : ℕ} (hn : n ≤ 9999) (rest : List Char) :
    readYear (Digits.fixed 4 n ++ rest) = some ((n : Int), rest) := by
  have hlength := Digits.length_fixed 4 n
  have hdigits : ∀ c ∈ Digits.fixed 4 n, c.isDigit = true := Digits.isDigit_of_mem_fixed
  have hvalue : Digits.toNat (Digits.fixed 4 n) = n :=
    Digits.toNat_fixed (by show n < 10000; omega)
  generalize Digits.fixed 4 n = ds at *
  cases ds with
  | nil => cases hlength
  | cons c ds =>
    have hc := hdigits c List.mem_cons_self
    unfold readYear
    rw [skipBlanks_digits hdigits (List.cons_ne_nil c ds)]
    split
    · rename_i heq
      rw [(List.cons.inj heq).1] at hc
      exact absurd hc (by decide)
    · rename_i heq
      rw [(List.cons.inj heq).1] at hc
      exact absurd hc (by decide)
    · rw [Digits.upTo?_append hdigits (List.cons_ne_nil c ds) (Nat.le_of_eq hlength) (.inl hlength),
        hvalue]
      rfl

/-- A year is read back. -/
lemma readYear_write (year : Int) (rest : List Char) :
    readYear (writeYear year ++ '-' :: rest) = some (year, '-' :: rest) := by
  unfold writeYear
  split_ifs with hshort
  · rw [readYear_fixed (by omega), Int.toNat_of_nonneg hshort.1]
  all_goals
    let zeros := List.replicate (4 - (Digits.ofNat year.natAbs).length) '0'
    let ds := zeros ++ Digits.ofNat year.natAbs
    have hdigits : ∀ c ∈ ds, c.isDigit = true := by
      intro c hc
      rcases List.mem_append.1 hc with hc | hc
      · rw [List.eq_of_mem_replicate hc]
        rfl
      · exact Digits.isDigit_of_mem_ofNat c hc
    have hne : ds ≠ [] := List.append_ne_nil_of_right_ne_nil _ (Digits.ofNat_ne_nil _)
    have hvalue : Digits.toNat ds = year.natAbs :=
      (Digits.toNat_replicate_append _ _).trans (Digits.toNat_ofNat _)
    have hends : Digits.Ends ('-' :: rest) := by
      rintro c ⟨⟩
      rfl
    have hnumber : Digits.upTo? (ds ++ '-' :: rest).length (ds ++ '-' :: rest) =
        some (year.natAbs, '-' :: rest) := by
      rw [Digits.upTo?_append hdigits hne (List.sublist_append_left ds _).length_le (.inr hends),
        hvalue]
    unfold readYear
    rw [List.cons_append, skipBlanks_cons (by decide)]
    show (Digits.upTo? (ds ++ '-' :: rest).length (ds ++ '-' :: rest)).map _ = _
    rw [hnumber]
  · show some (-(year.natAbs : Int), '-' :: rest) = _
    rw [show -(year.natAbs : Int) = year by omega]
  · show some ((year.natAbs : Int), '-' :: rest) = _
    rw [show (year.natAbs : Int) = year by omega]

/-- A date is read back. -/
lemma readCivil_write {c : Civil} (hmonth : c.month < 100) (hday : c.day < 100)
    (rest : List Char) : readCivil (c.write ++ rest) = some (c, rest) := by
  have htext : c.write ++ rest = writeYear c.year ++ '-' ::
      (Digits.fixed 2 c.month ++ '-' :: (Digits.fixed 2 c.day ++ rest)) := by
    unfold Civil.write
    simp only [List.append_assoc, List.cons_append]
  have hmark : ∀ cs, readMark '-' ('-' :: cs) = some cs := readMark_cons (by decide)
  rw [htext]
  simp only [readCivil, readYear_write, hmark, readNumber_fixed hmonth, readNumber_fixed hday,
    Option.bind_eq_bind, Option.bind_some]
  rfl

/-! ### Times of day -/

/-- Digits behind a point are read as a fraction in as many places. -/
lemma readFraction_fixed {places n : ℕ} (hplaces : 1 ≤ places ∧ places ≤ 9)
    (hn : n < Nat.pow 10 places) {rest : List Char} (hrest : Digits.Ends rest) :
    readFraction ('.' :: Digits.fixed places n ++ rest) =
      some (n * Nat.pow 10 (9 - places), rest) := by
  have hlength := Digits.length_fixed places n
  have hdigits : ∀ c ∈ Digits.fixed places n, c.isDigit = true := Digits.isDigit_of_mem_fixed
  have hrun := Digits.run_append hdigits hrest
  have hnonempty : (Digits.fixed places n).isEmpty = false := by
    rw [List.isEmpty_eq_false_iff, ← List.length_pos_iff, hlength]
    omega
  show (let kept := (Digits.run (Digits.fixed places n ++ rest)).1.take 9
    if kept.isEmpty then none
    else some (Digits.toNat kept * Nat.pow 10 (9 - kept.length),
      (Digits.run (Digits.fixed places n ++ rest)).2)) = _
  rw [hrun]
  dsimp only
  rw [List.take_of_length_le (by omega), hnonempty, hlength, Digits.toNat_fixed hn]
  rfl

/-- A fraction of a second is read back. -/
lemma readFraction_write {nanos : ℕ} (hnanos : nanos < 1000000000) (rest : List Char)
    (hrest : ∀ c ∈ rest.head?, c.isDigit = false ∧ c ≠ '.') :
    readFraction (writeFraction nanos ++ rest) = some (nanos, rest) := by
  have hends : Digits.Ends rest := fun c hc => (hrest c hc).1
  unfold writeFraction
  split_ifs with hzero hmillis hmicros
  · rw [hzero, List.nil_append]
    unfold readFraction
    split
    · exact absurd rfl (hrest '.' rfl).2
    · rfl
  · rw [readFraction_fixed (by decide) (by show nanos / 1000000 < 1000; omega) hends]
    show some (nanos / 1000000 * 1000000, rest) = _
    rw [show nanos / 1000000 * 1000000 = nanos by omega]
  · rw [readFraction_fixed (by decide) (by show nanos / 1000 < 1000000; omega) hends]
    show some (nanos / 1000 * 1000, rest) = _
    rw [show nanos / 1000 * 1000 = nanos by omega]
  · rw [readFraction_fixed (by decide) hnanos hends]
    show some (nanos * 1, rest) = _
    rw [Nat.mul_one]

/-- A time of day outside of leap seconds is read back. -/
lemma readTimeOfDay_write {second nanos : ℕ} (hsecond : second < 86400)
    (hnanos : nanos < 1000000000) {rest : List Char}
    (hrest : ∀ c ∈ rest.head?, c.isDigit = false ∧ c ≠ '.') :
    readTimeOfDay (writeTimeOfDay second nanos ++ rest) = some ((second, nanos), rest) := by
  have hwhole : second % 60 + nanos / 1000000000 = second % 60 := by omega
  have htext : writeTimeOfDay second nanos ++ rest = Digits.fixed 2 (second / 3600) ++ ':' ::
      (Digits.fixed 2 (second / 60 % 60) ++ ':' ::
        (Digits.fixed 2 (second % 60) ++ (writeFraction nanos ++ rest))) := by
    unfold writeTimeOfDay
    rw [hwhole, Nat.mod_eq_of_lt hnanos]
    simp only [List.append_assoc, List.cons_append]
  have hmark : ∀ cs, readMark ':' (':' :: cs) = some cs := readMark_cons (by decide)
  have hrange : second / 3600 ≤ 23 ∧ second / 60 % 60 ≤ 59 ∧ second % 60 ≤ 60 := by omega
  have hmin : min (second % 60) 59 = second % 60 := by omega
  have hsum : second / 3600 * 3600 + second / 60 % 60 * 60 + second % 60 = second := by omega
  rw [htext]
  simp only [readTimeOfDay, hmark, readFraction_write hnanos rest hrest, Option.bind_eq_bind,
    Option.bind_some, readNumber_fixed (show second / 3600 < 100 by omega),
    readNumber_fixed (show second / 60 % 60 < 100 by omega),
    readNumber_fixed (show second % 60 < 100 by omega)]
  rw [if_pos hrange, hmin, hsum, Nat.sub_self, Nat.zero_mul, Nat.zero_add]
  rfl

/-! ### Instants -/

namespace Instant

variable {t : Instant}

/-- The day of an instant lies in the supported years. -/
lemma days_date (t : Instant) : -96465292 ≤ t.date.days ∧ t.date.days ≤ 95026236 := by
  have hleast := t.least_le
  have hgreatest := t.le_greatest
  simp only [leastTicks, greatestTicks] at hleast hgreatest
  unfold date second
  simp only [ticksPerSecond]
  omega

/-- An instant outside of leap seconds is read back. -/
theorem read?_write (ht : t.isLeap = false) : read? t.write = some t := by
  obtain ⟨hfirst, hlast⟩ := t.days_date
  have hdate : Date.ofCivil? t.date.civil = some t.date := Date.ofCivil?_civil hfirst hlast
  obtain ⟨hmonth, hday⟩ := (Civil.valid_ofDays t.date.days).lt
  have hticks := ticks_eq t
  have hfraction : ¬nanosPerSecond ≤ t.fraction := of_decide_eq_false ht
  have hlow : 0 ≤ t.fraction := Int.emod_nonneg _ (by decide)
  simp only [nanosPerSecond] at hfraction
  have hsecond : 0 ≤ t.secondOfDay ∧ t.secondOfDay < 86400 := by
    unfold secondOfDay
    omega
  have htext : t.write = t.date.civil.write ++ 'T' ::
      (writeTimeOfDay t.secondOfDay.toNat t.fraction.toNat ++ ['Z']) := by
    unfold write writeLocal
    simp only [List.append_assoc, List.cons_append]
  have htime : readTimeOfDay (writeTimeOfDay t.secondOfDay.toNat t.fraction.toNat ++ ['Z']) =
      some ((t.secondOfDay.toNat, t.fraction.toNat), ['Z']) := by
    refine readTimeOfDay_write (by omega) (by omega) ?_
    rintro c ⟨⟩
    decide
  have hticks' : (t.date.days * 86400 + (t.secondOfDay.toNat : Int) - 0) * ticksPerSecond +
      (t.fraction.toNat : Int) = t.ticks := by
    unfold secondOfDay at *
    unfold date
    simp only [ticksPerSecond] at *
    omega
  have hcivil : readCivil t.write = some (t.date.civil, 'T' ::
      (writeTimeOfDay t.secondOfDay.toNat t.fraction.toNat ++ ['Z'])) := by
    rw [htext]
    exact readCivil_write hmonth hday _
  unfold read?
  rw [hcivil]
  show (Date.ofCivil? t.date.civil).bind _ = _
  rw [hdate]
  show (readTimeOfDay (writeTimeOfDay t.secondOfDay.toNat t.fraction.toNat ++ ['Z'])).bind _ = _
  rw [htime]
  show ofTicks? ((t.date.days * 86400 + (t.secondOfDay.toNat : Int) - 0) * ticksPerSecond +
    (t.fraction.toNat : Int)) = _
  rw [hticks']
  exact dif_pos ⟨t.least_le, t.le_greatest⟩

/-- So it is from its text. -/
theorem ofText?_text (ht : t.isLeap = false) : ofText? t.text = some t := by
  unfold ofText? text
  rw [String.toList_ofList, read?_write ht]

end Instant

end LeaseQueue
