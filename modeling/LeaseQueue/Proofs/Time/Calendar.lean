import LeaseQueue.Time.Civil
import Mathlib.Tactic.IntervalCases
import Mathlib.Tactic.Lemma
import Mathlib.Tactic.SplitIfs

/-!
# Days of the calendar

Years are taken here from March on, so that a leap day is the last one of its year.  A day of such a
year has a date (`Civil.inYear`), which the calendar has (`Civil.valid_inYear`) and which leads back
to the day (`Civil.toDays_inYear`).  Every day is one of such a year (`Civil.exists_inYear`); so the
date of a day is read back as the day (`Date.ofCivil?_civil`).
-/

namespace LeaseQueue

namespace Civil

/-- The date of a day of a year, both counted from the first of March on. -/
def inYear (year day : Int) : Civil :=
  let month := (5 * day + 2) / 153
  let dayOfMonth := day - (153 * month + 2) / 5 + 1
  if month < 10 then ⟨year, (month + 3).toNat, dayOfMonth.toNat⟩
  else ⟨year + 1, (month - 9).toNat, dayOfMonth.toNat⟩

/-- The days before the first of March of a year, from that of the year zero on. -/
def beforeMarch (year : Int) : Int := 365 * year + year / 4 - year / 100 + year / 400

/-- Whether a year, from March on, has a day; only if the next year is a leap year, it has a last
one more. -/
def HasDay (year day : Int) : Prop :=
  0 ≤ day ∧ (day ≤ 364 ∨ day = 365 ∧ isLeap (year + 1) = true)

/-- Every day is one of a year, and its date is that of the day of the year. -/
lemma exists_inYear (days : Int) :
    ∃ year day, HasDay year day ∧ days + 719468 = beforeMarch year + day ∧
      ofDays days = inYear year day := by
  obtain ⟨era, hera⟩ : ∃ e, e = (days + 719468) / 146097 := ⟨_, rfl⟩
  obtain ⟨dayOfEra, hdayOfEra⟩ : ∃ d, d = (days + 719468) % 146097 := ⟨_, rfl⟩
  obtain ⟨century, hcentury⟩ : ∃ c, c = min 3 (dayOfEra / 36524) := ⟨_, rfl⟩
  obtain ⟨dayOfCentury, hdayOfCentury⟩ : ∃ d, d = dayOfEra - 36524 * century := ⟨_, rfl⟩
  obtain ⟨cycle, hcycle⟩ : ∃ c, c = dayOfCentury / 1461 := ⟨_, rfl⟩
  obtain ⟨dayOfCycle, hdayOfCycle⟩ : ∃ d, d = dayOfCentury % 1461 := ⟨_, rfl⟩
  obtain ⟨yearOfCycle, hyearOfCycle⟩ : ∃ y, y = min 3 (dayOfCycle / 365) := ⟨_, rfl⟩
  obtain ⟨day, hday⟩ : ∃ d, d = dayOfCycle - 365 * yearOfCycle := ⟨_, rfl⟩
  have hdays : days + 719468 = 146097 * era + dayOfEra := by omega
  have hera' : 0 ≤ dayOfEra ∧ dayOfEra < 146097 := by omega
  have hcentury' : 0 ≤ century ∧ century ≤ 3 ∧ 0 ≤ dayOfCentury ∧
      (dayOfCentury ≤ 36523 ∨ dayOfCentury = 36524 ∧ century = 3) := by omega
  have hcycle' : dayOfCentury = 1461 * cycle + dayOfCycle ∧ 0 ≤ cycle ∧ cycle ≤ 24 ∧
      0 ≤ dayOfCycle ∧ dayOfCycle ≤ 1460 := by omega
  have hyear' : 0 ≤ yearOfCycle ∧ yearOfCycle ≤ 3 ∧ 0 ≤ day ∧
      (day ≤ 364 ∨ day = 365 ∧ yearOfCycle = 3 ∧ dayOfCycle = 1460) := by omega
  refine ⟨400 * era + 100 * century + 4 * cycle + yearOfCycle, day, ⟨hyear'.2.2.1, ?_⟩, ?_, ?_⟩
  · rcases hyear'.2.2.2 with hday | ⟨hday, hlast, hdayOfCycle⟩
    · exact .inl hday
    · refine .inr ⟨hday, ?_⟩
      unfold isLeap
      simp only [ne_eq, Bool.and_eq_true, decide_eq_true_eq, Bool.or_eq_true]
      omega
  · obtain ⟨year, hyear⟩ : ∃ y, y = 400 * era + 100 * century + 4 * cycle + yearOfCycle := ⟨_, rfl⟩
    have hfour : year / 4 = 100 * era + 25 * century + cycle := by omega
    have hhundred : year / 100 = 4 * era + century := by omega
    have hera : year / 400 = era := by omega
    rw [← hyear]
    unfold beforeMarch
    rw [hfour, hhundred, hera]
    omega
  · subst_vars
    rfl

/-- A day of a year has a date of the calendar. -/
lemma valid_inYear {year day : Int} (h : HasDay year day) : (inYear year day).Valid := by
  obtain ⟨hday, hlast⟩ := h
  obtain ⟨month, hmonth⟩ : ∃ m : ℕ, (5 * day + 2) / 153 = m :=
    Int.eq_ofNat_of_zero_le (by omega)
  have hle : month ≤ 11 := by omega
  unfold inYear
  dsimp only
  rw [hmonth]
  interval_cases month
  case «11» =>
    -- February comes last, and is as long as the year after this one allows.
    have hfebruary : daysIn (year + 1) 2 = if isLeap (year + 1) then 29 else 28 := rfl
    show 1 ≤ (day - 337 + 1).toNat ∧ (day - 337 + 1).toNat ≤ daysIn (year + 1) 2
    rw [hfebruary]
    split_ifs with hleap
    · omega
    · have hshort : day ≤ 364 := hlast.resolve_right fun hlong => hleap hlong.2
      omega
  all_goals
    simp [Valid, daysIn]
    omega

/-- The calendar has the date of every day. -/
lemma valid_ofDays (days : Int) : (ofDays days).Valid := by
  obtain ⟨year, day, hday, -, hdate⟩ := exists_inYear days
  rw [hdate]
  exact valid_inYear hday

/-- Months and days have at most two digits. -/
lemma Valid.lt {c : Civil} (h : c.Valid) : c.month < 100 ∧ c.day < 100 := by
  obtain ⟨hone, hle⟩ := h
  unfold daysIn at hle
  split at hle
  · split_ifs at hle <;> omega
  all_goals omega

/-- The days to a date, by the year and the month from March on. -/
lemma toDays_eq (c : Civil) :
    let year := if c.month ≤ 2 then c.year - 1 else c.year
    let month : Int := if c.month ≤ 2 then c.month + 9 else c.month - 3
    c.toDays = beforeMarch year + ((153 * month + 2) / 5 + c.day - 1) - 719468 := by
  intro year month
  have hera : 146097 * (year / 400) +
      (365 * (year % 400) + year % 400 / 4 - year % 400 / 100) = beforeMarch year := by
    unfold beforeMarch
    omega
  rw [← hera]
  unfold toDays
  dsimp only
  omega

/-- The date of a day of a year leads back to it. -/
lemma toDays_inYear {year day : Int} (h : HasDay year day) :
    (inYear year day).toDays = beforeMarch year + day - 719468 := by
  obtain ⟨hday, hlast⟩ := h
  obtain ⟨month, hmonth⟩ : ∃ m, m = (5 * day + 2) / 153 := ⟨_, rfl⟩
  obtain ⟨first, hfirst⟩ : ∃ f, f = (153 * month + 2) / 5 := ⟨_, rfl⟩
  have hle : first ≤ day := by omega
  have hdayOfMonth : ((day - first + 1).toNat : Int) = day - first + 1 := by omega
  by_cases hmarch : month < 10
  · have hdate : inYear year day = ⟨year, (month + 3).toNat, (day - first + 1).toNat⟩ := by
      subst hmonth hfirst
      exact if_pos hmarch
    have hmonth' : ((month + 3).toNat : Int) - 3 = month := by omega
    have hlate : ¬(month + 3).toNat ≤ 2 := by omega
    rw [hdate, toDays_eq]
    dsimp only
    rw [if_neg hlate, if_neg hlate, hmonth', ← hfirst, hdayOfMonth]
    omega
  · have hdate : inYear year day = ⟨year + 1, (month - 9).toNat, (day - first + 1).toNat⟩ := by
      subst hmonth hfirst
      exact if_neg hmarch
    have hmonth' : ((month - 9).toNat : Int) + 9 = month := by omega
    have hearly : (month - 9).toNat ≤ 2 := by omega
    rw [hdate, toDays_eq]
    dsimp only
    rw [if_pos hearly, if_pos hearly, hmonth', ← hfirst, hdayOfMonth, Int.add_sub_cancel]
    omega

/-- A later year begins later. -/
lemma beforeMarch_mono {year later : Int} (h : year ≤ later) :
    beforeMarch year ≤ beforeMarch later := by
  unfold beforeMarch
  omega

/-- The days of the supported years have dates in these years. -/
lemma year_ofDays {days : Int} (hfirst : -96465292 ≤ days) (hlast : days ≤ 95026236) :
    Date.firstYear ≤ (ofDays days).year ∧ (ofDays days).year ≤ Date.lastYear := by
  obtain ⟨year, day, ⟨hday, hlong⟩, hdays, hdate⟩ := exists_inYear days
  have hle : day ≤ 365 := by omega
  have hlow : -262144 ≤ year := by
    by_contra hyear
    have hbefore : beforeMarch year ≤ beforeMarch (-262145) := beforeMarch_mono (by omega)
    have hvalue : beforeMarch (-262145) = -95746496 := by decide
    omega
  have hhigh : year ≤ 262142 := by
    by_contra hyear
    have hafter : beforeMarch 262143 ≤ beforeMarch year := beforeMarch_mono (by omega)
    have hvalue : beforeMarch 262143 = 95745764 := by decide
    omega
  -- In the outermost two years it is the month that decides.
  have hlow' : year = -262144 → 306 ≤ day := by
    rintro rfl
    have hvalue : beforeMarch (-262144) = -95746130 := by decide
    omega
  have hhigh' : year = 262142 → day ≤ 305 := by
    rintro rfl
    have hvalue : beforeMarch 262142 = 95745399 := by decide
    omega
  rw [hdate]
  unfold inYear Date.firstYear Date.lastYear
  dsimp only
  split_ifs <;>
  · dsimp only
    omega

end Civil

/-- The date of a day in the supported years is read back as the day. -/
theorem Date.ofCivil?_civil {d : Date} (hfirst : -96465292 ≤ d.days) (hlast : d.days ≤ 95026236) :
    ofCivil? d.civil = some d := by
  obtain ⟨year, day, hday, hdays, hdate⟩ := Civil.exists_inYear d.days
  have hyear := Civil.year_ofDays hfirst hlast
  have hback : d.civil.toDays = d.days := by
    unfold civil
    rw [hdate, Civil.toDays_inYear hday]
    omega
  unfold ofCivil?
  rw [if_pos ⟨Civil.valid_ofDays d.days, hyear⟩, hback]

end LeaseQueue
