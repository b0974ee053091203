import Mathlib.Tactic.IntervalCases
import WireShapes.Instant.Calendar

/-!
Dates and the days that they stand for.

* `DayOfEra`: the place of a day in an era of four hundred years, by centuries, spans of four years and years
* `ofDays_eq`: the date of a day, by its place in its era
* `toDays_ofDays`, `isValid_ofDays`: it exists, and is that day
* `year_ofDays`: the days of the years from 0 to 9999
-/

namespace WireShapes.Date

/-! ### Eras -/

/-- The place of a day in its era. Years begin in March. Only the last year of a span has a day more, unless the span ends a
century that does not end the era. -/
structure DayOfEra (n century span year day : Int) : Prop where
  century_mem : 0 ≤ century ∧ century ≤ 3
  span_mem : 0 ≤ span ∧ span ≤ 24
  year_mem : 0 ≤ year ∧ year ≤ 3
  day_mem : 0 ≤ day ∧ day ≤ 365
  leap : day = 365 → year = 3 ∧ (span = 24 → century = 3)
  sum : n = 36524 * century + 1461 * span + 365 * year + day

theorem exists_dayOfEra {n : Int} (hn : 0 ≤ n ∧ n < 146097) :
    ∃ century span year day, DayOfEra n century span year day := by
  obtain ⟨c, hc⟩ : ∃ c, c = min (n / 36524) 3 := ⟨_, rfl⟩
  obtain ⟨q, hq⟩ : ∃ q, q = (n - 36524 * c) / 1461 := ⟨_, rfl⟩
  obtain ⟨k, hk⟩ : ∃ k, k = min ((n - 36524 * c - 1461 * q) / 365) 3 := ⟨_, rfl⟩
  exact ⟨c, q, k, n - 36524 * c - 1461 * q - 365 * k, by omega, by omega, by omega, by omega, by omega, by omega⟩

namespace DayOfEra

variable {n century span year day : Int}

/-- Every year that is longer takes a day, which the count of the years leaves out. -/
theorem yearOfEra_eq (h : DayOfEra n century span year day) :
    (n - n / 1460 + n / 36524 - n / 146096) / 365 = 100 * century + 4 * span + year := by
  obtain ⟨hc, hq, hk, hd, hleap, hsum⟩ := h
  -- the last day of the era is the only one behind its fourth century
  have hlast : 1461 * span + 365 * year + day ≤ 36523 ∨ century = 3 ∧ n = 146096 := by omega
  have hcentury : n / 36524 - n / 146096 = century := by
    rcases hlast with hshort | ⟨hthree, hend⟩
    · have hfull : n / 36524 = century := by omega
      have hnone : n / 146096 = 0 := by omega
      omega
    · omega
  have hspan : n / 1460 = 25 * century + span ∨
      n / 1460 = 25 * century + span + 1 ∧ 1364 ≤ 365 * year + day := by omega
  omega

theorem dayOfYear_eq (h : DayOfEra n century span year day) {y : Int} (hy : y = 100 * century + 4 * span + year) :
    n - (365 * y + y / 4 - y / 100) = day := by
  obtain ⟨hc, hq, hk, hd, hleap, hsum⟩ := h
  have hcentury : y / 100 = century := by omega
  have hspan : y / 4 = 25 * century + span := by omega
  omega

end DayOfEra

/-! ### Years that begin in March -/

/-- The date of a day in a year that begins in March. -/
def ofMarch (year day : Int) : Date :=
  let month := (5 * day + 2) / 153
  let dayOfMonth := day - (153 * month + 2) / 5 + 1
  if month < 10 then ⟨year, (month + 3).toNat, dayOfMonth.toNat⟩
  else ⟨year + 1, (month - 9).toNat, dayOfMonth.toNat⟩

theorem toDays_ofMarch {year day : Int} (h : 0 ≤ day ∧ day ≤ 365) :
    (ofMarch year day).toDays =
      year / 400 * 146097 + (year % 400 * 365 + year % 400 / 4 - year % 400 / 100 + day) - 719468 := by
  obtain ⟨month, hmonth⟩ : ∃ month, month = (5 * day + 2) / 153 := ⟨_, rfl⟩
  have hrange : 0 ≤ month ∧ month ≤ 11 := by omega
  have hday : 1 ≤ day - (153 * month + 2) / 5 + 1 := by omega
  unfold ofMarch toDays
  simp only [← hmonth]
  split
  · have hlow : ¬(month + 3).toNat ≤ 2 := by omega
    have hback : ((month + 3).toNat : Int) - 3 = month := by omega
    simp only [if_neg hlow, hback]
    omega
  · have hlow : (month - 9).toNat ≤ 2 := by omega
    have hback : ((month - 9).toNat : Int) + 9 = month := by omega
    simp only [if_pos hlow, hback, Int.add_sub_cancel]
    omega

theorem isValid_ofMarch {year day : Int} (h : 0 ≤ day ∧ day ≤ 365)
    (hleap : day = 365 → isLeapYear (year + 1) = true) : (ofMarch year day).isValid = true := by
  obtain ⟨month, hmonth⟩ : ∃ month, month = (5 * day + 2) / 153 := ⟨_, rfl⟩
  have hfirst : 0 ≤ month := by omega
  have hlast : month ≤ 11 := by omega
  unfold ofMarch isValid
  simp only [← hmonth]
  have hmonths : month ≤ 10 ∨ month = 11 := by omega
  rcases hmonths with hearly | rfl
  · interval_cases month <;> simp [daysInMonth] <;> omega
  · -- the year ends with February, whose last day is the 366th if it is longer
    cases hyear : isLeapYear (year + 1) with
    | false =>
      have hshort : day ≠ 365 := fun hlast => by simp [hleap hlast] at hyear
      simp [daysInMonth, hyear]
      omega
    | true =>
      simp [daysInMonth, hyear]
      omega

theorem year_ofMarch {year day : Int} :
    (ofMarch year day).year = if day < 306 then year else year + 1 := by
  unfold ofMarch
  dsimp only
  split <;> split <;> first | rfl | omega

/-! ### Days -/

theorem ofDays_eq {days era n century span year day : Int} (hdays : days + 719468 = era * 146097 + n)
    (h : DayOfEra n century span year day) :
    ofDays days = ofMarch (era * 400 + (100 * century + 4 * span + year)) day := by
  have hn : 0 ≤ n ∧ n < 146097 := by
    obtain ⟨hc, hq, hk, hd, hleap, hsum⟩ := h
    omega
  have hera : (days + 719468) / 146097 = era := by omega
  have hrest : (days + 719468) % 146097 = n := by omega
  unfold ofDays ofMarch
  simp only [hera, hrest, h.yearOfEra_eq, h.dayOfYear_eq rfl]
  rw [Int.add_comm (era * 400)]

/-- Every day has its place in an era. -/
theorem exists_place (days : Int) : ∃ era n century span year day,
    days + 719468 = era * 146097 + n ∧ DayOfEra n century span year day := by
  have hn : 0 ≤ (days + 719468) % 146097 ∧ (days + 719468) % 146097 < 146097 := by omega
  obtain ⟨century, span, year, day, h⟩ := exists_dayOfEra hn
  exact ⟨(days + 719468) / 146097, _, century, span, year, day, by omega, h⟩

/-- The year of a day that follows 365 others is a leap year when it ends. -/
theorem DayOfEra.isLeapYear {n century span year day : Int} (h : DayOfEra n century span year day) (era : Int)
    (hday : day = 365) : Date.isLeapYear (era * 400 + (100 * century + 4 * span + year) + 1) = true := by
  obtain ⟨hc, hq, hk, hd, hleap, hsum⟩ := h
  obtain ⟨hyear, hspan⟩ := hleap hday
  simp only [Date.isLeapYear, Bool.and_eq_true, Bool.or_eq_true, beq_iff_eq, bne_iff_ne, ne_eq]
  omega

/-- **A day is that of its date.** -/
theorem toDays_ofDays (days : Int) : (ofDays days).toDays = days := by
  obtain ⟨era, n, century, span, year, day, hdays, h⟩ := exists_place days
  rw [ofDays_eq hdays h, toDays_ofMarch h.day_mem]
  have hyear := h.dayOfYear_eq rfl
  obtain ⟨hc, hq, hk, hd, hleap, hsum⟩ := h
  have hera : (era * 400 + (100 * century + 4 * span + year)) / 400 = era := by omega
  have hrest : (era * 400 + (100 * century + 4 * span + year)) % 400 = 100 * century + 4 * span + year := by omega
  rw [hera, hrest]
  omega

/-- **The date of a day exists.** -/
theorem isValid_ofDays (days : Int) : (ofDays days).isValid = true := by
  obtain ⟨era, n, century, span, year, day, hdays, h⟩ := exists_place days
  rw [ofDays_eq hdays h]
  exact isValid_ofMarch h.day_mem (h.isLeapYear era)

/-- **The days of the years from 0 to 9999.** -/
theorem year_ofDays {days : Int} : 0 ≤ (ofDays days).year ∧ (ofDays days).year ≤ 9999 ↔ -719528 ≤ days ∧ days ≤ 2932896 := by
  obtain ⟨era, n, century, span, year, day, hdays, h⟩ := exists_place days
  rw [ofDays_eq hdays h, year_ofMarch]
  obtain ⟨hc, hq, hk, hd, hleap, hsum⟩ := h
  have hera : era ≤ -1 ∨ 0 ≤ era ∧ era ≤ 24 ∨ 25 ≤ era := by omega
  rcases hera with hbefore | hwithin | hafter <;> split <;> omega

end WireShapes.Date
