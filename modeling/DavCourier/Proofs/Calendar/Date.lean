import DavCourier.Calendar.Date
import Mathlib.Tactic.IntervalCases
import Mathlib.Tactic.SplitIfs

/-!
# The date of a day

A count of days has a date of the calendar (`isValid_ofDays`), and this date is so many days away
(`toDays_ofDays`). The years of an era are counted after its leap days are left out
(`daysBefore_yearOfEra`), and years start with March, so that only the last day of a year depends
on whether the next one has a day more (`IsDayOfYear`).
-/

namespace DavCourier.Calendar

/-! ## The year of an era

Of the days of an era, those that leap years have more are left out to count its years : one in
four years, but none in a hundred, and again one in the last of them. -/

section

variable {day year : Int}

/-- The days of an era before a year of it, which starts with March. -/
def daysBefore (year : Int) : Int :=
  365 * year + year / 4 - year / 100

/-- The year in which a day of an era is. -/
def yearOfEra (day : Int) : Int :=
  (day - day / 1460 + day / 36524 - day / 146096) / 365

variable (h₀ : 0 ≤ day) (h₁ : day < Date.eraDays)

include h₀ h₁

theorem yearOfEra_div_hundred : yearOfEra day / 100 = day / 36524 - day / 146096 := by
  unfold yearOfEra
  unfold Date.eraDays at h₁
  have hcentury : day / 36524 = 0 ∨ day / 36524 = 1 ∨ day / 36524 = 2 ∨ day / 36524 = 3 ∨
      day = 146096 := by
    omega
  rcases hcentury with h | h | h | h | rfl <;> omega

theorem yearOfEra_bounds : 0 ≤ yearOfEra day ∧ yearOfEra day ≤ 399 := by
  unfold yearOfEra
  unfold Date.eraDays at h₁
  omega

theorem yearOfEra_div_four :
    day / 1460 = yearOfEra day / 4 ∨ day / 1460 = yearOfEra day / 4 + 1 := by
  unfold yearOfEra
  unfold Date.eraDays at h₁
  omega

/-- The day is in that year. -/
theorem daysBefore_yearOfEra :
    0 ≤ day - daysBefore (yearOfEra day) ∧ day - daysBefore (yearOfEra day) ≤ 365 := by
  have hhundred := yearOfEra_div_hundred h₀ h₁
  have hfour := yearOfEra_div_four h₀ h₁
  generalize hyear : yearOfEra day = year at hhundred hfour ⊢
  unfold yearOfEra at hyear
  unfold daysBefore
  omega

/-- Only a year that ends with the day of a leap year has 366 days. -/
theorem leap_of_last_day (hlast : day - daysBefore (yearOfEra day) = 365) :
    (yearOfEra day + 1) % 4 = 0 ∧
      ((yearOfEra day + 1) % 100 ≠ 0 ∨ yearOfEra day + 1 = 400) := by
  have hhundred := yearOfEra_div_hundred h₀ h₁
  have hfour := yearOfEra_div_four h₀ h₁
  have hbounds := yearOfEra_bounds h₀ h₁
  unfold Date.eraDays at h₁
  generalize hyear : yearOfEra day = year at hhundred hfour hbounds hlast ⊢
  unfold yearOfEra at hyear
  unfold daysBefore at hlast
  have hmod : (year + 1) % 4 = 0 := by
    have hcases : year % 4 = 0 ∨ year % 4 = 1 ∨ year % 4 = 2 ∨ year % 4 = 3 := by omega
    rcases hcases with h | h | h | h <;> omega
  refine ⟨hmod, ?_⟩
  by_cases h : (year + 1) % 100 = 0
  · right
    omega
  · left
    exact h

end

/-! ## The date of a day -/

/-- The day is day `day` of the year `year`, where the days of a year are counted from the first
of March, from 0 on. -/
structure IsDayOfYear (days year day : Int) : Prop where
  days_eq : days + Date.epochShift = year / 400 * Date.eraDays + daysBefore (year % 400) + day
  nonneg : 0 ≤ day
  le : day ≤ 365
  isLeapYear : day = 365 → isLeapYear (year + 1) = true

/-- The month of a day of the year, from 0 for March on. -/
def monthOfYear (day : Int) : Int :=
  (5 * day + 2) / 153

/-- The date of a day of the year. -/
def dateOf (year day : Int) : Date :=
  if monthOfYear day < 10 then
    ⟨year, monthOfYear day + 3, day - (153 * monthOfYear day + 2) / 5 + 1⟩
  else ⟨year + 1, monthOfYear day - 9, day - (153 * monthOfYear day + 2) / 5 + 1⟩

theorem exists_dayOfYear (days : Int) :
    ∃ year day, IsDayOfYear days year day ∧ Date.ofDays days = dateOf year day := by
  have h₀ : 0 ≤ (days + Date.epochShift) % Date.eraDays := Int.emod_nonneg _ (by decide)
  have h₁ : (days + Date.epochShift) % Date.eraDays < Date.eraDays :=
    Int.emod_lt_of_pos _ (by decide)
  have hsplit : (days + Date.epochShift) / Date.eraDays * Date.eraDays +
      (days + Date.epochShift) % Date.eraDays = days + Date.epochShift :=
    Int.ediv_mul_add_emod _ _
  have hyear := yearOfEra_bounds h₀ h₁
  have hday := daysBefore_yearOfEra h₀ h₁
  have hleap := leap_of_last_day h₀ h₁
  refine ⟨yearOfEra ((days + Date.epochShift) % Date.eraDays) +
      (days + Date.epochShift) / Date.eraDays * 400,
    (days + Date.epochShift) % Date.eraDays -
      daysBefore (yearOfEra ((days + Date.epochShift) % Date.eraDays)), ?_, rfl⟩
  generalize (days + Date.epochShift) / Date.eraDays = era at hsplit ⊢
  generalize (days + Date.epochShift) % Date.eraDays = dayOfEra at hsplit hyear hday hleap ⊢
  generalize yearOfEra dayOfEra = year at hyear hday hleap ⊢
  have hdiv : (year + era * 400) / 400 = era := by omega
  have hmod : (year + era * 400) % 400 = year := by omega
  refine ⟨?_, hday.1, hday.2, fun hlast => ?_⟩
  · rw [hdiv, hmod]
    omega
  · have hyears := hleap hlast
    simp only [isLeapYear, Bool.and_eq_true, Bool.or_eq_true, decide_eq_true_eq, ne_eq,
      decide_not, Bool.not_eq_eq_eq_not, Bool.not_true, decide_eq_false_iff_not]
    omega

theorem dateOf_month (year day : Int) : (dateOf year day).month =
    if monthOfYear day < 10 then monthOfYear day + 3 else monthOfYear day - 9 := by
  unfold dateOf
  split <;> rfl

theorem dateOf_day (year day : Int) :
    (dateOf year day).day = day - (153 * monthOfYear day + 2) / 5 + 1 := by
  unfold dateOf
  split <;> rfl

/-- The months but February go up to the first day of the next one, in every year. -/
theorem monthLength_eq {month : Int} (h₀ : 0 ≤ month) (h₁ : month ≤ 10) (year : Int) :
    monthLength year (if month < 10 then month + 3 else month - 9) =
      (153 * (month + 1) + 2) / 5 - (153 * month + 2) / 5 := by
  interval_cases month <;> rfl

theorem monthLength_le (year month : Int) : monthLength year month ≤ 31 := by
  unfold monthLength
  split_ifs <;> decide

theorem monthOfYear_bounds {day : Int} (h₀ : 0 ≤ day) (h₁ : day ≤ 365) :
    0 ≤ monthOfYear day ∧ monthOfYear day ≤ 11 := by
  unfold monthOfYear
  omega

namespace Date

/-- The date of a count of days is so many days away. -/
theorem toDays_ofDays (days : Int) : (ofDays days).toDays = days := by
  obtain ⟨year, day, h, hdate⟩ := exists_dayOfYear days
  have hdays := h.days_eq
  have hmonth := monthOfYear_bounds h.nonneg h.le
  rw [hdate, dateOf]
  generalize monthOfYear day = month at hmonth ⊢
  unfold daysBefore at hdays
  split
  · next hlt =>
    have hlate : ¬ month + 3 ≤ 2 := by omega
    simp only [toDays, if_neg hlate]
    omega
  · next hge =>
    have hearly : month - 9 ≤ 2 := by omega
    simp only [toDays, if_pos hearly, Int.add_sub_cancel, Int.sub_add_cancel]
    omega

theorem isValid_iff {d : Date} : d.isValid = true ↔ 1 ≤ d.month ∧ d.month ≤ 12 ∧ 1 ≤ d.day ∧
    d.day ≤ monthLength d.year d.month := by
  simp [isValid, and_assoc]

/-- Every count of days has a date of the calendar. -/
theorem isValid_ofDays (days : Int) : (ofDays days).isValid = true := by
  obtain ⟨year, day, h, hdate⟩ := exists_dayOfYear days
  have hmonth := monthOfYear_bounds h.nonneg h.le
  have hfirst : (153 * monthOfYear day + 2) / 5 ≤ day := by
    unfold monthOfYear
    omega
  rw [hdate, isValid_iff, dateOf_month, dateOf_day]
  refine ⟨by split <;> omega, by split <;> omega, by omega, ?_⟩
  by_cases hlast : monthOfYear day = 11
  · -- the last month of the year is February
    have hyear : (dateOf year day).year = year + 1 := by
      rw [dateOf, hlast]
      rfl
    have hend : day = 365 ∨ day ≤ 364 := by
      have := h.le
      omega
    rw [hyear, hlast]
    rcases hend with hlong | hshort
    · rw [monthLength, if_pos (by decide), if_pos (h.isLeapYear hlong)]
      omega
    · have hlength : 28 ≤ monthLength (year + 1) (if (11 : Int) < 10 then 11 + 3 else 11 - 9) := by
        rw [monthLength, if_pos (by decide)]
        split <;> decide
      omega
  · rw [monthLength_eq hmonth.1 (by omega)]
    unfold monthOfYear
    omega

end Date

end DavCourier.Calendar
