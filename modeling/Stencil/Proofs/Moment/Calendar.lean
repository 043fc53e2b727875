import Mathlib.Tactic.IntervalCases
import Stencil.Moment.Calendar

/-!
# Dates and days

Every day has a date, which is a day of the calendar, and the date is that of no other day.  An era
of 400 years has as many days as every other, so only the years of one era have to be looked at.
-/

namespace Stencil
namespace Date

/-! ## Years that start with March -/

/-- The year of a day that is counted from the start of an era. -/
def yearOfEra (day : Int) : Int :=
  (day - day / 1460 + day / 36524 - day / 146096) / 365

/-- A day of an era lies between the start of its year and that of the next. -/
theorem yearOfEra_bounds {day : Int} (first : 0 ≤ day) (last : day < 146097) :
    daysBeforeYear (yearOfEra day) ≤ day ∧ day < daysBeforeYear (yearOfEra day + 1) := by
  -- The leap day at the end of the era belongs to no full century.
  by_cases leap : day = 146096
  · subst leap
    decide
  unfold yearOfEra daysBeforeYear
  have centuries : day / 36524 = 0 ∨ day / 36524 = 1 ∨ day / 36524 = 2 ∨ day / 36524 = 3 := by
    omega
  have noEra : day / 146096 = 0 := by omega
  generalize shape : (day - day / 1460 + day / 36524 - day / 146096) / 365 = year
  have century : year / 100 = day / 36524 := by
    rcases centuries with same | same | same | same <;> omega
  have lower : year / 4 ≤ day / 1460 := by omega
  have upper : day / 1460 ≤ (year + 1) / 4 := by omega
  constructor
  · omega
  · by_cases full : (year + 1) % 100 = 0
    · omega
    · have same : (year + 1) / 100 = year / 100 := by omega
      omega

theorem daysBeforeYear_add_eras (year era : Int) :
    daysBeforeYear (year + era * 400) = daysBeforeYear year + era * 146097 := by
  unfold daysBeforeYear
  omega

/-- The date of a day of a month in a year that starts with March, the month 0. -/
def ofMarch (year month day : Int) : Date where
  year := year + if month < 10 then 0 else 1
  month := (if month < 10 then month + 3 else month - 9).toNat
  day := day.toNat

/-- The date of a day has its place in a year and in a month. -/
theorem exists_ofDays (days : Int) :
    ∃ year month dayOfYear : Int,
      days + epochOffset = daysBeforeYear year + dayOfYear ∧
      daysBeforeYear year + dayOfYear < daysBeforeYear (year + 1) ∧
      0 ≤ month ∧ month ≤ 11 ∧
      daysBeforeMonth month ≤ dayOfYear ∧ dayOfYear < daysBeforeMonth (month + 1) ∧
      ofDays days = ofMarch year month (dayOfYear - daysBeforeMonth month + 1) := by
  let era := (days + epochOffset) / 146097
  let dayOfEra := (days + epochOffset) % 146097
  let dayOfYear := dayOfEra - daysBeforeYear (yearOfEra dayOfEra)
  obtain ⟨starts, ends⟩ : daysBeforeYear (yearOfEra dayOfEra) ≤ dayOfEra ∧
      dayOfEra < daysBeforeYear (yearOfEra dayOfEra + 1) :=
    yearOfEra_bounds (Int.emod_nonneg _ (by decide)) (Int.emod_lt_of_pos _ (by decide))
  have next : yearOfEra dayOfEra + era * 400 + 1 = yearOfEra dayOfEra + 1 + era * 400 := by omega
  have short : dayOfYear ≤ 365 := by
    have length : daysBeforeYear (yearOfEra dayOfEra + 1) ≤
        daysBeforeYear (yearOfEra dayOfEra) + 366 := by
      unfold daysBeforeYear
      omega
    omega
  refine ⟨yearOfEra dayOfEra + era * 400, (5 * dayOfYear + 2) / 153, dayOfYear, ?_, ?_, ?_, ?_, ?_,
    ?_, ?_⟩
  · rw [daysBeforeYear_add_eras]
    omega
  · rw [next, daysBeforeYear_add_eras, daysBeforeYear_add_eras]
    omega
  · omega
  · omega
  · unfold daysBeforeMonth
    omega
  · unfold daysBeforeMonth
    omega
  · rfl

theorem toDays_ofMarch {month day : Int} (year : Int) (least : 0 ≤ month) (greatest : month ≤ 11)
    (positive : 1 ≤ day) :
    (ofMarch year month day).toDays =
      daysBeforeYear year + daysBeforeMonth month + day - 1 - epochOffset := by
  unfold ofMarch toDays
  by_cases inYear : month < 10
  · have notEarly : ¬ (month + 3).toNat ≤ 2 := by omega
    have back : ((month + 3).toNat : Int) - 3 = month := by omega
    have dayBack : (day.toNat : Int) = day := by omega
    simp only [inYear, if_true, notEarly, if_false, back, dayBack, add_zero]
  · have early : (month - 9).toNat ≤ 2 := by omega
    have back : ((month - 9).toNat : Int) + 9 = month := by omega
    have dayBack : (day.toNat : Int) = day := by omega
    simp only [inYear, if_true, early, if_false, back, dayBack, add_sub_cancel_right]

/-- Days are counted alike in a month that starts with March and in the calendar. -/
theorem isValid_ofMarch {year month day : Int} (least : 0 ≤ month) (greatest : month ≤ 11)
    (positive : 1 ≤ day) (inMonth : daysBeforeMonth month + day ≤ daysBeforeMonth (month + 1))
    (inYear : daysBeforeYear year + daysBeforeMonth month + day ≤ daysBeforeYear (year + 1)) :
    (ofMarch year month day).isValid = true := by
  unfold isValid ofMarch daysInMonth isLeap
  unfold daysBeforeMonth daysBeforeYear at *
  interval_cases month <;> simp <;> omega

/-- The date of a day is a day of the calendar. -/
theorem isValid_ofDays (days : Int) : (ofDays days).isValid = true := by
  obtain ⟨year, month, dayOfYear, -, ends, least, greatest, inMonth, beforeNext, same⟩ :=
    exists_ofDays days
  rw [same]
  apply isValid_ofMarch least greatest <;> omega

/-- The date of a day is that of no other day. -/
theorem toDays_ofDays (days : Int) : (ofDays days).toDays = days := by
  obtain ⟨year, month, dayOfYear, count, -, least, greatest, inMonth, -, same⟩ := exists_ofDays days
  rw [same, toDays_ofMarch year least greatest (by omega)]
  omega

/-- The month and the day of the month have at most two digits. -/
theorem digits_of_isValid {date : Date} (isValid : date.isValid = true) :
    date.month < 10 ^ 2 ∧ date.day < 10 ^ 2 := by
  have most : daysInMonth date.year date.month ≤ 31 := by
    unfold daysInMonth
    split_ifs <;> decide
  simp only [Date.isValid, Bool.and_eq_true, decide_eq_true_eq] at isValid
  omega

end Date
end Stencil
