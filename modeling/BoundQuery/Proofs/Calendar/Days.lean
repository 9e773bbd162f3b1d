import BoundQuery.Calendar.Timestamp
import Mathlib.Tactic.IntervalCases

/-!
# Days and dates

The conversion of a day's number into a date works within an era of 400 years.

* `daysBefore` : the days of an era in front of one of its years;
* `yearOfEra` : the year of a day of an era; `yearOfEra_eq` shows that **the day lies in that
  year**;
* `monthOfYear`, `dayOfMonth` : the month and the day in it, for a year that begins in March;
* `isDate_dateOfDay` : **every day in the range of timestamps has a date of the calendar.**
-/

namespace BoundQuery.Calendar

/-! ### Years of an era -/

/-- The days of an era in front of one of its years. -/
def daysBefore (year : Int) : Int := 365 * year + year / 4 - year / 100 + year / 400

/-- The year of a day of an era. -/
def yearOfEra (day : Int) : Int := (day - day / 1460 + day / 36524 - day / 146096) / 365

theorem yearOfEra_mono {a b : Int} (h : a ≤ b) : yearOfEra a ≤ yearOfEra b := by
  have hyears : a - a / 1460 ≤ b - b / 1460 := by omega
  -- The leap days that centuries take away grow no slower than those that eras give back.
  have hcenturies : ∀ x : Int, x / 146096 = x / 36524 / 4 := fun x => by omega
  have hleap : a / 36524 - a / 146096 ≤ b / 36524 - b / 146096 := by
    rw [hcenturies, hcenturies]
    omega
  exact Int.ediv_le_ediv (by decide) (by omega)

/-- The first and the last day of a year. -/
theorem yearOfEra_ends : ∀ year : Fin 400,
    yearOfEra (daysBefore year.val) = year.val ∧
      yearOfEra (daysBefore (year.val + 1) - 1) = year.val := by decide +kernel

/-- Every day of an era lies in one of its years. -/
theorem exists_year {day : Int} (hfirst : 0 ≤ day) (hlast : day ≤ 146096) :
    ∃ year : Fin 400, daysBefore year.val ≤ day ∧ day < daysBefore (year.val + 1) := by
  have hbelow : ∀ n : Nat, n ≤ 400 → day < daysBefore n →
      ∃ year : Fin 400, daysBefore year.val ≤ day ∧ day < daysBefore (year.val + 1) := by
    intro n
    induction n with
    | zero =>
      intro _ h
      exact absurd h (by simpa [daysBefore] using hfirst)
    | succ n ih =>
      intro hn h
      by_cases hday : day < daysBefore n
      · exact ih (Nat.le_of_succ_le hn) hday
      · exact ⟨⟨n, hn⟩, Int.not_lt.1 hday, h⟩
  exact hbelow 400 (Nat.le_refl _) (by simp only [daysBefore]; omega)

/-- **A day lies in its year.** -/
theorem yearOfEra_eq {day : Int} (hfirst : 0 ≤ day) (hlast : day ≤ 146096) :
    0 ≤ yearOfEra day ∧ yearOfEra day ≤ 399 ∧ daysBefore (yearOfEra day) ≤ day ∧
      day < daysBefore (yearOfEra day + 1) := by
  obtain ⟨year, hfrom, hto⟩ := exists_year hfirst hlast
  obtain ⟨hstart, hend⟩ := yearOfEra_ends year
  have hyear : yearOfEra day = year.val := by
    refine Int.le_antisymm ?_ ?_
    · exact hend ▸ yearOfEra_mono (Int.le_sub_one_of_lt hto)
    · exact hstart ▸ yearOfEra_mono hfrom
  have hlt := year.isLt
  rw [hyear]
  exact ⟨by omega, by omega, hfrom, hto⟩

/-! ### Months of a year -/

/-- The month of a day of a year, both counted from the first of March. -/
def monthOfYear (day : Int) : Int := (5 * day + 2) / 153

/-- The day within its month. -/
def dayOfMonth (day : Int) : Int := day - (153 * monthOfYear day + 2) / 5 + 1

/-- The month counted from January. -/
def monthFromJanuary (day : Int) : Int := (monthOfYear day + 2) % 12 + 1

/-- A day of a year that begins in March is a day of its month; the year that counts for February is
the next one, in which the leap day lies. -/
theorem dayOfMonth_le {day year : Int} (hfirst : 0 ≤ day) (hlast : day ≤ 365)
    (hleap : day = 365 → isLeapYear (year + 1) = true) :
    1 ≤ (dayOfMonth day).toNat ∧
      (dayOfMonth day).toNat ≤
        daysInMonth (year + if monthFromJanuary day ≤ 2 then 1 else 0)
          (monthFromJanuary day).toNat := by
  unfold dayOfMonth monthFromJanuary
  obtain ⟨month, hmonth⟩ : ∃ month, monthOfYear day = month := ⟨_, rfl⟩
  have hlow : 153 * month ≤ 5 * day + 2 := by unfold monthOfYear at hmonth; omega
  have hhigh : 5 * day + 2 < 153 * (month + 1) := by unfold monthOfYear at hmonth; omega
  have hm0 : 0 ≤ month := by omega
  have hm1 : month ≤ 11 := by omega
  rw [hmonth]
  interval_cases month
  case «11» =>
    -- February: the day beyond the twenty-eighth is there in leap years only.
    have hlast' : day = 365 ∨ day ≤ 364 := by omega
    rcases hlast' with rfl | hlast'
    · simp [daysInMonth, hleap rfl]
    · have hfebruary : 28 ≤ daysInMonth (year + 1) 2 := by
        simp only [daysInMonth]
        split <;> decide
      simp
      omega
  all_goals
    simp [daysInMonth]
    omega

/-! ### Dates -/

/-- The parts of the date of a day, by the steps in which they are found. -/
theorem dateOfDay_eq (number : Int) :
    dateOfDay number =
      let dayOfEra := (number + 719468) % 146097
      let year := yearOfEra dayOfEra
      let day := dayOfEra - (365 * year + year / 4 - year / 100)
      (year + (number + 719468) / 146097 * 400 + (if monthFromJanuary day ≤ 2 then 1 else 0),
        (monthFromJanuary day).toNat, (dayOfMonth day).toNat) := rfl

/-- A year that begins in March has a day more if the next year is a leap year. -/
theorem daysBefore_succ (year : Int) :
    daysBefore (year + 1) = daysBefore year + if isLeapYear (year + 1) then 366 else 365 := by
  -- Each of the three counts of years steps up where the next year is a multiple.
  have h4 : (year + 1) / 4 = year / 4 + if (year + 1) % 4 = 0 then 1 else 0 := by
    split <;> omega
  have h100 : (year + 1) / 100 = year / 100 + if (year + 1) % 100 = 0 then 1 else 0 := by
    split <;> omega
  have h400 : (year + 1) / 400 = year / 400 + if (year + 1) % 400 = 0 then 1 else 0 := by
    split <;> omega
  have hcentury : (year + 1) % 100 = 0 → (year + 1) % 4 = 0 := by omega
  have hera : (year + 1) % 400 = 0 → (year + 1) % 100 = 0 := by omega
  simp only [daysBefore, h4, h100, h400, isLeapYear, Bool.and_eq_true, Bool.or_eq_true,
    decide_eq_true_eq]
  split_ifs <;> omega

/-- Eras do not change which years are leap years. -/
theorem isLeapYear_add_era (year era : Int) :
    isLeapYear (year + era * 400) = isLeapYear year := by
  have h4 : (year + era * 400) % 4 = year % 4 := by omega
  have h100 : (year + era * 400) % 100 = year % 100 := by omega
  have h400 : (year + era * 400) % 400 = year % 400 := by omega
  rw [isLeapYear, h4, h100, h400, isLeapYear]

/-- The day of its year for a day of an era. There is a last one only if the next year is a leap
year. -/
theorem dayOfYear_bounds {day : Int} (hfirst : 0 ≤ day) (hlast : day ≤ 146096) :
    0 ≤ day - (365 * yearOfEra day + yearOfEra day / 4 - yearOfEra day / 100) ∧
      day - (365 * yearOfEra day + yearOfEra day / 4 - yearOfEra day / 100) ≤ 365 ∧
      (day - (365 * yearOfEra day + yearOfEra day / 4 - yearOfEra day / 100) = 365 →
        isLeapYear (yearOfEra day + 1) = true) := by
  obtain ⟨h0, h399, hfrom, hto⟩ := yearOfEra_eq hfirst hlast
  generalize yearOfEra day = year at *
  have hbefore : daysBefore year = 365 * year + year / 4 - year / 100 := by
    simp only [daysBefore]
    omega
  rw [daysBefore_succ] at hto
  rw [← hbefore]
  split at hto
  next hleap => exact ⟨by omega, by omega, fun _ => hleap⟩
  next => exact ⟨by omega, by omega, fun h => by omega⟩

/-- January and February come last in a year that begins in March. -/
theorem monthFromJanuary_le_two_iff {day : Int} (hfirst : 0 ≤ day) (hlast : day ≤ 365) :
    monthFromJanuary day ≤ 2 ↔ 306 ≤ day := by
  have hmonth : 10 ≤ monthOfYear day ↔ 306 ≤ day := by unfold monthOfYear; omega
  have h0 : 0 ≤ monthOfYear day := by unfold monthOfYear; omega
  have h11 : monthOfYear day ≤ 11 := by unfold monthOfYear; omega
  rw [← hmonth, monthFromJanuary]
  omega

/-- The years of the days in the range of timestamps. The first and the last of these days lie in
the eras before and behind those that are in the range as a whole. -/
theorem year_dateOfDay {number : Int} (hfirst : -96465292 ≤ number) (hlast : number ≤ 95026236) :
    firstYear ≤ (dateOfDay number).1 ∧ (dateOfDay number).1 ≤ lastYear := by
  have hsplit := Int.emod_add_mul_ediv (number + 719468) 146097
  have hday := Int.emod_nonneg (number + 719468) (b := 146097) (by decide)
  have hday' := Int.emod_lt_of_pos (number + 719468) (b := 146097) (by decide)
  rw [dateOfDay_eq]
  generalize (number + 719468) % 146097 = day at *
  generalize (number + 719468) / 146097 = era at *
  obtain ⟨h0, h399, hfrom, hto⟩ := yearOfEra_eq hday (by omega)
  obtain ⟨hdoy, hdoy', -⟩ := dayOfYear_bounds hday (by omega)
  have hmonth := monthFromJanuary_le_two_iff hdoy hdoy'
  simp only [hmonth, firstYear, lastYear]
  generalize yearOfEra day = year at *
  simp only [daysBefore] at hfrom hto
  constructor
  · have hera : era = -656 ∨ -655 ≤ era := by omega
    rcases hera with rfl | hera
    · have hyear : year = 256 ∨ 257 ≤ year := by omega
      rcases hyear with rfl | hyear
      · rw [if_pos (by omega)]
        omega
      · split <;> omega
    · split <;> omega
  · have hera : era = 655 ∨ era ≤ 654 := by omega
    rcases hera with rfl | hera
    · have hyear : year = 142 ∨ year ≤ 141 := by omega
      rcases hyear with rfl | hyear
      · rw [if_neg (by omega)]
        omega
      · split <;> omega
    · split <;> omega

/-- **Every day in the range of timestamps has a date of the calendar.** -/
theorem isDate_dateOfDay {number : Int} (hfirst : -96465292 ≤ number) (hlast : number ≤ 95026236) :
    isDate (dateOfDay number).1 (dateOfDay number).2.1 (dateOfDay number).2.2 = true := by
  obtain ⟨hyear, hyear'⟩ := year_dateOfDay hfirst hlast
  have hday := Int.emod_nonneg (number + 719468) (b := 146097) (by decide)
  have hday' := Int.emod_lt_of_pos (number + 719468) (b := 146097) (by decide)
  obtain ⟨hdoy, hdoy', hleap⟩ := dayOfYear_bounds hday (by omega)
  rw [isDate, decide_eq_true hyear, decide_eq_true hyear']
  rw [dateOfDay_eq]
  simp only [Bool.true_and, Bool.and_eq_true, decide_eq_true_eq]
  refine dayOfMonth_le hdoy hdoy' fun h => ?_
  rw [add_right_comm, isLeapYear_add_era]
  exact hleap h

end BoundQuery.Calendar
