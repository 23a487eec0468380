import SqlPipeline.Calendar.Date

/-!
Day numbers and dates.

The year of an era and the month of a year are found by divisions that only nearly count the days
of the years and the months before. Main statements: the date of a day number stands in the
calendar, and its day number is the given one.
-/

namespace SqlPipeline
namespace Date

/-- The days of an era before one of its years. -/
def daysBeforeYear (year : Int) : Int :=
  365 * year + year / 4 - year / 100

/-- The year of an era on one of its days. -/
def yearOfDay (day : Int) : Int :=
  (day - day / 1460 + day / 36524 - day / 146096) / 365

/-- The days of a year before one of its months, the first of which is March. -/
def daysBeforeMonth (month : Int) : Int :=
  (153 * month + 2) / 5

/-- The month of a year on one of its days. -/
def monthOfDay (day : Int) : Int :=
  (5 * day + 2) / 153

theorem isLeapYear_iff (year : Int) :
    isLeapYear year = true ↔ year % 4 = 0 ∧ (year % 100 ≠ 0 ∨ year % 400 = 0) := by
  simp [isLeapYear]

theorem daysBeforeYear_century {year : Int} (century : Int) (hyear : 0 ≤ year ∧ year ≤ 99) :
    daysBeforeYear (100 * century + year) = 36524 * century + (365 * year + year / 4) := by
  rw [daysBeforeYear]
  omega

/-- The year of a century on one of its days, of which the years before may have one more. -/
theorem yearOfCentury_spec {century day year : Int} (hcentury : 0 ≤ century ∧ century ≤ 3)
    (hday : 0 ≤ day ∧ day < 36524) (hyear : year = (day - (day + 24 * century) / 1460) / 365) :
    (0 ≤ year ∧ year ≤ 99) ∧ 365 * year + year / 4 ≤ day ∧
      day < 365 * (year + 1) + (year + 1) / 4 := by
  omega

/-- A day lies in its year, and day 365 of a year is the leap day that ends it. -/
theorem yearOfDay_spec {day : Int} (hday : 0 ≤ day ∧ day < 146097) :
    (0 ≤ yearOfDay day ∧ yearOfDay day ≤ 399) ∧ daysBeforeYear (yearOfDay day) ≤ day ∧
      day ≤ daysBeforeYear (yearOfDay day) + 365 ∧
      (day = daysBeforeYear (yearOfDay day) + 365 → isLeapYear (yearOfDay day + 1) = true) := by
  -- The last day of the era is the leap day of a year 400, which no century has.
  by_cases hlast : day = 146096
  · subst hlast
    decide
  · obtain ⟨century, rest, hcentury, hrest, rfl⟩ : ∃ century rest : Int,
        (0 ≤ century ∧ century ≤ 3) ∧ (0 ≤ rest ∧ rest < 36524) ∧ day = 36524 * century + rest :=
      ⟨day / 36524, day % 36524, by omega, by omega, by omega⟩
    obtain ⟨year, hyear⟩ : ∃ year, year = (rest - (rest + 24 * century) / 1460) / 365 := ⟨_, rfl⟩
    have hof : yearOfDay (36524 * century + rest) = 100 * century + year := by
      rw [yearOfDay]
      omega
    obtain ⟨hbounds, hfrom, hto⟩ := yearOfCentury_spec hcentury hrest hyear
    rw [hof, daysBeforeYear_century century hbounds, isLeapYear_iff]
    clear hof hyear
    refine ⟨by omega, by omega, by omega, ?_⟩
    intro hleap
    have hfourth : year % 4 = 3 := by omega
    have hinner : year ≠ 99 := by omega
    exact ⟨by omega, Or.inl (by omega)⟩

theorem monthOfDay_spec {day : Int} (hday : 0 ≤ day ∧ day ≤ 365) :
    (0 ≤ monthOfDay day ∧ monthOfDay day ≤ 11) ∧ daysBeforeMonth (monthOfDay day) ≤ day ∧
      day < daysBeforeMonth (monthOfDay day + 1) := by
  rw [monthOfDay, daysBeforeMonth, daysBeforeMonth]
  omega

theorem isLeapYear_era (year era : Int) :
    isLeapYear (year + 400 * era + 1) = isLeapYear (year + 1) := by
  rw [Bool.eq_iff_iff, isLeapYear_iff, isLeapYear_iff]
  omega

/-- The months from March to January have the days up to the next one, in every year. -/
theorem daysInMonth_eq {month : Int} (hmonth : 0 ≤ month ∧ month ≤ 10) (year : Int) :
    (daysInMonth year (if month < 10 then month + 3 else month - 9).toNat : Int) =
      daysBeforeMonth (month + 1) - daysBeforeMonth month := by
  have hcases : month = 0 ∨ month = 1 ∨ month = 2 ∨ month = 3 ∨ month = 4 ∨ month = 5 ∨
      month = 6 ∨ month = 7 ∨ month = 8 ∨ month = 9 ∨ month = 10 := by omega
  rcases hcases with rfl | rfl | rfl | rfl | rfl | rfl | rfl | rfl | rfl | rfl | rfl <;> rfl

/-- The date of a day by its era and its day of the era. -/
theorem ofDays_eq {era day ofYear month : Int} (hday : 0 ≤ day ∧ day < 146097)
    (hofYear : ofYear = day - daysBeforeYear (yearOfDay day)) (hmonth : month = monthOfDay ofYear) :
    ofDays (146097 * era + day - 719468) =
      ⟨if (if month < 10 then month + 3 else month - 9) ≤ 2 then yearOfDay day + era * 400 + 1
        else yearOfDay day + era * 400,
        (if month < 10 then month + 3 else month - 9).toNat,
        (ofYear - daysBeforeMonth month + 1).toNat⟩ := by
  have hera : (146097 * era + day - 719468 + 719468) / 146097 = era := by omega
  have hrest : (146097 * era + day - 719468 + 719468) % 146097 = day := by omega
  subst hmonth hofYear
  rw [ofDays, hera, hrest]
  rfl

/-- A day by its era, its year of the era, its month of the year from March, and its day of the
month, each counted from zero. -/
structure EraDay where
  era : Int
  year : Int
  month : Int
  day : Int
  year_bounds : 0 ≤ year ∧ year ≤ 399
  month_bounds : 0 ≤ month ∧ month ≤ 11
  day_bounds : 0 ≤ day ∧ daysBeforeMonth month + day < daysBeforeMonth (month + 1)
  last_le : daysBeforeMonth month + day ≤ 365
  leap : daysBeforeMonth month + day = 365 → isLeapYear (year + 1) = true

namespace EraDay

variable (d : EraDay)

/-- The number of the day, counted from 1970-01-01. -/
def number : Int :=
  146097 * d.era + (daysBeforeYear d.year + (daysBeforeMonth d.month + d.day)) - 719468

/-- The date of the day. -/
def date : Date :=
  ⟨if d.month < 10 then d.year + 400 * d.era else d.year + 400 * d.era + 1,
    (if d.month < 10 then d.month + 3 else d.month - 9).toNat, (d.day + 1).toNat⟩

theorem exists_of_number (days : Int) : ∃ d : EraDay, d.number = days ∧ d.date = ofDays days := by
  obtain ⟨era, day, hday, rfl⟩ : ∃ era day : Int,
      (0 ≤ day ∧ day < 146097) ∧ days = 146097 * era + day - 719468 :=
    ⟨(days + 719468) / 146097, (days + 719468) % 146097, by omega, by omega⟩
  obtain ⟨hyear, hfrom, hto, hleap⟩ := yearOfDay_spec hday
  obtain ⟨ofYear, hofYear⟩ : ∃ ofYear, ofYear = day - daysBeforeYear (yearOfDay day) := ⟨_, rfl⟩
  obtain ⟨month, hmonth⟩ : ∃ month, month = monthOfDay ofYear := ⟨_, rfl⟩
  have hspec := @monthOfDay_spec ofYear (by omega)
  rw [← hmonth] at hspec
  refine ⟨⟨era, yearOfDay day, month, ofYear - daysBeforeMonth month, hyear, hspec.1, by omega,
    by omega, fun h => hleap (by omega)⟩, ?_, ?_⟩
  · dsimp only [number]
    omega
  · rw [ofDays_eq hday hofYear hmonth, date]
    dsimp only
    by_cases hspring : month < 10
    · rw [if_pos hspring, if_pos hspring, if_neg (by omega), Int.mul_comm]
    · rw [if_neg hspring, if_neg hspring, if_pos (by omega), Int.mul_comm]

theorem isValid_date : d.date.isValid = true := by
  obtain ⟨era, year, month, day, hyear, hmonth, hday, hlast, hleap⟩ := d
  have hnumber : (1 ≤ (if month < 10 then month + 3 else month - 9).toNat) ∧
      (if month < 10 then month + 3 else month - 9).toNat ≤ 12 := by
    split <;> omega
  simp only [date, isValid, Bool.and_eq_true, decide_eq_true_eq]
  refine ⟨⟨hnumber, by omega⟩, ?_⟩
  by_cases hfebruary : month = 11
  · subst hfebruary
    change (day + 1).toNat ≤ if isLeapYear (year + 400 * era + 1) then 29 else 28
    rw [isLeapYear_era]
    have hbefore : daysBeforeMonth 11 = 337 := rfl
    rw [hbefore] at hlast hleap
    split
    · omega
    · next hcommon =>
      have hnot : 337 + day ≠ 365 := fun h => hcommon (hleap h)
      omega
  · have hlength := @daysInMonth_eq month (by omega)
      (if month < 10 then year + 400 * era else year + 400 * era + 1)
    omega

theorem toDays_date : d.date.toDays = d.number := by
  obtain ⟨era, year, month, day, hyear, hmonth, hday, hlast, hleap⟩ := d
  have hera : (year + 400 * era) / 400 = era := by omega
  have hofEra : (year + 400 * era) % 400 = year := by omega
  simp only [date, toDays, number]
  by_cases hspring : month < 10
  · rw [if_pos hspring, if_pos hspring, if_neg (by omega)]
    have hofYear : (((month + 3).toNat : Int) + 9) % 12 = month := by omega
    rw [hofYear, hera, hofEra, daysBeforeYear, daysBeforeMonth]
    omega
  · rw [if_neg hspring, if_neg hspring, if_pos (by omega), Int.add_sub_cancel]
    have hofYear : (((month - 9).toNat : Int) + 9) % 12 = month := by omega
    rw [hofYear, hera, hofEra, daysBeforeYear, daysBeforeMonth]
    omega

end EraDay

/-- The date of a day stands in the calendar. -/
theorem isValid_ofDays (days : Int) : (ofDays days).isValid = true := by
  obtain ⟨d, -, hdate⟩ := EraDay.exists_of_number days
  rw [← hdate, d.isValid_date]

/-- A day is found again from its date. -/
theorem toDays_ofDays (days : Int) : (ofDays days).toDays = days := by
  obtain ⟨d, hnumber, hdate⟩ := EraDay.exists_of_number days
  rw [← hdate, d.toDays_date, hnumber]

end Date
end SqlPipeline
