import ReplicaSeed.Time.Calendar

/-!
# Dates and their numbers

Every number is that of a date, and it is read from the date again.

## Main definitions

* `Calendar.EraDay`: a day of an era by centuries, leap years, years and days.

## Main statements

* `Calendar.exists_eraDay`: every number is that of a day of an era.
* `Calendar.civilDate_valid`: what is read from a number is a date of the calendar.
* `Calendar.dayNumber_civilDate`: the number of the date is the number it was read from.
-/

namespace ReplicaSeed.Calendar

/-- A day of an era: its century, the four years in it that end with a leap year, the year among
them, and the day of that year. Years begin in March here, so that only the last year of four has a
day 365, and not even that at the end of a century, unless it is the last one. -/
structure EraDay where
  century : Int
  four : Int
  year : Int
  day : Int
  century_range : 0 ≤ century ∧ century ≤ 3
  four_range : 0 ≤ four ∧ four ≤ 24
  year_range : 0 ≤ year ∧ year ≤ 3
  day_range : 0 ≤ day ∧ day ≤ 365
  leap : day = 365 → year = 3 ∧ (four ≠ 24 ∨ century = 3)

namespace EraDay

/-- The number of the day in its era. -/
def number (p : EraDay) : Int := 36524 * p.century + 1461 * p.four + 365 * p.year + p.day

/-- The number of the year in its era. -/
def yearOfEra (p : EraDay) : Int := 100 * p.century + 4 * p.four + p.year

theorem exists_number {d : Int} (low : 0 ≤ d) (high : d < 146097) : ∃ p : EraDay, p.number = d := by
  by_cases last : d = 146096
  · exact ⟨⟨3, 24, 3, 365, by omega, by omega, by omega, by omega, by omega⟩, last.symm⟩
  have century : ∃ e a : Int, (0 ≤ e ∧ e ≤ 3) ∧ (0 ≤ a ∧ a < 36524) ∧ d = 36524 * e + a :=
    ⟨d / 36524, d % 36524, by omega⟩
  obtain ⟨e, a, he, ha, rfl⟩ := century
  have four : ∃ c b : Int, (0 ≤ c ∧ c ≤ 24) ∧ (0 ≤ b ∧ b < 1461) ∧ a = 1461 * c + b :=
    ⟨a / 1461, a % 1461, by omega⟩
  obtain ⟨c, b, hc, hb, rfl⟩ := four
  by_cases leap : b = 1460
  · refine ⟨⟨e, c, 3, 365, he, hc, by omega, by omega, by omega⟩, ?_⟩
    simp only [number]
    omega
  · refine ⟨⟨e, c, b / 365, b % 365, he, hc, by omega, by omega, by omega⟩, ?_⟩
    simp only [number]
    omega

variable (p : EraDay)

theorem number_range : 0 ≤ p.number ∧ p.number < 146097 := by
  obtain ⟨e, c, r, k, he, hc, hr, hk, leap⟩ := p
  simp only [number]
  omega

/-- The year of a day in its era: among the days before it, one is too many for each leap year. -/
theorem yearOfEra_number :
    (p.number - p.number / 1460 + p.number / 36524 - p.number / 146096) / 365 = p.yearOfEra := by
  obtain ⟨e, c, r, k, he, hc, hr, hk, leap⟩ := p
  simp only [number, yearOfEra]
  generalize split : 36524 * e + 1461 * c + 365 * r + k = d
  have leaps : d / 1460 = 25 * e + c + if 24 * e + c + 365 * r + k < 1460 then 0 else 1 := by
    split <;> omega
  by_cases last : d = 146096
  · have century : d / 36524 = 4 := by omega
    have era : d / 146096 = 1 := by omega
    omega
  · have century : d / 36524 = e := by omega
    have era : d / 146096 = 0 := by omega
    rw [leaps, century, era]
    split <;> omega

theorem yearOfEra_range : 0 ≤ p.yearOfEra ∧ p.yearOfEra < 400 := by
  obtain ⟨e, c, r, k, he, hc, hr, hk, leap⟩ := p
  simp only [yearOfEra]
  omega

/-- The days of the years before that of a day. -/
theorem number_eq :
    p.number = 365 * p.yearOfEra + p.yearOfEra / 4 - p.yearOfEra / 100 + p.day := by
  obtain ⟨e, c, r, k, he, hc, hr, hk, leap⟩ := p
  simp only [number, yearOfEra]
  have fours : (100 * e + 4 * c + r) / 4 = 25 * e + c := by omega
  have centuries : (100 * e + 4 * c + r) / 100 = e := by omega
  rw [fours, centuries]
  omega

end EraDay

/-- The number of the month of a day, where months are counted from March. -/
def monthFromMarch (day : Int) : Int := (5 * day + 2) / 153

/-- The number of a month, where months are counted from January. -/
def monthOf (fromMarch : Int) : Int := if fromMarch < 10 then fromMarch + 3 else fromMarch - 9

theorem monthFromMarch_range {day : Int} (h : 0 ≤ day ∧ day ≤ 365) :
    0 ≤ monthFromMarch day ∧ monthFromMarch day ≤ 11 := by
  unfold monthFromMarch
  omega

/-- The date of a day of an era. -/
theorem civilDate_number (era : Int) (p : EraDay) :
    civilDate (era * 146097 + p.number - 719468) =
      (p.yearOfEra + era * 400 + (if monthOf (monthFromMarch p.day) ≤ 2 then 1 else 0),
        (monthOf (monthFromMarch p.day)).toNat,
        (p.day - (153 * monthFromMarch p.day + 2) / 5 + 1).toNat) := by
  have range := p.number_range
  have shifted : era * 146097 + p.number - 719468 + 719468 = era * 146097 + p.number := by omega
  have whole : (era * 146097 + p.number) / 146097 = era := by omega
  have rest : era * 146097 + p.number - era * 146097 = p.number := by omega
  have day : p.number - (365 * p.yearOfEra + p.yearOfEra / 4 - p.yearOfEra / 100) = p.day := by
    have := p.number_eq
    omega
  unfold civilDate monthOf monthFromMarch
  simp only [Int.fdiv_eq_ediv_of_nonneg _ (by decide : (0 : Int) ≤ 146097),
    Int.fdiv_eq_ediv_of_nonneg _ (by decide : (0 : Int) ≤ 1460),
    Int.fdiv_eq_ediv_of_nonneg _ (by decide : (0 : Int) ≤ 36524),
    Int.fdiv_eq_ediv_of_nonneg _ (by decide : (0 : Int) ≤ 146096),
    Int.fdiv_eq_ediv_of_nonneg _ (by decide : (0 : Int) ≤ 365),
    Int.fdiv_eq_ediv_of_nonneg _ (by decide : (0 : Int) ≤ 4),
    Int.fdiv_eq_ediv_of_nonneg _ (by decide : (0 : Int) ≤ 100),
    Int.fdiv_eq_ediv_of_nonneg _ (by decide : (0 : Int) ≤ 153),
    Int.fdiv_eq_ediv_of_nonneg _ (by decide : (0 : Int) ≤ 5), shifted, whole, rest,
    p.yearOfEra_number, day]

/-- Every number is that of a day of an era. -/
theorem exists_eraDay (n : Int) : ∃ era, ∃ p : EraDay, n = era * 146097 + p.number - 719468 := by
  obtain ⟨p, number⟩ := EraDay.exists_number (d := (n + 719468) % 146097) (by omega) (by omega)
  exact ⟨(n + 719468) / 146097, p, by omega⟩

/-- The months from March on are those of the year, and the first two belong to the next one. -/
theorem monthOf_spec {m : Int} (range : 0 ≤ m ∧ m ≤ 11) :
    ((1 ≤ (monthOf m).toNat ∧ (monthOf m).toNat ≤ 12) ∧
      ((monthOf m).toNat ≤ 2 ↔ monthOf m ≤ 2)) ∧ (((monthOf m).toNat : Int) + 9) % 12 = m := by
  unfold monthOf
  split <;> omega

/-- The length of a month is the distance to the next one, but for February. -/
theorem daysInMonth_eq {m : Int} (range : 0 ≤ m ∧ m ≤ 10) (year : Int) :
    (daysInMonth year (monthOf m).toNat : Int) = (153 * (m + 1) + 2) / 5 - (153 * m + 2) / 5 := by
  obtain rfl | rfl | rfl | rfl | rfl | rfl | rfl | rfl | rfl | rfl | rfl :
      m = 0 ∨ m = 1 ∨ m = 2 ∨ m = 3 ∨ m = 4 ∨ m = 5 ∨ m = 6 ∨ m = 7 ∨ m = 8 ∨ m = 9 ∨ m = 10 := by
    omega
  all_goals rfl

theorem daysInMonth_le (year : Int) (month : Nat) : daysInMonth year month ≤ 31 := by
  unfold daysInMonth
  split <;> first | decide | split <;> decide

/-- A year is a leap year if its last day, counted from March, is there. -/
theorem isLeapYear_of_day {p : EraDay} (era : Int) (last : p.day = 365) :
    isLeapYear (p.yearOfEra + era * 400 + 1) = true := by
  obtain ⟨e, c, r, k, he, hc, hr, hk, leap⟩ := p
  obtain ⟨rfl, whole⟩ := leap last
  simp only [isLeapYear, EraDay.yearOfEra, Bool.and_eq_true, Bool.or_eq_true, beq_iff_eq,
    bne_iff_ne, ne_eq, Int.fmod_eq_emod_of_nonneg _ (by decide : (0 : Int) ≤ 4),
    Int.fmod_eq_emod_of_nonneg _ (by decide : (0 : Int) ≤ 100),
    Int.fmod_eq_emod_of_nonneg _ (by decide : (0 : Int) ≤ 400)]
  omega

/-- What is read from a number is a date of the calendar. -/
theorem civilDate_valid (n : Int) :
    (1 ≤ (civilDate n).2.1 ∧ (civilDate n).2.1 ≤ 12) ∧
      1 ≤ (civilDate n).2.2 ∧
      (civilDate n).2.2 ≤ daysInMonth (civilDate n).1 (civilDate n).2.1 := by
  obtain ⟨era, p, rfl⟩ := exists_eraDay n
  have range := monthFromMarch_range p.day_range
  have days := p.day_range
  rw [civilDate_number]
  refine ⟨(monthOf_spec range).1.1, ?_, ?_⟩
  · simp only [monthFromMarch]
    omega
  simp only
  by_cases february : monthFromMarch p.day = 11
  · rw [february]
    change _ ≤ if isLeapYear (p.yearOfEra + era * 400 + 1) = true then 29 else 28
    by_cases last : p.day = 365
    · rw [if_pos (isLeapYear_of_day era last)]
      omega
    · split <;> omega
  · generalize p.yearOfEra + era * 400 + _ = year
    have length := daysInMonth_eq (m := monthFromMarch p.day) (by omega) year
    unfold monthFromMarch at *
    omega

/-- The number of the date is the one that it was read from. -/
theorem dayNumber_civilDate (n : Int) :
    dayNumber (civilDate n).1 (civilDate n).2.1 (civilDate n).2.2 = n := by
  obtain ⟨era, p, rfl⟩ := exists_eraDay n
  have range := monthFromMarch_range p.day_range
  have days := p.day_range
  have years := p.yearOfEra_range
  have number := p.number_eq
  obtain ⟨⟨-, early⟩, back⟩ := monthOf_spec range
  rw [civilDate_number]
  have year : (if (monthOf (monthFromMarch p.day)).toNat ≤ 2 then
      p.yearOfEra + era * 400 + (if monthOf (monthFromMarch p.day) ≤ 2 then 1 else 0) - 1
      else p.yearOfEra + era * 400 + (if monthOf (monthFromMarch p.day) ≤ 2 then 1 else 0)) =
      p.yearOfEra + era * 400 := by
    simp only [early]
    split <;> omega
  have whole : (p.yearOfEra + era * 400) / 400 = era := by omega
  have rest : p.yearOfEra + era * 400 - era * 400 = p.yearOfEra := by omega
  unfold dayNumber
  simp only [year, back, Int.fdiv_eq_ediv_of_nonneg _ (by decide : (0 : Int) ≤ 400),
    Int.fdiv_eq_ediv_of_nonneg _ (by decide : (0 : Int) ≤ 5),
    Int.fdiv_eq_ediv_of_nonneg _ (by decide : (0 : Int) ≤ 4),
    Int.fdiv_eq_ediv_of_nonneg _ (by decide : (0 : Int) ≤ 100), whole, rest]
  unfold monthFromMarch
  omega

end ReplicaSeed.Calendar
