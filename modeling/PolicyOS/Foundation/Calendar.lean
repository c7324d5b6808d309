import Mathlib.Data.Nat.Digits.Defs
import PolicyOS.Foundation.Text

/-!
# Dates and times of day

The calendar date of a day, and how a date and a time of day are written with leading zeros. An
instant is told by its year and what is written after the year.
-/

namespace PolicyOS.Foundation

/-- The year, month and day of a day counted from the epoch. -/
def civilDate (days : Int) : Int × Int × Int :=
  let shifted := days + 719468
  let dayOfEra := shifted % 146097
  let yearOfEra := (dayOfEra - dayOfEra / 1460 + dayOfEra / 36524 - dayOfEra / 146096) / 365
  let dayOfYear := dayOfEra - (365 * yearOfEra + yearOfEra / 4 - yearOfEra / 100)
  let monthFromMarch := (5 * dayOfYear + 2) / 153
  let day := dayOfYear - (153 * monthFromMarch + 2) / 5 + 1
  let month := if monthFromMarch < 10 then monthFromMarch + 3 else monthFromMarch - 9
  (yearOfEra + shifted / 146097 * 400 + (if month ≤ 2 then 1 else 0), month, day)

example : civilDate 19723 = (2024, 1, 1) ∧ civilDate 11016 = (2000, 2, 29) := by decide

/-- A number with leading zeros. -/
def padded (width : Nat) (value : Int) : List Char :=
  let digits := Nat.toDigits 10 value.toNat
  List.replicate (width - digits.length) '0' ++ digits

/-- What is written after the year of an instant in microseconds: month, day and time of day. -/
def dayTime (instant : Int) : Text :=
  let date := civilDate (instant / 86400000000)
  let seconds := instant % 86400000000 / 1000000
  '-' :: padded 2 date.2.1 ++ '-' :: padded 2 date.2.2 ++
    'T' :: padded 2 (seconds / 3600) ++ ':' :: padded 2 (seconds / 60 % 60) ++
    ':' :: padded 2 (seconds % 60) ++ '.' :: padded 6 (instant % 1000000) ++ ['Z']

/-! ## Dates -/

/-- The year of an era and the day of that year keep to their bounds. -/
theorem dayOfYear_bounds {day : Int} (nonnegative : 0 ≤ day) (within : day < 146097) :
    let year := (day - day / 1460 + day / 36524 - day / 146096) / 365
    0 ≤ year ∧ year < 400 ∧ 0 ≤ day - (365 * year + year / 4 - year / 100) ∧
      day - (365 * year + year / 4 - year / 100) < 366 := by
  intro year
  have low : 365 * year ≤ day - day / 1460 + day / 36524 - day / 146096 := by omega
  have high : day - day / 1460 + day / 36524 - day / 146096 < 365 * year + 365 := by omega
  clear_value year
  have quads : year / 4 ≤ day / 1460 ∧ day / 1460 ≤ year / 4 + 1 := by omega
  have leaps : 25 * (day / 36524) ≤ day / 1460 := by omega
  have centuries : day / 36524 - day / 146096 ≤ year / 100 ∧ year / 100 ≤ day / 36524 := by omega
  exact ⟨by omega, by omega, by omega, by omega⟩

/-- A day is told by its date. -/
theorem civilDate_injective : Function.Injective civilDate := by
  intro first second same
  simp only [civilDate, Prod.mk.injEq] at same
  obtain ⟨year, month, day⟩ := same
  have firstYear := @dayOfYear_bounds ((first + 719468) % 146097) (by omega) (by omega)
  have secondYear := @dayOfYear_bounds ((second + 719468) % 146097) (by omega) (by omega)
  have firstDay := Int.emod_add_mul_ediv (first + 719468) 146097
  have secondDay := Int.emod_add_mul_ediv (second + 719468) 146097
  dsimp only at firstYear secondYear
  generalize (first + 719468) % 146097 = d at *
  generalize (second + 719468) % 146097 = e at *
  generalize (d - d / 1460 + d / 36524 - d / 146096) / 365 = y at *
  generalize (e - e / 1460 + e / 36524 - e / 146096) / 365 = z at *
  generalize isDay : d - (365 * y + y / 4 - y / 100) = k at *
  generalize isOther : e - (365 * z + z / 4 - z / 100) = l at *
  have sameMonth : (5 * k + 2) / 153 = (5 * l + 2) / 153 := by
    clear year day
    split_ifs at month <;> omega
  rw [sameMonth] at day year
  have sameDay : k = l := by omega
  have sameYear : y = z := by
    have centuries := add_right_cancel year
    omega
  subst sameYear
  omega

/-- Months and days have two digits. -/
theorem civilDate_bounds (days : Int) :
    0 ≤ (civilDate days).2.1 ∧ (civilDate days).2.1 < 100 ∧
      0 ≤ (civilDate days).2.2 ∧ (civilDate days).2.2 < 100 := by
  have year := @dayOfYear_bounds ((days + 719468) % 146097) (by omega) (by omega)
  simp only [civilDate]
  dsimp only at year
  generalize (days + 719468) % 146097 = d at *
  generalize (d - d / 1460 + d / 36524 - d / 146096) / 365 = y at *
  generalize d - (365 * y + y / 4 - y / 100) = k at *
  split_ifs <;> omega

/-! ## Leading zeros -/

theorem length_padded {width : Nat} {value : Int} (positive : 0 < width)
    (small : value < 10 ^ width) : (padded width value).length = width := by
  have digits : (Nat.toDigits 10 value.toNat).length ≤ width := by
    refine (Nat.length_toDigits_le_iff (by decide) positive).mpr ?_
    have power : (10 : Int) ^ width = ((10 ^ width : Nat) : Int) := by push_cast; rfl
    have room : 0 < 10 ^ width := by positivity
    omega
  simp only [padded, List.length_append, List.length_replicate]
  omega

theorem padded_injective {width : Nat} {first second : Int} (isFirst : 0 ≤ first)
    (isSecond : 0 ≤ second) (same : padded width first = padded width second) :
    first = second := by
  have value : ∀ number : Int, Nat.ofDigitChars 10 (padded width number) 0 = number.toNat := by
    intro number
    simp [padded, Nat.ofDigitChars_append, Nat.ofDigitChars_replicate_zero]
  have numbers := congrArg (Nat.ofDigitChars 10 · 0) same
  simp only [value] at numbers
  omega

/-! ## Instants -/

/-- The hours, minutes, seconds and microseconds of an instant keep to their digits. -/
theorem clock_bounds (instant : Int) :
    let seconds := instant % 86400000000 / 1000000
    (0 ≤ seconds / 3600 ∧ seconds / 3600 < 100) ∧
      (0 ≤ seconds / 60 % 60 ∧ seconds / 60 % 60 < 100) ∧
      (0 ≤ seconds % 60 ∧ seconds % 60 < 100) ∧
      (0 ≤ instant % 1000000 ∧ instant % 1000000 < 1000000) := by
  intro seconds
  refine ⟨⟨?_, ?_⟩, ⟨?_, ?_⟩, ⟨?_, ?_⟩, ?_, ?_⟩ <;> omega

/-- An instant is told by its year and what is written after the year. -/
theorem eq_of_dayTime {first second : Int}
    (year : (civilDate (first / 86400000000)).1 = (civilDate (second / 86400000000)).1)
    (same : dayTime first = dayTime second) : first = second := by
  have two : ∀ value : Int, value < 100 → (padded 2 value).length = 2 :=
    fun value small => length_padded (by decide) small
  have firstDate := civilDate_bounds (first / 86400000000)
  have secondDate := civilDate_bounds (second / 86400000000)
  have firstClock := clock_bounds first
  have secondClock := clock_bounds second
  dsimp only at firstClock secondClock
  simp only [dayTime, List.append_assoc, List.cons_append, List.cons.injEq, true_and] at same
  -- Every part has the same number of digits on both sides.
  obtain ⟨month, same⟩ := List.append_inj same (by simp [two, firstDate, secondDate])
  obtain ⟨day, same⟩ := List.append_inj (List.cons.inj same).2 (by simp [two, firstDate, secondDate])
  obtain ⟨hour, same⟩ :=
    List.append_inj (List.cons.inj same).2 (by simp [two, firstClock, secondClock])
  obtain ⟨minute, same⟩ :=
    List.append_inj (List.cons.inj same).2 (by simp [two, firstClock, secondClock])
  obtain ⟨second', same⟩ :=
    List.append_inj (List.cons.inj same).2 (by simp [two, firstClock, secondClock])
  have micro := List.append_cancel_right (List.cons.inj same).2
  have sameDate : civilDate (first / 86400000000) = civilDate (second / 86400000000) :=
    Prod.ext year (Prod.ext (padded_injective firstDate.1 secondDate.1 month)
      (padded_injective firstDate.2.2.1 secondDate.2.2.1 day))
  have sameDay := civilDate_injective sameDate
  have sameHour := padded_injective firstClock.1.1 secondClock.1.1 hour
  have sameMinute := padded_injective firstClock.2.1.1 secondClock.2.1.1 minute
  have sameSecond := padded_injective firstClock.2.2.1.1 secondClock.2.2.1.1 second'
  have sameMicro := padded_injective firstClock.2.2.2.1 secondClock.2.2.2.1 micro
  omega

end PolicyOS.Foundation
