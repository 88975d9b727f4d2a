import Mathlib.Order.ConditionallyCompleteLattice.Basic
import Mathlib.Data.Int.ConditionallyCompleteOrder

/-!
# The Gregorian calendar on day numbers

Days are counted from 1 January 1970 and months from January of year 0, both as
integers.  The calendar is then a strictly increasing function `monthStart` from
months to the day number of their first day, with `monthOf` as its inverse, and
date arithmetic in months is arithmetic on the month number.
-/

namespace Lib.Calendar

/-- Leap days in the years from 0 up to, not including, `year`. -/
def leapDaysBefore (year : Int) : Int :=
  (year + 3) / 4 - (year + 99) / 100 + (year + 399) / 400

/-- Whether the year has a 29 February. -/
def IsLeap (year : Int) : Prop :=
  year % 4 = 0 ∧ (year % 100 ≠ 0 ∨ year % 400 = 0)

instance (year : Int) : Decidable (IsLeap year) :=
  inferInstanceAs (Decidable (_ ∧ _))

/-- How far a month's first day lies behind the same month in a year whose
February has thirty days. -/
def februaryGap (year month : Int) : Int :=
  if month < 2 then 0 else if IsLeap year then 1 else 2

/-- Day number of the first day of a month. -/
def monthStart (month : Int) : Int :=
  365 * (month / 12) + leapDaysBefore (month / 12) +
    (367 * (month % 12) + 5) / 12 - februaryGap (month / 12) (month % 12) - 719528

/-- The mean month has 146097 / 4800 days; this is off by at most one month. -/
def monthGuess (day : Int) : Int :=
  (day + 719528) * 4800 / 146097

/-- The month a day lies in. -/
def monthOf (day : Int) : Int :=
  if day < monthStart (monthGuess day) then monthGuess day - 1
  else if monthStart (monthGuess day + 1) ≤ day then monthGuess day + 1
  else monthGuess day

theorem leapDaysBefore_succ (year : Int) :
    leapDaysBefore (year + 1) = leapDaysBefore year + if IsLeap year then 1 else 0 := by
  unfold leapDaysBefore IsLeap
  split_ifs <;> omega

/-- Leap days occur 97 times in 400 years, evenly enough. -/
theorem leapDaysBefore_bounds (year : Int) :
    97 * year - 400 ≤ 400 * leapDaysBefore year ∧ 400 * leapDaysBefore year ≤ 97 * year + 800 := by
  unfold leapDaysBefore
  omega

theorem monthStart_of_year (year month : Int) (low : 0 ≤ month) (high : month < 12) :
    monthStart (12 * year + month) = 365 * year + leapDaysBefore year + (367 * month + 5) / 12 -
        februaryGap year month - 719528 := by
  have yearEq : (12 * year + month) / 12 = year := by omega
  have monthEq : (12 * year + month) % 12 = month := by omega
  rw [monthStart, yearEq, monthEq]

theorem exists_year (month : Int) :
    ∃ year index : Int, 0 ≤ index ∧ index < 12 ∧ month = 12 * year + index :=
  ⟨month / 12, month % 12, by omega, by omega, by omega⟩

/-- Every month has 28 to 31 days. -/
theorem monthStart_succ (month : Int) :
    monthStart month + 28 ≤ monthStart (month + 1) ∧
      monthStart (month + 1) ≤ monthStart month + 31 := by
  obtain ⟨year, index, low, high, rfl⟩ := exists_year month
  have here := monthStart_of_year year index low high
  by_cases last : index = 11
  · -- December is followed by January of the next year.
    have next := monthStart_of_year (year + 1) 0 (by omega) (by omega)
    have leap := leapDaysBefore_succ year
    have successor : 12 * year + index + 1 = 12 * (year + 1) + 0 := by omega
    rw [successor, here, next, leap]
    unfold februaryGap
    split_ifs <;> omega
  · have next := monthStart_of_year year (index + 1) (by omega) (by omega)
    rw [add_assoc, here, next]
    unfold februaryGap
    split_ifs <;> omega

theorem monthStart_strictMono : StrictMono monthStart :=
  strictMono_int_of_lt_succ fun month => by
    have := (monthStart_succ month).1
    omega

/-- Month starts stay close to their mean position. -/
theorem monthStart_bounds (month : Int) :
    146097 * month - 30000 ≤ 4800 * (monthStart month + 719528) ∧
      4800 * (monthStart month + 719528) ≤ 146097 * month + 30000 := by
  obtain ⟨year, index, low, high, rfl⟩ := exists_year month
  have leap := leapDaysBefore_bounds year
  rw [monthStart_of_year year index low high]
  unfold februaryGap
  split_ifs <;> omega

/-- A day lies between the start of its month and the start of the next one. -/
theorem monthOf_spec (day : Int) :
    monthStart (monthOf day) ≤ day ∧ day < monthStart (monthOf day + 1) := by
  have guess : 146097 * monthGuess day ≤ 4800 * (day + 719528) ∧
      4800 * (day + 719528) < 146097 * monthGuess day + 146097 := by
    unfold monthGuess
    omega
  have early := (monthStart_bounds (monthGuess day - 1)).2
  have late := (monthStart_bounds (monthGuess day + 1 + 1)).1
  unfold monthOf
  split_ifs with before after
  · rw [sub_add_cancel]
    omega
  · omega
  · omega

/-- A month has begun on a day exactly when it is not after the month of the day. -/
theorem monthStart_le_iff (month day : Int) : monthStart month ≤ day ↔ month ≤ monthOf day := by
  have inside := monthOf_spec day
  constructor
  · intro begun
    exact Int.lt_add_one_iff.mp (monthStart_strictMono.lt_iff_lt.mp (by omega))
  · intro notAfter
    exact (monthStart_strictMono.monotone notAfter).trans inside.1

end Lib.Calendar
