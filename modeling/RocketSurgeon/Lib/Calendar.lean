import Mathlib

/-!
# The Gregorian calendar

Dates are counted from the beginning of 1970, year by year and month by month.
-/

namespace RocketSurgeon.Lib.Calendar

def IsLeap (year : ℤ) : Prop := year % 4 = 0 ∧ (year % 100 = 0 → year % 400 = 0)

instance (year : ℤ) : Decidable (IsLeap year) := inferInstanceAs (Decidable (_ ∧ _))

def yearLength (year : ℤ) : ℤ := if IsLeap year then 366 else 365

def monthLength (year month : ℤ) : ℤ :=
  if month = 2 then if IsLeap year then 29 else 28
  else if month = 4 ∨ month = 6 ∨ month = 9 ∨ month = 11 then 30 else 31

/-- The days from the beginning of 1970 to the beginning of a year. -/
def daysBeforeYear (year : ℤ) : ℤ :=
  ∑ passed ∈ Finset.range (year - 1970).toNat, yearLength (1970 + passed)

/-- The days of a year before one of its months. -/
def daysBeforeMonth (year month : ℤ) : ℤ :=
  ∑ passed ∈ Finset.range (month - 1).toNat, monthLength year (1 + passed)

/-- The seconds from the beginning of 1970 to a date and time. -/
def secondsSinceEpoch (year month day hour min sec : ℤ) : ℤ :=
  ((daysBeforeYear year + daysBeforeMonth year month + (day - 1)) * 24 + hour) * 3600 + min * 60 + sec

/-- All years have 365 days, and the leap years one more. -/
lemma daysBeforeYear_eq {year : ℤ} (hyear : 1970 ≤ year) :
    daysBeforeYear year =
      365 * year + (year + 3) / 4 - (year + 99) / 100 + (year + 399) / 400 - 719528 := by
  obtain ⟨passed, rfl⟩ := Int.le.dest hyear
  rw [daysBeforeYear, add_sub_cancel_left, Int.toNat_natCast]
  induction passed with
  | zero => rfl
  | succ passed ih =>
    rw [Finset.sum_range_succ, ih (by omega), yearLength]
    split_ifs with hleap
    · unfold IsLeap at hleap
      omega
    · unfold IsLeap at hleap
      omega

/-- From March on, the lengths of the months repeat after five. -/
lemma daysBeforeMonth_eq (year : ℤ) {months : ℤ} (hfirst : 0 ≤ months) (hlast : months < 10) :
    daysBeforeMonth year (months + 3) = (if IsLeap year then 60 else 59) + (153 * months + 2) / 5 := by
  unfold daysBeforeMonth monthLength
  split_ifs <;> interval_cases months <;> simp [Finset.sum_range_succ]

end RocketSurgeon.Lib.Calendar
