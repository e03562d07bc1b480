import RocketSurgeon.Lib.Calendar

/-!
# Timestamps

Checkpoints carry the time they were created at.  The daemon computes the date from the seconds
since 1970 in eras of 400 years that begin in March, so that a leap day is the last day of
its year.
-/

namespace RocketSurgeon.Daemon

open Lib.Calendar

structure CivilDate where
  year : ℤ
  month : ℤ
  day : ℤ

/-- The date of a day, counted from the first of March of the year zero.  No dividend is
negative. -/
def civilFromDays (z : ℤ) : CivilDate :=
  let era := z / 146097
  let doe := z - era * 146097
  let yoe := (doe - doe / 1460 + doe / 36524 - doe / 146096) / 365
  let doy := doe - (365 * yoe + yoe / 4 - yoe / 100)
  let mp := (5 * doy + 2) / 153
  let month := if mp < 10 then mp + 3 else mp - 9
  { year := yoe + era * 400 + (if month ≤ 2 then 1 else 0)
    month
    day := doy - (153 * mp + 2) / 5 + 1 }

/-- The fields of a timestamp. -/
structure CivilTime extends CivilDate where
  hour : ℕ
  min : ℕ
  sec : ℕ

/-- The fields that `now_rfc3339` computes. -/
def civilTime (secs : ℕ) : CivilTime :=
  let days := secs / 86400
  let rem := secs % 86400
  { civilFromDays (days + 719468) with
    hour := rem / 3600
    min := rem % 3600 / 60
    sec := rem % 60 }

/-- A day of an era: its century, its four years within that, its year within those, and the day
of the year.  Only the last of four years has a day more, and not at the end of a century, unless
it is the last one. -/
structure DayOfEra (doe century quad year doy : ℤ) : Prop where
  centuries : 0 ≤ century ∧ century ≤ 3
  quads : 0 ≤ quad ∧ quad ≤ 24
  years : 0 ≤ year ∧ year ≤ 3
  days : 0 ≤ doy ∧ doy ≤ 365
  leap : doy = 365 → year = 3 ∧ (quad < 24 ∨ century = 3)
  sum : doe = 36524 * century + 1461 * quad + 365 * year + doy

lemma exists_dayOfEra {doe : ℤ} (hfirst : 0 ≤ doe) (hlast : doe < 146097) :
    ∃ century quad year doy, DayOfEra doe century quad year doy := by
  let century := min (doe / 36524) 3
  let quad := (doe - 36524 * century) / 1461
  let year := min ((doe - 36524 * century - 1461 * quad) / 365) 3
  refine ⟨century, quad, year, doe - 36524 * century - 1461 * quad - 365 * year, ?_⟩
  constructor <;> omega

namespace DayOfEra

variable {doe century quad year doy : ℤ} (hday : DayOfEra doe century quad year doy)

include hday

lemma yearOfEra :
    (doe - doe / 1460 + doe / 36524 - doe / 146096) / 365 = 100 * century + 4 * quad + year := by
  obtain ⟨hcentury, hquad, hyear, hdayOfYear, hleap, hsum⟩ := hday
  have hbounds : 36524 * century ≤ doe ∧
      (doe < 36524 * (century + 1) ∨ century = 3 ∧ doe = 146096) := by omega
  have hcenturies : doe / 36524 - doe / 146096 = century := by omega
  have hquads : doe / 1460 = 25 * century + quad ∨ doe / 1460 = 25 * century + quad + 1 ∧
      1460 ≤ 24 * century + quad + 365 * year + doy := by omega
  -- A leap day is in the last year of four, so that it is counted as one more stretch.
  have hlast : doy = 365 → doe / 1460 = 25 * century + quad + 1 := by
    intro hfull
    obtain ⟨rfl, -⟩ := hleap hfull
    omega
  rw [add_sub_assoc, hcenturies]
  omega

lemma valid (era : ℤ) (hepoch : 719468 ≤ 146097 * era + doe) :
    let mp := (5 * doy + 2) / 153
    let month := if mp < 10 then mp + 3 else mp - 9
    let civil := 100 * century + 4 * quad + year + era * 400 + (if month ≤ 2 then 1 else 0)
    let day := doy - (153 * mp + 2) / 5 + 1
    (1 ≤ month ∧ month ≤ 12) ∧ (1 ≤ day ∧ day ≤ monthLength civil month) ∧
      daysBeforeYear civil + daysBeforeMonth civil month + (day - 1) =
        146097 * era + doe - 719468 := by
  intro mp month civil day
  obtain ⟨hcentury, hquad, hyear, hdayOfYear, hleap, hsum⟩ := hday
  have hmonths : 0 ≤ mp ∧ mp ≤ 11 := by omega
  rcases lt_or_ge mp 10 with hbefore | hafter
  · -- From March to December the year is the one that the era counts.
    have hmonth : month = mp + 3 := if_pos hbefore
    have hlen : day ≤ monthLength civil month := by
      unfold monthLength
      split_ifs <;> omega
    have hcount := daysBeforeMonth_eq civil hmonths.1 hbefore
    rw [← hmonth] at hcount
    rw [daysBeforeYear_eq (by omega), hcount]
    refine ⟨by omega, ⟨by omega, hlen⟩, ?_⟩
    unfold IsLeap
    split_ifs <;> omega
  · -- January and February belong to the next one.
    have hmonth : month = mp - 9 := if_neg (not_lt.mpr hafter)
    have hlen : day ≤ monthLength civil month := by
      unfold monthLength IsLeap
      split_ifs <;> omega
    have hcount : daysBeforeMonth civil month = 31 * (month - 1) := by
      rcases (by omega : month = 1 ∨ month = 2) with hfirst | hsecond
      · rw [hfirst]
        rfl
      · rw [hsecond]
        rfl
    rw [daysBeforeYear_eq (by omega), hcount]
    exact ⟨by omega, ⟨by omega, hlen⟩, by omega⟩

end DayOfEra

lemma civilFromDays_valid {z : ℤ} (hepoch : 719468 ≤ z) :
    let date := civilFromDays z
    (1 ≤ date.month ∧ date.month ≤ 12) ∧
      (1 ≤ date.day ∧ date.day ≤ monthLength date.year date.month) ∧
      daysBeforeYear date.year + daysBeforeMonth date.year date.month + (date.day - 1) =
        z - 719468 := by
  obtain ⟨century, quad, year, doy, hday⟩ :=
    @exists_dayOfEra (z - z / 146097 * 146097) (by omega) (by omega)
  have hdayOfYear : z - z / 146097 * 146097 - (365 * (100 * century + 4 * quad + year) +
      (100 * century + 4 * quad + year) / 4 - (100 * century + 4 * quad + year) / 100) = doy := by
    obtain ⟨hcentury, hquad, hyear, -, -, hsum⟩ := hday
    omega
  obtain ⟨hmonth, hlen, hdays⟩ := hday.valid (z / 146097) (by omega)
  simp only [civilFromDays, hday.yearOfEra, hdayOfYear]
  exact ⟨hmonth, hlen, by omega⟩

/-- **Timestamps are dates.**  The fields are those of a date of the calendar, and it is as many
seconds after the beginning of 1970 as were asked for. -/
theorem civilTime_valid (secs : ℕ) :
    (1 ≤ (civilTime secs).month ∧ (civilTime secs).month ≤ 12) ∧
      let time := civilTime secs
      (1 ≤ time.day ∧ time.day ≤ monthLength time.year time.month) ∧
      time.hour < 24 ∧ time.min < 60 ∧ time.sec < 60 ∧
      secondsSinceEpoch time.year time.month time.day time.hour time.min time.sec = secs := by
  obtain ⟨hmonth, hday, hdays⟩ := @civilFromDays_valid ((secs / 86400 : ℕ) + 719468) (by omega)
  dsimp only [civilTime]
  refine ⟨hmonth, hday, by omega, by omega, by omega, ?_⟩
  rw [secondsSinceEpoch, hdays]
  omega

end RocketSurgeon.Daemon
