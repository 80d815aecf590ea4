import Mathlib.Data.Nat.Find

/-!
# Days, months and years

The days of the Gregorian calendar, numbered from the first of January 1970, and their years, months
and dates.
-/

namespace UtcCalendar

def msPerDay : ℕ := 86400000

/-- The day of a time in milliseconds. -/
def day (t : ℕ) : ℕ := t / msPerDay

def inLeapYear (y : ℕ) : Bool := y % 4 = 0 && (y % 100 ≠ 0 || y % 400 = 0)

/-- The first day of a year, from 1970 on. -/
def dayFromYear (y : ℕ) : ℕ :=
  365 * (y - 1970) + (y - 1969) / 4 - (y - 1901) / 100 + (y - 1601) / 400

/-- The last year that does not begin after the day. -/
def yearFromDay (d : ℕ) : ℕ :=
  1970 + Nat.findGreatest (fun n => dayFromYear (1970 + n) ≤ d) (d / 365)

def dayWithinYear (d : ℕ) : ℕ := d - dayFromYear (yearFromDay d)

/-- The days of a year before a month, where January is month zero. -/
def monthStart (leap : Bool) (month : ℕ) : ℕ :=
  [0, 31, 59, 90, 120, 151, 181, 212, 243, 273, 304, 334].getD month 365 + if leap &&
    2 ≤ month then 1 else 0

/-- The last month that does not begin after the day. -/
def monthFromDay (d : ℕ) : ℕ :=
  Nat.findGreatest (fun m => monthStart (inLeapYear (yearFromDay d)) m ≤ dayWithinYear d) 11

def dateFromDay (d : ℕ) : ℕ :=
  dayWithinYear d - monthStart (inLeapYear (yearFromDay d)) (monthFromDay d) + 1

/-- The time at which a date begins, for years from 1970 on. -/
def utc (year month date : ℕ) : ℕ :=
  (dayFromYear year + monthStart (inLeapYear year) month + date - 1) * msPerDay

/-- The year and the month of a day. -/
def yearMonth (d : ℕ) : ℕ × ℕ := (yearFromDay d, monthFromDay d)

variable {d d' e f : ℕ}

theorem dayFromYear_yearFromDay_le (d : ℕ) : dayFromYear (yearFromDay d) ≤ d := by
  have hstart : dayFromYear (1970 + 0) ≤ d := Nat.zero_le d
  exact Nat.findGreatest_spec (P := fun n => dayFromYear (1970 + n) ≤ d)
    (Nat.zero_le (d / 365)) hstart

theorem monthStart_monthFromDay_le (d : ℕ) :
    monthStart (inLeapYear (yearFromDay d)) (monthFromDay d) ≤ dayWithinYear d := by
  have hstart : monthStart (inLeapYear (yearFromDay d)) 0 ≤ dayWithinYear d := by simp [monthStart]
  exact Nat.findGreatest_spec (P :=
    fun m => monthStart (inLeapYear (yearFromDay d)) m ≤ dayWithinYear d) (Nat.zero_le 11) hstart

/-- The date of a day begins when the day does. -/
theorem utc_day (d : ℕ) : utc (yearFromDay d) (monthFromDay d) (dateFromDay d) = d * msPerDay := by
  have hyear := dayFromYear_yearFromDay_le d
  have hmonth := monthStart_monthFromDay_le d
  have hsum : dayFromYear (yearFromDay d) +
      monthStart (inLeapYear (yearFromDay d)) (monthFromDay d) + dateFromDay d - 1 = d := by
    unfold dateFromDay
    unfold dayWithinYear at hmonth ⊢
    omega
  rw [utc, hsum]

theorem yearFromDay_mono (h : d ≤ d') : yearFromDay d ≤ yearFromDay d' := by
  refine Nat.add_le_add_left (Nat.findGreatest_mono ?_ (Nat.div_le_div_right h)) 1970
  intro n hn
  exact le_trans hn h

theorem monthFromDay_mono (h : d ≤ d') (hyear : yearFromDay d = yearFromDay d') :
    monthFromDay d ≤ monthFromDay d' := by
  unfold monthFromDay dayWithinYear
  rw [hyear]
  refine Nat.findGreatest_mono_left ?_ 11
  intro m hm
  exact le_trans hm (Nat.sub_le_sub_right h _)

/-- A day between two days of a month is a day of the month. -/
theorem yearMonth_between (hd : d ≤ e) (he : e ≤ f) (h : yearMonth d = yearMonth f) :
    yearMonth e = yearMonth f := by
  obtain ⟨hyear, hmonth⟩ := Prod.mk.inj h
  have hfirst := yearFromDay_mono hd
  have hlast := yearFromDay_mono he
  have hsame : yearFromDay e = yearFromDay f := by omega
  have hbefore := monthFromDay_mono hd (hyear.trans hsame.symm)
  have hafter := monthFromDay_mono he hsame
  rw [hmonth] at hbefore
  exact Prod.ext hsame (Nat.le_antisymm hafter hbefore)

end UtcCalendar
