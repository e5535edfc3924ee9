import Mathlib.Order.Monotone.Basic
import Mathlib.Order.Interval.Set.Monotone
import Mathlib.Algebra.Order.Group.Int

/-!
# The calendar

Days, Gregorian months, and the clock of a time zone, with times in seconds.
-/

namespace Wildflow.Store

/-- The first day of a year that begins in March, as a day after 1970-01-01. -/
def yearStart (year : Int) : Int := 365 * year + year / 4 - year / 100 + year / 400 - 719468

def yearOf (day : Int) : Int :=
  -- a year has 146097 / 400 days on average
  let near := (day + 719468) * 400 / 146097
  if day < yearStart near then near - 1 else if yearStart (near + 1) ≤ day then near + 1 else near

/-- Months are counted from March of the year 0. -/
def monthStart (month : Int) : Int := yearStart (month / 12) + (153 * (month % 12) + 2) / 5

def monthOf (day : Int) : Int := 12 * yearOf day + (5 * (day - yearStart (yearOf day)) + 2) / 153

theorem yearStart_succ (year : Int) :
    yearStart year + 365 ≤ yearStart (year + 1) ∧ yearStart (year + 1) ≤ yearStart year + 366 := by
  unfold yearStart
  omega

theorem yearOf_spec (day : Int) : yearStart (yearOf day) ≤ day ∧ day < yearStart (yearOf day + 1) := by
  unfold yearOf yearStart
  grind

theorem monthStart_of {year month : Int} (first : 0 ≤ month) (last : month < 12) :
    monthStart (12 * year + month) = yearStart year + (153 * month + 2) / 5 := by
  rw [monthStart, show (12 * year + month) / 12 = year by omega, show (12 * year + month) % 12 = month by omega]

theorem monthStart_succ (month : Int) : monthStart month < monthStart (month + 1) := by
  have year := yearStart_succ (month / 12)
  rcases Int.lt_or_eq_of_le (show month % 12 ≤ 11 by omega) with earlier | february
  · have next := @monthStart_of (month / 12) (month % 12 + 1) (by omega) (by omega)
    rw [show month + 1 = 12 * (month / 12) + (month % 12 + 1) by omega, next, monthStart]
    omega
  · have next := @monthStart_of (month / 12 + 1) 0 (by omega) (by omega)
    rw [show month + 1 = 12 * (month / 12 + 1) + 0 by omega, next, monthStart]
    omega

theorem monthOf_spec (day : Int) : monthStart (monthOf day) ≤ day ∧ day < monthStart (monthOf day + 1) := by
  obtain ⟨first, last⟩ := yearOf_spec day
  have year := yearStart_succ (yearOf day)
  unfold monthOf
  generalize month : (5 * (day - yearStart (yearOf day)) + 2) / 153 = m
  constructor
  · rw [monthStart_of (by omega) (by omega)]
    omega
  rcases Int.lt_or_eq_of_le (show m ≤ 11 by omega) with earlier | february
  · rw [Int.add_assoc, monthStart_of (by omega) (by omega)]
    omega
  · have next := @monthStart_of (yearOf day + 1) 0 (by omega) (by omega)
    rw [show 12 * yearOf day + m + 1 = 12 * (yearOf day + 1) + 0 by omega, next]
    omega

theorem monthStart_le_iff {month day : Int} : monthStart month ≤ day ↔ month ≤ monthOf day := by
  obtain ⟨first, last⟩ := monthOf_spec day
  have ordered := strictMono_int_of_lt_succ monthStart_succ
  constructor
  · intro begun
    exact Int.lt_add_one_iff.mp (ordered.lt_iff_lt.mp (begun.trans_lt last))
  · intro earlier
    exact (ordered.monotone earlier).trans first

theorem monthOf_monthStart (month : Int) : monthOf (monthStart month) = month := by
  apply le_antisymm
  · by_contra later
    exact absurd (monthStart_le_iff.mpr (show month + 1 ≤ monthOf (monthStart month) by omega))
      (not_le.mpr (monthStart_succ month))
  · exact monthStart_le_iff.mp le_rfl

/-- A time zone: how far its clock is ahead of UTC at each instant. -/
structure Calendar where
  offset : Int → Int

namespace Calendar
variable (zone : Calendar)

def wall (t : Int) : Int := t + zone.offset t

/-- The instant of a wall time as Go's `time.Date` looks it up: with the offset at the instant a first guess gives. -/
def instant (wall : Int) : Int := wall - zone.offset (wall - zone.offset wall)

def date (t : Int) : Int := zone.wall t / 86400

def weekday (t : Int) : Int := (zone.date t + 4) % 7

def startOfDay (t : Int) : Int := zone.instant (zone.date t * 86400)

def startOfMonth (t : Int) : Int := zone.instant (monthStart (monthOf (zone.date t)) * 86400)

/-- Days past the end of a month run into the next ones. -/
def addDate (t years months days : Int) : Int :=
  let month := monthOf (zone.date t)
  let dayOfMonth := zone.date t - monthStart month
  zone.instant ((monthStart (month + 12 * years + months) + dayOfMonth + days) * 86400 + zone.wall t % 86400)

def utc : Calendar := ⟨fun _ => 0⟩

-- One month after 2024-01-31 is 2024-03-02.
example : utc.addDate 1706659200 0 1 0 = 1709337600 := by decide

/-- Every local midnight occurs, and once: what comes before it is of an earlier day. -/
structure Regular : Prop where
  midnight : ∀ day, zone.wall (zone.instant (day * 86400)) = day * 86400
  dawn : ∀ day t, zone.instant (day * 86400) ≤ t ↔ day ≤ zone.date t

theorem utc_regular : utc.Regular where
  midnight day := by simp [wall, instant, utc]
  dawn day t := by
    simp only [date, wall, instant, utc]
    omega

variable {zone : Calendar} (regular : zone.Regular)
include regular

theorem Regular.date_instant (day : Int) : zone.date (zone.instant (day * 86400)) = day := by
  rw [date, regular.midnight]
  omega

theorem Regular.addDate_instant (day months days : Int) :
    zone.addDate (zone.instant (day * 86400)) 0 months days =
      zone.instant ((monthStart (monthOf day + months) + (day - monthStart (monthOf day)) + days) * 86400) := by
  simp only [addDate, regular.date_instant, regular.midnight, Int.mul_emod_left, Int.mul_zero, Int.add_zero]

theorem Regular.addDate_startOfDay_le_iff (base days t : Int) :
    zone.addDate (zone.startOfDay base) 0 0 days ≤ t ↔ zone.date base + days ≤ zone.date t := by
  rw [startOfDay, regular.addDate_instant, Int.add_zero, add_sub_cancel, regular.dawn]

theorem Regular.addDate_startOfMonth_le_iff (base t : Int) :
    zone.addDate (zone.startOfMonth base) 0 1 0 ≤ t ↔ monthOf (zone.date base) < monthOf (zone.date t) := by
  rw [startOfMonth, regular.addDate_instant, monthOf_monthStart, Int.sub_self, Int.add_zero, Int.add_zero,
    regular.dawn, monthStart_le_iff, Int.add_one_le_iff]

end Calendar
end Wildflow.Store
