import Mathlib.Algebra.Ring.Int.Defs
import Mathlib.Data.List.Basic

/-!
# Calendar dates and the seconds they stand for

The Gregorian calendar, counted in days from the first of January 1970. `dayNumber` is a
closed formula in the year, the month and the day. What makes it the right one is that the
next date has the next number, over the ends of months, years and Februaries
(`dayNumber_tomorrow`).

A `DateTime` is a date with a time of day, without a zone; `seconds` counts as if the zone
were UTC, and a clock that is `offset` seconds ahead of UTC shows it `offset` seconds earlier.
-/

set_option autoImplicit false

namespace Calendar

def isLeap (y : Int) : Bool := y % 4 = 0 && (y % 100 ≠ 0 || y % 400 = 0)

/-- The lengths of the twelve months. -/
def monthLengths (leap : Bool) : List Int :=
  [31, if leap then 29 else 28, 31, 30, 31, 30, 31, 31, 30, 31, 30, 31]

/-- The length of month `m`, counted from 1. -/
def monthLength (y : Int) (m : Nat) : Int := (monthLengths (isLeap y)).getD (m - 1) 0

/-- The days of the year before month `m`. -/
def daysBeforeMonth (leap : Bool) (m : Nat) : Int := ((monthLengths leap).take (m - 1)).sum

/-- The leap days before year `y`, up to a constant. -/
def leapsBefore (y : Int) : Int := (y - 1) / 4 - (y - 1) / 100 + (y - 1) / 400

/-- Days from the first of January 1970; the day may lie outside the month. -/
def dayNumber (y : Int) (m : Nat) (d : Int) : Int :=
  365 * (y - 1970) + (leapsBefore y - leapsBefore 1970) + daysBeforeMonth (isLeap y) m + (d - 1)

structure Date where
  year : Int
  month : Nat
  day : Int
  month_range : 1 ≤ month ∧ month ≤ 12
  day_range : 1 ≤ day ∧ day ≤ monthLength year month

def Date.number (d : Date) : Int := dayNumber d.year d.month d.day

theorem monthLength_range (y : Int) {m : Nat} (h : 1 ≤ m ∧ m ≤ 12) :
    1 ≤ monthLength y m ∧ monthLength y m ≤ 31 := by
  have htable : ∀ leap, ∀ k < 12,
      1 ≤ (monthLengths leap).getD k 0 ∧ (monthLengths leap).getD k 0 ≤ 31 := by decide
  exact htable (isLeap y) (m - 1) (by omega)

theorem january : 1 ≤ 1 ∧ 1 ≤ 12 := by decide

/-- The date after a date. -/
def Date.tomorrow (d : Date) : Date :=
  if hday : d.day < monthLength d.year d.month then
    { d with day := d.day + 1, day_range := ⟨by have := d.day_range; omega, hday⟩ }
  else if hmonth : d.month < 12 then
    have hrange : 1 ≤ d.month + 1 ∧ d.month + 1 ≤ 12 := ⟨Nat.le_add_left 1 _, hmonth⟩
    { d with
      month := d.month + 1
      day := 1
      month_range := hrange
      day_range := ⟨Int.le_refl 1, (monthLength_range d.year hrange).1⟩ }
  else
    { year := d.year + 1
      month := 1
      day := 1
      month_range := january
      day_range := ⟨Int.le_refl 1, (monthLength_range _ january).1⟩ }

theorem tomorrow_year (d : Date) : d.tomorrow.year = d.year ∨ d.tomorrow.year = d.year + 1 := by
  unfold Date.tomorrow
  split
  · exact Or.inl rfl
  · split
    · exact Or.inl rfl
    · exact Or.inr rfl

theorem daysBeforeMonth_succ (y : Int) {m : Nat} (h : 1 ≤ m ∧ m < 12) :
    daysBeforeMonth (isLeap y) (m + 1) = daysBeforeMonth (isLeap y) m + monthLength y m := by
  have htable : ∀ leap, ∀ k < 11, daysBeforeMonth leap (k + 1 + 1) =
      daysBeforeMonth leap (k + 1) + (monthLengths leap).getD k 0 := by decide
  have hm := htable (isLeap y) (m - 1) (by omega)
  rwa [Nat.sub_add_cancel h.1] at hm

/-- A year has 365 days, and one more if it is a leap year. -/
theorem dayNumber_year_succ (y : Int) : dayNumber (y + 1) 1 1 = dayNumber y 12 31 + 1 := by
  have hleaps : leapsBefore (y + 1) = leapsBefore y + if isLeap y then 1 else 0 := by
    by_cases hleap : isLeap y = true
    · rw [if_pos hleap]
      simp only [isLeap, Bool.and_eq_true, decide_eq_true_eq, Bool.or_eq_true] at hleap
      unfold leapsBefore
      omega
    · rw [if_neg hleap]
      simp only [isLeap, Bool.and_eq_true, decide_eq_true_eq, Bool.or_eq_true] at hleap
      unfold leapsBefore
      omega
  have hfirst : daysBeforeMonth (isLeap (y + 1)) 1 = 0 := by
    cases isLeap (y + 1) <;> rfl
  have hlast : daysBeforeMonth (isLeap y) 12 = 334 + if isLeap y then 1 else 0 := by
    cases isLeap y <;> rfl
  unfold dayNumber
  rw [hleaps, hfirst, hlast]
  omega

/-- **The next date has the next number.** -/
theorem dayNumber_tomorrow (d : Date) : d.tomorrow.number = d.number + 1 := by
  unfold Date.tomorrow
  split
  · simp only [Date.number, dayNumber]
    omega
  · rename_i hday
    have hlast : d.day = monthLength d.year d.month := by
      have := d.day_range
      omega
    split
    · rename_i hmonth
      simp only [Date.number, dayNumber]
      rw [daysBeforeMonth_succ d.year ⟨d.month_range.1, hmonth⟩, hlast]
      omega
    · have hdec : d.month = 12 := by
        have := d.month_range
        omega
      have hthirtyone : monthLength d.year 12 = 31 := by
        unfold monthLength
        cases isLeap d.year <;> rfl
      simp only [Date.number]
      rw [dayNumber_year_succ, hlast, hdec, hthirtyone]

/-- How far a month takes a date. -/
theorem dayNumber_bounds (y : Int) {m : Nat} (h : 1 ≤ m ∧ m ≤ 12) (d : Int) :
    365 * (y - 1970) + (leapsBefore y - leapsBefore 1970) + (d - 1) ≤ dayNumber y m d ∧
      dayNumber y m d ≤
        365 * (y - 1970) + (leapsBefore y - leapsBefore 1970) + 335 + (d - 1) := by
  have htable : ∀ leap, ∀ k < 12, 0 ≤ daysBeforeMonth leap (k + 1) ∧
      daysBeforeMonth leap (k + 1) ≤ 335 := by decide
  have hm := htable (isLeap y) (m - 1) (by omega)
  rw [Nat.sub_add_cancel h.1] at hm
  unfold dayNumber
  omega

/-- A date and a time of day. -/
structure DateTime where
  date : Date
  hour : Nat
  minute : Nat
  second : Nat
  hour_lt : hour < 24
  minute_lt : minute < 60
  second_lt : second < 60

/-- Seconds from the first moment of 1970. -/
def DateTime.seconds (t : DateTime) : Int :=
  t.date.number * 86400 + t.hour * 3600 + t.minute * 60 + t.second

end Calendar
