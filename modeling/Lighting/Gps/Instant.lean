import Lighting.Model.Gps

/-!
# The instant a fix stands for

The receiver sends UTC; `_gps_task` adds seven hours and, past midnight, takes 24 hours off
again without touching the date. `app_gps_set_time` takes the result for local time, in the
struct it writes to the RTC and in the one `mktime` turns into the system time.

`fix_instant` is the whole effect: from 17:00 UTC on the clock is set a day back, and what does
not fit into a `time_t` of 4 bytes, from January 2038 on, is cut off. `fix_instant_tomorrow` says
what is missing in the evening: the same form with the date of the next day, over the ends of
months and years, is the instant of the sentence.
-/

set_option autoImplicit false

namespace Lighting

open CString Calendar

/-- The time of a sentence: two digits of the year say which one it is. -/
structure SentenceTime extends DateTime where
  year_range : 2000 ≤ date.year ∧ date.year ≤ 2099

namespace SentenceTime

/-- `n` in two digits. -/
def field (n : Nat) : Bytes := [UInt8.ofNat (0x30 + n / 10), UInt8.ofNat (0x30 + n % 10)]

/-- `hhmmss`, and whatever fraction of a second the receiver appends. -/
def timeField (t : SentenceTime) (fraction : Bytes) : Bytes :=
  field t.hour ++ field t.minute ++ field t.second ++ fraction

/-- `ddmmyy`. -/
def dateField (t : SentenceTime) : Bytes :=
  field t.date.day.toNat ++ field t.date.month ++ field (t.date.year - 2000).toNat

/-- Two digits are enough. -/
theorem dateField_lt (t : SentenceTime) :
    t.date.day.toNat < 100 ∧ t.date.month < 100 ∧ (t.date.year - 2000).toNat < 100 := by
  have hday := t.date.day_range
  have hmonth := t.date.month_range
  have hlength := monthLength_range t.date.year hmonth
  have hyear := t.year_range
  omega

end SentenceTime

open SentenceTime

/-! ## The arithmetic of the conversion -/

theorem twoDigits_field : ∀ n < 100,
    (twoDigits (UInt8.ofNat (0x30 + n / 10)) (UInt8.ofNat (0x30 + n % 10))).toNat = n := by
  decide

theorem gpsYear_field : ∀ n < 100,
    wrap32 (gpsYear (UInt8.ofNat (0x30 + n / 10)) (UInt8.ofNat (0x30 + n % 10))).toNat =
      2000 + n := by
  decide

theorem gpsHour_field : ∀ n < 24,
    (gpsHour (twoDigits (UInt8.ofNat (0x30 + n / 10)) (UInt8.ofNat (0x30 + n % 10)))).toNat =
      (n + 7) % 24 := by
  decide

/-- The form of a date and a time of day. -/
def formAt (d : Date) (hour minute second : Nat) : DateTimeForm where
  hour := hour
  minute := minute
  day := d.day
  month := d.month
  year := d.year
  second := second

/-- **The form of a sentence**: the hour is moved on, around the clock; the date is not. -/
theorem gpsForm_sentence (t : SentenceTime) (fraction : Bytes) :
    gpsForm (t.timeField fraction) t.dateField =
      some (formAt t.date ((t.hour + 7) % 24) t.minute t.second) := by
  obtain ⟨hday, hmonth, hyear⟩ := t.dateField_lt
  have hdayValue : (t.date.day.toNat : Int) = t.date.day := by
    have := t.date.day_range
    omega
  have hyearValue : (2000 + (t.date.year - 2000).toNat : Int) = t.date.year := by
    have := t.year_range
    omega
  have hminute : t.minute < 100 := Nat.lt_trans t.minute_lt (by decide)
  have hsecond : t.second < 100 := Nat.lt_trans t.second_lt (by decide)
  simp only [gpsForm, timeField, dateField, field, List.cons_append, List.nil_append, sixChars,
    Option.bind_eq_bind, Option.bind_some, Option.pure_def]
  rw [gpsHour_field _ t.hour_lt, twoDigits_field _ hminute, twoDigits_field _ hsecond,
    twoDigits_field _ hday, twoDigits_field _ hmonth, gpsYear_field _ hyear, hdayValue,
    hyearValue]
  rfl

theorem localSeconds_formAt (d : Date) (hour minute second : Nat) :
    localSeconds (gpsTm (formAt d hour minute second)) =
      d.number * 86400 + hour * 3600 + minute * 60 + second := by
  have hmonth := d.month_range
  have hdiv : ((d.month : Int) - 1) / 12 = 0 := by omega
  have hmod : (((d.month : Int) - 1) % 12).toNat + 1 = d.month := by omega
  simp only [localSeconds, civilDay, gpsTm, formAt, hdiv, hmod, Date.number]
  rw [show d.year - 1900 + 1900 + 0 = d.year by omega]

/-- The days of the years a `time_t` of any width has room for. -/
theorem number_range {d : Date} (h : 1900 ≤ d.year ∧ d.year ≤ 2200) :
    -30000 ≤ d.number ∧ d.number ≤ 90000 := by
  have hlength := monthLength_range d.year d.month_range
  have hday := d.day_range
  have hbounds := dayNumber_bounds d.year d.month_range d.day
  unfold Date.number
  unfold leapsBefore at hbounds
  omega

/-- Local time seven hours ahead of UTC. -/
theorem mktime_formAt {d : Date} (hyear : 1900 ≤ d.year ∧ d.year ≤ 2200) {hour minute second : Nat}
    (hhour : hour < 24) (hminute : minute < 60) (hsecond : second < 60) :
    mktime (zoneSeconds 7) (gpsTm (formAt d hour minute second)) =
      wrap32 (d.number * 86400 + hour * 3600 + minute * 60 + second - 7 * 3600) := by
  have hnumber := number_range hyear
  have hfirst : dayNumber (-8100) 1 1 = -3677992 := by decide
  have hlast : dayNumber 11901 1 1 = 3627223 := by decide
  unfold mktime
  rw [localSeconds_formAt, hfirst, hlast, if_neg (by omega)]
  rfl

/-! ## The instant -/

/-- What the clock is set to when a sentence with this time is the second active one of a
window. -/
def fixInstant (t : SentenceTime) (fraction : Bytes) : Option Int :=
  (gpsForm (t.timeField fraction) t.dateField).map fun form => mktime (zoneSeconds 7) (gpsTm form)

/-- **The clock is set right until 17:00 UTC**, and a day back from then on, in the 32 bits of
a `time_t`. -/
theorem fix_instant (t : SentenceTime) (fraction : Bytes) :
    fixInstant t fraction = some (wrap32 (t.seconds - if t.hour < 17 then 0 else 86400)) := by
  have hhour := t.hour_lt
  have hyear := t.year_range
  unfold fixInstant
  rw [gpsForm_sentence, Option.map_some, mktime_formAt (by omega) (Nat.mod_lt _ (by decide))
    t.minute_lt t.second_lt, Option.some.injEq]
  refine congrArg wrap32 ?_
  unfold DateTime.seconds
  split
  · rw [Nat.mod_eq_of_lt (by omega)]
    omega
  · rw [Nat.mod_eq_sub_mod (by omega), Nat.mod_eq_of_lt (by omega)]
    omega

/-- From 17:00 UTC on, the form with the next day's date is the instant of the sentence. -/
theorem fix_instant_tomorrow (t : SentenceTime) (hhour : 17 ≤ t.hour) :
    mktime (zoneSeconds 7)
        (gpsTm (formAt t.date.tomorrow ((t.hour + 7) % 24) t.minute t.second)) =
      wrap32 t.seconds := by
  have hlt := t.hour_lt
  have hyear := t.year_range
  have hnext := tomorrow_year t.date
  rw [mktime_formAt (by omega) (Nat.mod_lt _ (by decide)) t.minute_lt t.second_lt]
  refine congrArg wrap32 ?_
  rw [dayNumber_tomorrow, Nat.mod_eq_sub_mod (by omega), Nat.mod_eq_of_lt (by omega)]
  unfold DateTime.seconds
  omega

/-- **When the instant is right**: exactly before 17:00 UTC, as long as a `time_t` lasts. -/
theorem fix_instant_right_iff (t : SentenceTime) (fraction : Bytes) :
    fixInstant t fraction = some t.seconds ↔ t.hour < 17 ∧ t.seconds < 2 ^ 31 := by
  have hyear := t.year_range
  have hday := t.date.day_range
  have hpositive : 0 ≤ t.seconds := by
    have hbounds := dayNumber_bounds t.date.year t.date.month_range t.date.day
    unfold leapsBefore at hbounds
    unfold DateTime.seconds Date.number
    omega
  rw [fix_instant, Option.some.injEq]
  unfold wrap32
  split <;> omega

/-- The last second of 2023, in UTC. -/
def newYearsEve : SentenceTime where
  date := ⟨2023, 12, 31, by decide, by decide⟩
  hour := 23
  minute := 59
  second := 59
  hour_lt := by decide
  minute_lt := by decide
  second_lt := by decide
  year_range := by decide

/-- It is past six in the morning of the next year, and the form says the last of December. -/
theorem newYearsEve_not_right :
    gpsForm (newYearsEve.timeField []) newYearsEve.dateField =
        some ⟨6, 59, 31, 12, 2023, 59⟩ ∧
      fixInstant newYearsEve [] ≠ some newYearsEve.seconds := by
  decide

end Lighting
