import Lighting.Lib.Calendar
import Lighting.Lib.CString
import Lighting.Lib.Strtok
import Lighting.Model.Schedule

/-!
# `app_gps.c` — from the bytes of the receiver to a time of day

One iteration of the acquisition loop of `_gps_task`: the read, the search for `GNRMC`, the
chain of `strtok` calls and the conversion of the two tokens it picks. `none` is an undefined
access — a store outside the buffer, a null pointer handed to a string function, a token too
long for its copy, a position behind the end of one.

The arithmetic of the conversion is that of the C types: hour, minute, second, day and month
are `uint8_t`, the year is an `uint32_t`. A digit is taken for one without a test.

What becomes of a converted time is `app_gps_set_time`, for the part that concerns the time
itself: the `struct tm` it builds, and `mktime` under the zone `_schedule_task` has set.
-/

set_option autoImplicit false

namespace Lighting

open CString Strtok Calendar

/-! ## The read and the tokens -/

def gpsBufSize : Nat := 1024

/-- What `uart_read_bytes` answered: -1, or a number of bytes and the bytes. -/
inductive UartRead where
  | failed
  | bytes (data : Bytes) (length_lt : data.length < gpsBufSize)

def dollar : UInt8 := 0x24
def comma : UInt8 := 0x2c
def letterA : UInt8 := 0x41
def letterV : UInt8 := 0x56

def rmcKey : Bytes := ascii ['G', 'N', 'R', 'M', 'C']

/-- `strstr(data, key) != NULL`. -/
def strstr (data key : Bytes) : Bool := data.tails.any (memcmpEq · key)

/-- `strcpy` of a token into one of the two buffers of 20 bytes. -/
def strcpyToken (temp : Option Bytes) : Option Bytes :=
  temp.bind fun token => if token.length < 20 then some token else none

/-- The branch the status field selects, with the two strings copied. -/
inductive Rmc where
  | notFixed
  | fixed (stringTime stringDate : Bytes)
  | other
  deriving DecidableEq, Repr

/-- The chain of `strtok` calls on a string that contains `GNRMC`. A call is written twice
where both its token and its pointer are used. -/
def rmcChain (data : Bytes) : Option Rmc := do
  let p := (strtok dollar (some data)).2
  let p := (strtok comma p).2
  let stringTime ← strcpyToken (strtok comma p).1
  let p := (strtok comma p).2
  let status ← (strtok comma p).1
  let p := (strtok comma p).2
  if letterV ∈ status then return .notFixed
  else if letterA ∈ status then
    -- `atof` reads the latitude, and below it the longitude; both values are unused.
    let _ ← (strtok comma p).1
    let p := (strtok comma p).2
    let p := (strtok comma p).2
    let _ ← (strtok comma p).1
    let p := (strtok comma p).2
    let p := (strtok comma p).2
    let p := (strtok comma p).2
    let p := (strtok comma p).2
    let stringDate ← strcpyToken (strtok comma p).1
    return .fixed stringTime stringDate
  else return .other

/-! ## The conversion -/

/-- Two digits, in `uint8_t`. -/
def twoDigits (tens units : UInt8) : UInt8 := (tens - 0x30) * 10 + (units - 0x30)

/-- The year, in `uint32_t`. -/
def gpsYear (tens units : UInt8) : UInt32 :=
  (tens.toUInt32 - 0x30) * 10 + (units.toUInt32 - 0x30) + 2000

/-- The hour seven hours later; the date stays. -/
def gpsHour (utcHour : UInt8) : UInt8 :=
  let hour := utcHour + 7
  if hour > 23 then hour - 24 else hour

/-- The six characters the conversion reads of a string. -/
def sixChars : Bytes → Option (UInt8 × UInt8 × UInt8 × UInt8 × UInt8 × UInt8)
  | c₀ :: c₁ :: c₂ :: c₃ :: c₄ :: c₅ :: _ => some (c₀, c₁, c₂, c₃, c₄, c₅)
  | _ => none

/-- The form built from the two strings. -/
def gpsForm (stringTime stringDate : Bytes) : Option DateTimeForm := do
  let (t₀, t₁, t₂, t₃, t₄, t₅) ← sixChars stringTime
  let (d₀, d₁, d₂, d₃, d₄, d₅) ← sixChars stringDate
  return {
    hour := (gpsHour (twoDigits t₀ t₁)).toNat
    minute := (twoDigits t₂ t₃).toNat
    day := (twoDigits d₀ d₁).toNat
    month := (twoDigits d₂ d₃).toNat
    year := wrap32 (gpsYear d₄ d₅).toNat
    second := (twoDigits t₄ t₅).toNat }

/-- What an iteration of the acquisition loop found. -/
inductive GpsReading where
  | nothing
  | notFixed
  | fixed (form : DateTimeForm)
  | other
  deriving DecidableEq, Repr

/-- What follows the copies. -/
def gpsConvert : Rmc → Option GpsReading
  | .notFixed => some .notFixed
  | .fixed stringTime stringDate => (gpsForm stringTime stringDate).map .fixed
  | .other => some .other

/-- The body of the acquisition loop after the read. -/
def gpsRead : UartRead → Option GpsReading
  -- `data[-1] = '\0'`.
  | .failed => none
  | .bytes data _ =>
    if data.length = 0 then some .nothing
    else
      -- `data[len] = '\0'` ends the string, unless it ends before.
      let text := cstr data
      if strstr text rmcKey then (rmcChain text).bind gpsConvert else some .nothing

/-! ## The publication of a fix

The second active sentence of a window is published: `_gps_task` raises `is_sync_rtc_gps`,
clears the global `date_time_form` and assigns its six fields. `_GPS_process_task` tests the
flag, calls back with the record and lowers the flag. -/

/-- The six values of an active sentence. -/
structure GpsFix where
  form : DateTimeForm
  converted : ∃ stringTime stringDate, gpsForm stringTime stringDate = some form

/-- An assignment to `date_time_form`; the first is its `memset`. -/
inductive FormWrite where
  | clear
  | hour (value : Int)
  | minute (value : Int)
  | day (value : Int)
  | month (value : Int)
  | year (value : Int)
  | second (value : Int)
  deriving DecidableEq, Repr

def blankForm : DateTimeForm := ⟨0, 0, 0, 0, 0, 0⟩

def FormWrite.run : FormWrite → DateTimeForm → DateTimeForm
  | .clear, _ => blankForm
  | .hour value, form => { form with hour := value }
  | .minute value, form => { form with minute := value }
  | .day value, form => { form with day := value }
  | .month value, form => { form with month := value }
  | .year value, form => { form with year := value }
  | .second value, form => { form with second := value }

def formWrites (fix : GpsFix) : List FormWrite :=
  [ .clear,
    .hour fix.form.hour,
    .minute fix.form.minute,
    .day fix.form.day,
    .month fix.form.month,
    .year fix.form.year,
    .second fix.form.second ]

/-- Where `_GPS_process_task` is. -/
inductive ProcessTask where
  | testing
  | calling
  | clearing
  deriving DecidableEq, Repr

/-- What the two tasks share, and where they are: `gpsTask` has the assignments that are left
of a publication. `published` and `setTimes` are not the code's: how many fixes the flag has
been raised for, and what the `APP_GPS_EVENT_SET_TIME` events carried. -/
structure GpsShared where
  isSyncRtcGps : Bool
  dateTimeForm : DateTimeForm
  gpsTask : List FormWrite
  processTask : ProcessTask
  published : Nat
  setTimes : List DateTimeForm

inductive GpsTurn where
  | gps
  | process
  deriving DecidableEq, Repr

namespace GpsShared

/-- `app_gps_init`, over a global record that is zero. -/
def start : GpsShared := ⟨false, blankForm, [], .testing, 0, []⟩

def step (fixes : Nat → GpsFix) : GpsTurn → GpsShared → GpsShared
  | .gps, s =>
    match s.gpsTask with
    -- The next window has come to its second active sentence.
    | [] =>
      { s with
        isSyncRtcGps := true
        gpsTask := formWrites (fixes s.published)
        published := s.published + 1 }
    | w :: rest => { s with dateTimeForm := w.run s.dateTimeForm, gpsTask := rest }
  | .process, s =>
    match s.processTask with
    | .testing => if s.isSyncRtcGps then { s with processTask := .calling } else s
    | .calling =>
      { s with setTimes := s.setTimes ++ [s.dateTimeForm], processTask := .clearing }
    | .clearing => { s with isSyncRtcGps := false, processTask := .testing }

end GpsShared

/-! ## The acquisition windows -/

/-- The part of `_gps_task` that decides when to read: the `long` both deadlines are counted
from and, in a window, `couter_check_gps_fix`. -/
structure GpsLoop where
  lastGetTickGps : Int
  window : Option Nat
  deriving DecidableEq, Repr

/-- `_gps_task` before its first iteration, over a handle from `app_gps_init`. -/
def GpsLoop.start : GpsLoop := ⟨0, none⟩

/-- The test of the outer loop. -/
def GpsLoop.waits (tick : Int) (loop : GpsLoop) : Bool := tick - loop.lastGetTickGps < 30 * 1000

/-- The test of the inner loop. -/
def GpsLoop.reads (tick : Int) (loop : GpsLoop) : Bool := tick - loop.lastGetTickGps < 10 * 1000

/-- `esp_tick_get` is read again, and its value becomes a `long`. -/
def GpsLoop.store (tickAgain : Int) (loop : GpsLoop) : GpsLoop :=
  { loop with lastGetTickGps := wrap32 tickAgain }

/-- One iteration of the outer loop up to the window, or of the inner one. -/
def gpsTaskPass (tick tickAgain : Int) (reading : GpsReading) (loop : GpsLoop) : GpsLoop :=
  match loop.window with
  | none => if loop.waits tick then loop else { loop.store tickAgain with window := some 0 }
  | some couterCheckGpsFix =>
    if loop.reads tick then
      match reading with
      | .fixed _ =>
        if couterCheckGpsFix + 1 = 2 then { loop with window := none }
        else { loop with window := some (couterCheckGpsFix + 1) }
      | _ => loop
    else { loop.store tickAgain with window := none }

/-! ## What the form stands for -/

/-- The `struct tm` of `app_gps_set_time`. -/
def gpsTm (form : DateTimeForm) : Tm where
  tmSec := form.second
  tmMin := form.minute
  tmHour := form.hour
  tmMday := form.day
  tmMon := form.month - 1
  tmYear := form.year - 1900

/-- `set_timezone_by_utc` writes `GMT-7` for seven hours ahead of UTC: in a POSIX zone the
number is what has to be added to local time. -/
def zoneSeconds (utcOffset : Int) : Int := -utcOffset * 3600

/-- The day a `struct tm` names; its month may lie outside the year. -/
def civilDay (tmYear tmMon tmMday : Int) : Int :=
  dayNumber (tmYear + 1900 + tmMon / 12) ((tmMon % 12).toNat + 1) tmMday

/-- The seconds from 1970 to a local time, on a clock of that zone. -/
def localSeconds (tm : Tm) : Int :=
  civilDay tm.tmYear tm.tmMon tm.tmMday * 86400 + tm.tmHour * 3600 + tm.tmMin * 60 + tm.tmSec

/-- `mktime` normalises the local time. It gives up on a `tm_year` more than 10000 away from
zero; any other time is added up in a `time_t`, which has 4 bytes in this build. -/
def mktime (zone : Int) (tm : Tm) : Int :=
  if localSeconds tm < dayNumber (-8100) 1 1 * 86400 ∨
      dayNumber 11901 1 1 * 86400 ≤ localSeconds tm then -1
  else wrap32 (localSeconds tm + zone)

/-! ## The chain by its tokens -/

/-- The non-empty pieces between commas of what stands behind the first piece that a `$`
ends. -/
def rmcTokens (data : Bytes) : List Bytes := tokens comma (behind dollar data)

/-- **The chain by its tokens.** It copies the second, looks at the third, asks for the
fourth and the sixth and copies the tenth. -/
theorem rmcChain_eq (data : Bytes) :
    rmcChain data =
      (strcpyToken (rmcTokens data)[1]?).bind fun stringTime =>
        (rmcTokens data)[2]?.bind fun status =>
          if letterV ∈ status then some .notFixed
          else if letterA ∈ status then
            (rmcTokens data)[3]?.bind fun _ =>
              (rmcTokens data)[5]?.bind fun _ =>
                (strcpyToken (rmcTokens data)[9]?).map (Rmc.fixed stringTime)
          else some .other := by
  unfold rmcChain rmcTokens
  rw [← remaining_strtok]
  generalize (strtok dollar (some data)).2 = p
  simp only [strtok_fst, strtok_snd, List.head?_eq_getElem?, List.getElem?_tail, Nat.zero_add,
    Nat.reduceAdd]
  cases strcpyToken (remaining comma p)[1]? with
  | none => rfl
  | some stringTime =>
    cases (remaining comma p)[2]? with
    | none => rfl
    | some status =>
      simp only [Option.bind_eq_bind, Option.bind_some, Option.map_eq_bind]
      rfl

end Lighting
