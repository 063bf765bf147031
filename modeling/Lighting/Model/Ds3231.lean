import Lighting.Model.Gps

/-!
# `ds3231.c` — the clock chip, and the two clocks of the device

The seven time registers are bytes that hold what was written last; that they also count is
left out. A field of a `struct tm` goes into its register through `dec2bcd`, whose argument is
an `uint8_t`, and comes out through `bcd2dec`. The hour register has the flags of the 12-hour
format in it, the month register a century bit, and `ds3231_get_time` looks at both.

`app_schedule_set_time` and `app_gps_set_time` write the same `struct tm` to the chip and,
through `mktime`, to the system clock. `_schedule_task` reads the chip once when it starts.
-/

set_option autoImplicit false

namespace Lighting

/-- `set_timezone_by_utc(7)`. -/
def zone : Int := zoneSeconds 7

/-- The `struct tm` of `app_schedule_set_time`; that of `app_gps_set_time` is `gpsTm`. -/
def scheduleTm (form : DateTimeForm) : Tm := { gpsTm form with tmSec := 0 }

/-- Which of the two functions sets the clock. -/
inductive ClockSetter where
  | schedule
  | gps
  deriving DecidableEq, Repr

def ClockSetter.time : ClockSetter → DateTimeForm → Tm
  | .schedule => scheduleTm
  | .gps => gpsTm

end Lighting
