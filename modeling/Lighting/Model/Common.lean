import Mathlib.Algebra.Group.Int.Defs
import Mathlib.Algebra.Group.Nat.Defs
import Mathlib.Data.Int.Basic

/-!
# `app_common.h` — the vocabulary the modules share

The records, the two mode enumerations and the event identifiers of the controller firmware.
Here and in the other files of `Model`, a definition whose name is a name of the source in
camel case is that function or constant; a docstring says what is not plain from that. A C
`int` is an `Int`; where the code narrows a wider or an unsigned value to one, `wrap32` says
so.

The two mode enumerations have the same three numerals and `event_callback` casts one to the
other. Both are read out of memory that nothing initialised, so each has a `stray` numeral
besides the three names.

An event carries its payload instead of a pointer and a length: `none` is what the handlers
test for, a `NULL` pointer or a payload of the wrong size.
-/

set_option autoImplicit false

namespace Lighting

/-- Two's complement reading of the low 32 bits: an `uint32_t` or a 64-bit value stored in an
`int` or in a `long` of the ESP32. -/
def wrap32 (x : Int) : Int := (x + 2 ^ 31) % 2 ^ 32 - 2 ^ 31

theorem wrap32_mem_iff {x k : Int} (hx : 0 ≤ x ∧ x < 2 ^ 32) (hk : 0 ≤ k ∧ k < 2 ^ 31) :
    (0 ≤ wrap32 x ∧ wrap32 x ≤ k) ↔ x ≤ k := by
  unfold wrap32; omega

/-- `esp_err_t`: success, the codes the firmware looks at, and the rest. -/
inductive EspErr where
  | ok
  | fail
  | nvsNotFound
  | nvsNoFreePages
  | nvsNewVersionFound
  | nvsRemoveFailed
  | other (code : Int)
  deriving DecidableEq, Repr

/-- `active_time_t`. -/
structure ActiveTime where
  startHour : Int
  startMinute : Int
  endHour : Int
  endMinute : Int
  deriving DecidableEq, Repr

/-- `date_time_form_t`. -/
structure DateTimeForm where
  hour : Int
  minute : Int
  day : Int
  month : Int
  year : Int
  second : Int
  deriving DecidableEq, Repr

/-- A `float` as its bit pattern: the firmware stores and forwards meter values and never
computes with one. -/
abbrev CFloat := UInt32

/-- `phases_data_t`. -/
structure PhasesData where
  p1 : CFloat
  p2 : CFloat
  p3 : CFloat
  u1 : CFloat
  u2 : CFloat
  u3 : CFloat
  i1 : CFloat
  i2 : CFloat
  i3 : CFloat
  phy1 : CFloat
  phy2 : CFloat
  phy3 : CFloat
  power : CFloat
  deriving DecidableEq, Repr

/-- `memset(&phases_data, 0, …)`. -/
def PhasesData.zero : PhasesData := ⟨0, 0, 0, 0, 0, 0, 0, 0, 0, 0, 0, 0, 0⟩

/-- `app_controller_mode_t`. -/
inductive ControllerMode where
  | off
  | auto
  | manual
  | stray (raw : Nat)
  deriving DecidableEq, Repr

/-- `operator_mode_t`. -/
inductive OperatorMode where
  | off
  | auto
  | manual
  | stray (raw : Nat)
  deriving DecidableEq, Repr

/-- The cast `(operator_mode_t)mode`. -/
def ControllerMode.toOperator : ControllerMode → OperatorMode
  | .off => .off
  | .auto => .auto
  | .manual => .manual
  | .stray n => .stray n

@[simp] theorem ControllerMode.toOperator_inj {a b : ControllerMode} :
    a.toOperator = b.toOperator ↔ a = b := by
  cases a <;> cases b <;> simp [toOperator]

@[simp] theorem ControllerMode.toOperator_eq_auto {a : ControllerMode} :
    a.toOperator = .auto ↔ a = .auto := by
  cases a <;> simp [toOperator]

/-- `app_schedule_schedule_type_t`; `SCHEDULE_TYPE_MAX` is only a bound. -/
inductive ScheduleType where
  | none
  | activeStart
  | activeEnd
  deriving DecidableEq, Repr

/-- The events `event_callback` tells apart, with their payloads. -/
inductive Event where
  | websocketOnConnected
  | websocketOnDisconnected
  | websocketOnOnline
  | websocketOnControl (isOn : Option Bool)
  | websocketOnFree
  | websocketOnForceOta
  | websocketOnSettingActiveTime (activeTime : Option ActiveTime)
  | nextionSetTime (form : Option DateTimeForm)
  | nextionSyncTime
  | nextionSetSchedule (activeTime : Option ActiveTime)
  | gpsSetTime (form : Option DateTimeForm)
  | nextionManualOn
  | nextionManualOff
  | modbusData (phases : Option PhasesData)
  | controllerChangeMode (mode : ControllerMode)
  | controllerChangePower (isOn : Option Bool)
  | scheduleTrigger (type : ScheduleType)
  deriving DecidableEq, Repr

end Lighting
