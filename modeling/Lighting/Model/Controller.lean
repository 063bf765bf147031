import Mathlib.Logic.Function.Basic
import Lighting.Model.Common

/-!
# `app_controller.c` — the selector and the relay

The handle, the pins it drives and the local variables of `_gpio_task`. What the two relay
pins carry is read off `Gpio`, the last level driven on each pin; `gpio_config` drives
nothing, so a pin starts at `none`.

`_gpio_task` blinks a status pin between two polls. The configuration keeps that pin apart
from the relay pins as a field, so that no proof about the relay has to look at the blinking.

The functions that end in a callback (`app_controller_control_relay`,
`app_controller_force_manual`, the poll itself) are with `event_callback` in `Model/Main`.
-/

set_option autoImplicit false

namespace Lighting

/-- The level each pin was last driven to by `gpio_set_level`. -/
abbrev Gpio := Nat → Option Int

def gpioSetLevel (pin : Nat) (level : Int) (g : Gpio) : Gpio := Function.update g pin (some level)

@[simp] theorem gpioSetLevel_self (pin : Nat) (level : Int) (g : Gpio) :
    gpioSetLevel pin level g pin = some level := by
  simp [gpioSetLevel]

theorem gpioSetLevel_of_ne {pin q : Nat} (level : Int) (g : Gpio) (h : q ≠ pin) :
    gpioSetLevel pin level g q = g q := by
  simp [gpioSetLevel, h]

/-- `app_controller_config_t`, with the wiring fact that the status lamp is not a relay. -/
structure ControllerConfig where
  relay1Pin : Nat
  relay2Pin : Nat
  switcherAutoPin : Nat
  switcherManualPin : Nat
  statusPin : Nat
  callback : Bool
  status_ne_relay1 : relay1Pin ≠ statusPin
  status_ne_relay2 : relay2Pin ≠ statusPin

/-- `app_controller_t`: what was configured and what the code keeps. -/
structure Controller extends ControllerConfig where
  switcherState : Int
  mode : ControllerMode
  relayState : Int

/-- The local variables of `_gpio_task` that live from one poll to the next. -/
structure GpioTask where
  mode : ControllerMode
  statusState : Int
  logHeapTick : Int
  deriving DecidableEq, Repr

/-- `_gpio_task` before its first poll. -/
def GpioTask.start : GpioTask := ⟨.off, 0, 0⟩

/-- `app_controller_init`: `mode` is not assigned and stays what `malloc` returned. -/
def appControllerInit (config : ControllerConfig) (mallocMode : ControllerMode) : Controller :=
  { config with switcherState := 0, mode := mallocMode, relayState := 0 }

/-- The mode `_gpio_task` decodes from the levels of the two selector pins. -/
def selectorMode (manualState autoState : Int) : ControllerMode :=
  if autoState = 0 ∧ manualState = 1 then .auto
  else if autoState = 1 ∧ manualState = 0 then .manual
  else .off

/-- `app_controller_get_mode`; a missing handle answers `OFF`. -/
def appControllerGetMode : Option Controller → ControllerMode
  | none => .off
  | some handle => handle.mode

/-- The test `app_controller_control_relay` starts with: is the relay already there? -/
def Controller.relayAt (handle : Controller) (isActive : Bool) : Bool :=
  (handle.relayState > 0 && isActive) || (handle.relayState == 0 && !isActive)

/-- The level written for a request. -/
def levelOf (isActive : Bool) : Int := if isActive then 1 else 0

@[simp] theorem levelOf_true : levelOf true = 1 := rfl

@[simp] theorem levelOf_false : levelOf false = 0 := rfl

end Lighting
