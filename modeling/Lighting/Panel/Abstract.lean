import Lighting.Model.Common

/-!
# The panel, without the code

What the device is for, as its owner would put it. There is a selector with three positions,
there is an operating mode, and there is a relay. The operating mode is the position of the
selector until the server overrides it; turning the selector or releasing the override
restores it. Turning to `OFF`, and restoring `OFF`, switches the relay off. The schedule has a
say only in automatic operation. The buttons of the display switch the relay directly.

Nothing here comes from a source file. `Panel/Shows` relates a device to a panel, and
`Panel/Refinement` proves that every task of the firmware moves the device the way `act` moves
the panel. What is proved about the panel below is then proved about the device.

The buttons are the exception the owner would not have written: `act` lets them switch the
relay in every position. `act_dark` is the law that holds of everything else.
-/

set_option autoImplicit false

namespace Lighting

/-- The three things one can see on the panel. -/
structure Panel where
  selector : ControllerMode
  operating : ControllerMode
  relay : Bool
  deriving DecidableEq, Repr

namespace Panel

inductive Act where
  | turn (position : ControllerMode)
  | control (isOn : Bool)
  | release
  | trigger (isOn : Bool)
  | manual (isOn : Bool)
  deriving DecidableEq, Repr

/-- Switch the operating mode; `OFF` takes the relay with it. -/
def operate (mode : ControllerMode) (p : Panel) : Panel :=
  { p with operating := mode, relay := if mode = .off then false else p.relay }

def act : Act → Panel → Panel
  | .turn position, p => operate position { p with selector := position }
  | .control isOn, p => if p.selector = .off then p else { operate .manual p with relay := isOn }
  | .release, p => operate p.selector p
  | .trigger isOn, p => if p.operating = .auto then { p with relay := isOn } else p
  | .manual isOn, p => { p with relay := isOn }

def react (a : Option Act) (p : Panel) : Panel := a.elim p fun a => act a p

@[simp] theorem react_none (p : Panel) : react none p = p := rfl

@[simp] theorem react_some (a : Act) (p : Panel) : react (some a) p = act a p := rfl

@[simp] theorem operate_operating (mode : ControllerMode) (p : Panel) :
    (operate mode p).operating = mode := rfl

@[simp] theorem operate_selector (mode : ControllerMode) (p : Panel) :
    (operate mode p).selector = p.selector := rfl

@[simp] theorem operate_relay (mode : ControllerMode) (p : Panel) :
    (operate mode p).relay = if mode = .off then false else p.relay := rfl

variable {p : Panel} {isOn : Bool}

theorem act_control_of_off (h : p.selector = .off) : act (.control isOn) p = p := if_pos h

theorem act_control_of_ne (h : p.selector ≠ .off) :
    act (.control isOn) p = { operate .manual p with relay := isOn } := if_neg h

theorem act_trigger_of_auto (h : p.operating = .auto) :
    act (.trigger isOn) p = { p with relay := isOn } := if_pos h

theorem act_trigger_of_ne (h : p.operating ≠ .auto) : act (.trigger isOn) p = p := if_neg h

/-! ## `OFF` -/

/-- In position `OFF` nothing operates. -/
def Idle (p : Panel) : Prop := p.selector = .off → p.operating = .off

/-- In position `OFF` the relay is off. -/
def Dark (p : Panel) : Prop := p.selector = .off → p.relay = false

theorem act_idle (h : Idle p) (a : Act) : Idle (act a p) := by
  cases a with
  | turn position => exact id
  | control isOn =>
    by_cases hoff : p.selector = .off
    · rw [act_control_of_off hoff]; exact h
    · rw [act_control_of_ne hoff]; exact fun hs => absurd hs hoff
  | release => exact id
  | trigger isOn =>
    by_cases hauto : p.operating = .auto
    · rw [act_trigger_of_auto hauto]; exact h
    · rw [act_trigger_of_ne hauto]; exact h
  | manual isOn => exact h

/-- **Only the on-button can light a panel in position `OFF`**, and it does. -/
theorem act_dark (hidle : Idle p) (h : Dark p) (a : Act) :
    Dark (act a p) ↔ ¬(a = .manual true ∧ p.selector = .off) := by
  cases a with
  | turn position => simp +contextual [act, Dark]
  | control isOn =>
    by_cases hoff : p.selector = .off
    · simp [act_control_of_off hoff, h]
    · simp [act_control_of_ne hoff, Dark, hoff]
  | release => simp +contextual [act, Dark]
  | trigger isOn =>
    by_cases hauto : p.operating = .auto
    · have hoff : p.selector ≠ .off := fun hs => by simp [hidle hs] at hauto
      simp [act_trigger_of_auto hauto, Dark, hoff]
    · simp [act_trigger_of_ne hauto, h]
  | manual isOn => cases isOn <;> simp [act, Dark]

/-! ## The override -/

/-- Whether the server holds the panel after an act. -/
def overrideAfter (a : Act) (p : Panel) (overridden : Bool) : Bool :=
  match a with
  | .turn _ => false
  | .control _ => if p.selector = .off then overridden else true
  | .release => false
  | .trigger _ => overridden
  | .manual _ => overridden

/-- What the operating mode has to be. -/
def InForce (overridden : Bool) (p : Panel) : Prop :=
  p.operating = if overridden then .manual else p.selector

/-- **The operating mode is the override or the selector**, whatever is done. -/
theorem act_inForce {overridden : Bool} (h : InForce overridden p) (a : Act) :
    InForce (overrideAfter a p overridden) (act a p) := by
  cases a with
  | turn position => rfl
  | control isOn =>
    by_cases hoff : p.selector = .off
    · simp [act_control_of_off hoff, overrideAfter, hoff, h]
    · simp [act_control_of_ne hoff, overrideAfter, hoff, InForce]
  | release => rfl
  | trigger isOn =>
    by_cases hauto : p.operating = .auto
    · rw [act_trigger_of_auto hauto]; exact h
    · rw [act_trigger_of_ne hauto]; exact h
  | manual isOn => exact h

end Panel

end Lighting
