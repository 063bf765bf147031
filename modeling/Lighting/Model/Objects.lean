import Lighting.Model.Pppos

/-!
# `bg96.c`, `sim7600.c` — the modem objects of the connect loop

Each iteration of `_ppp_task` makes a `bg96_modem_dce_t` with `calloc`. `bg96_init` binds it to the
DTE before its commands, and frees it if one of them fails. `bg96_deinit`, which would unbind it,
is not called: only `app_ppp_destroy` does, which nothing calls. Besides the task, the UART task
looks at the bound object with every event.

An object is its address. `wild` says whether something was read or written through a pointer that
is null or to an object that has been freed.
-/

set_option autoImplicit false

namespace Lighting

/-- What `sim7600_init` comes to, with the address `calloc` answers. -/
inductive InitOutcome where
  | noMemory
  /-- A command is not answered, or with an error. -/
  | ioFails (object : Nat)
  | ok (object : Nat)
  deriving DecidableEq, Repr

def InitOutcome.isOk : InitOutcome → Bool
  | .ok _ => true
  | _ => false

structure ModemObjects where
  ppp : Ppp
  /-- What is allocated. -/
  live : List Nat
  /-- `dte->dce`. -/
  dteDce : Option Nat
  /-- `handle->dce`. -/
  handleDce : Option Nat
  wild : Bool
  deriving DecidableEq, Repr

/-- `_ppp_task` as it enters its loop. -/
def ModemObjects.start : ModemObjects where
  ppp := .start
  live := []
  dteDce := none
  handleDce := none
  wild := false

/-- A read or write through a pointer. -/
def ModemObjects.access (pointer : Option Nat) (s : ModemObjects) : ModemObjects :=
  { s with wild := s.wild || !pointer.any (s.live.contains ·) }

/-- `bg96_init`. -/
def bg96Init (outcome : InitOutcome) (s : ModemObjects) : ModemObjects :=
  match outcome with
  | .noMemory => { s with handleDce := none }
  -- Freed, and still bound.
  | .ioFails object => { s with dteDce := some object, handleDce := none }
  | .ok object =>
    { s with
      live := object :: s.live
      dteDce := some object
      handleDce := some object }

/-- `sim7600_init`: whatever `bg96_init` answers, `dte->dce->get_battery_status` is written. -/
def sim7600Init (outcome : InitOutcome) (s : ModemObjects) : ModemObjects :=
  let s := bg96Init outcome s
  s.access s.dteDce

/-- The next call of `_ppp_task`. From the first `ESP_ERROR_CHECK` to the attachment, which starts
the PPP mode, `handle->dce` and `dte->dce` are used. -/
def objectsTask (outcome : InitOutcome) (s : ModemObjects) : ModemObjects :=
  let s' := { s with ppp := pppTask outcome.isOk s.ppp }
  match s.ppp.point with
  | .initialising => sim7600Init outcome s'
  | .attaching => (s'.access s'.handleDce).access s'.dteDce
  | _ => s'

/-- The UART task, with data or a line: without a bound object they are ignored. -/
def uartEvent (s : ModemObjects) : ModemObjects :=
  match s.dteDce with
  | none => s
  | some object => s.access (some object)

inductive ObjectStep where
  | task (outcome : InitOutcome)
  | uart
  | gotIp
  | lostIp
  deriving DecidableEq, Repr

/-- What `calloc` answers in this step. -/
def ObjectStep.calloc : ObjectStep → Option Nat
  | .task (.ok object) => some object
  | .task (.ioFails object) => some object
  | _ => none

def ModemObjects.step : ObjectStep → ModemObjects → ModemObjects
  | .task outcome, s => objectsTask outcome s
  | .uart, s => uartEvent s
  | .gotIp, s => { s with ppp := onIpEvent true s.ppp }
  | .lostIp, s => { s with ppp := onIpEvent false s.ppp }

end Lighting
