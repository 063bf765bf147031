import Lighting.Model.Controller

/-!
# The port the modem and the receiver share

`app_pppos.c` and `app_gps.c` use one serial port, `UART_NUM_1`, and a multiplexer in front of
it that two pins select. What the two tasks do to the port they do by straight-line programs:
`Power_On_Sim`, the part of `esp_modem_dte_init` that configures the port, and what `_gps_task`
does when it opens a window. Here a program is a list of calls and a task is somewhere in its
list, so that the calls of the two tasks can come in any order.

The direction and the pull-ups of the pins are left out: both programs make the pins outputs
before they drive them. So are the pins of the port, which are the same for both.
-/

set_option autoImplicit false

namespace Lighting

inductive SourceClk where
  | apb
  | refTick
  deriving DecidableEq, Repr

/-- `uart_config_t`. -/
structure UartConfig where
  baudRate : Nat
  dataBits : Nat
  parity : Bool
  stopBits : Nat
  hwFlowCtrl : Bool
  sourceClk : SourceClk
  deriving DecidableEq, Repr

/-- A call that concerns the port. `paramConfig` and `driverInstall` are for `UART_NUM_1`. -/
inductive PortCall where
  | setLevel (pin : Nat) (level : Int)
  | taskDelay (ms : Nat)
  | paramConfig (config : UartConfig)
  | driverInstall
  deriving DecidableEq, Repr

/-- The level a call drives on a pin. -/
def PortCall.level? (pin : Nat) : PortCall → Option Int
  | .setLevel p level => if pin = p then some level else none
  | _ => none

/-- The configuration a call gives the port. -/
def PortCall.config? : PortCall → Option UartConfig
  | .paramConfig config => some config
  | _ => none

def pwrSim : Nat := 13
def netSim : Nat := 23
def s0Mux : Nat := 12
def s1Mux : Nat := 14
def gpsActive : Nat := 32
def gpsRst : Nat := 33

/-- The configuration `esp_modem_dte_init` makes of `ESP_MODEM_DTE_DEFAULT_CONFIG`. -/
def dteConfig : UartConfig := ⟨115200, 8, false, 1, false, .refTick⟩

/-- The configuration of `_gps_task`. -/
def gpsConfig : UartConfig := ⟨9600, 8, false, 1, false, .apb⟩

def powerOnSim : List PortCall :=
  [ .setLevel pwrSim 0,
    .setLevel s0Mux 1,
    .setLevel s1Mux 0,
    .setLevel netSim 1,
    .taskDelay 2500,
    .setLevel netSim 0,
    .taskDelay 26000,
    .setLevel netSim 1,
    .taskDelay 500,
    .setLevel netSim 0,
    .taskDelay 25000 ]

/-- `esp_modem_dte_init`: the port is configured first, the driver installed after it. -/
def dteInit : List PortCall := [.paramConfig dteConfig, .driverInstall]

def switchingUartPortToGps : List PortCall :=
  [ .setLevel pwrSim 0,
    .taskDelay 100,
    .setLevel gpsActive 1,
    .setLevel gpsRst 0,
    .setLevel s0Mux 0,
    .setLevel s1Mux 0 ]

/-- What `_gps_task` does when it opens a window. -/
def openWindow : List PortCall :=
  switchingUartPortToGps ++ [.driverInstall, .paramConfig gpsConfig]

/-- Where `_ppp_task` is, with the calls that are left. Its connect loop talks to the modem
over the port and does not configure it. -/
inductive PppTask where
  | poweringOn (rest : List PortCall)
  | initDte (rest : List PortCall)
  | connecting
  deriving DecidableEq, Repr

/-- `Power_On_Sim` has driven `S0_MUX`. -/
def PppTask.muxTaken : PppTask → Bool
  | .poweringOn rest => .setLevel s0Mux 1 ∉ rest
  | _ => true

/-- The modem's side has configured the port. -/
def PppTask.uartTaken : PppTask → Bool
  | .poweringOn _ => false
  | .initDte rest => .paramConfig dteConfig ∉ rest
  | .connecting => true

/-- Where `_gps_task` is. -/
inductive GpsTask where
  | waiting
  | opening (rest : List PortCall)
  | acquiring
  deriving DecidableEq, Repr

/-- The port and its two tasks. `muxRetaken` and `uartRetaken` are not the code's: a window has
driven `S0_MUX` since `Power_On_Sim` did, and has configured the port since the modem's side
did. -/
structure Port where
  running : Bool
  gpio : Gpio
  uart : Option UartConfig
  installed : Bool
  ppp : PppTask
  gps : GpsTask
  muxRetaken : Bool
  uartRetaken : Bool

namespace Port

def perform (p : Port) : PortCall → Port
  | .setLevel pin level => { p with gpio := gpioSetLevel pin level p.gpio }
  | .taskDelay _ => p
  | .paramConfig config => { p with uart := some config }
  | .driverInstall => { p with installed := true }

theorem perform_gpio (p : Port) (call : PortCall) (pin : Nat) :
    (p.perform call).gpio pin = (call.level? pin).or (p.gpio pin) := by
  cases call with
  | setLevel q level =>
    by_cases hpin : pin = q
    · subst hpin
      simp [perform, PortCall.level?]
    · simp [perform, PortCall.level?, hpin, gpioSetLevel_of_ne]
  | _ => rfl

theorem perform_uart (p : Port) (call : PortCall) :
    (p.perform call).uart = call.config?.or p.uart := by
  cases call <;> rfl

/-- A step of `_ppp_task`. `uart_driver_install` refuses a second driver; then
`esp_modem_dte_init` answers `NULL`, which is dereferenced. -/
def pppStep (p : Port) : Port :=
  match p.ppp with
  | .poweringOn [] => { p with ppp := .initDte dteInit }
  | .poweringOn (call :: rest) => { p.perform call with ppp := .poweringOn rest }
  | .initDte [] => { p with ppp := .connecting }
  | .initDte (call :: rest) =>
    if call = .driverInstall ∧ p.installed = true then { p with running := false }
    else { p.perform call with ppp := .initDte rest }
  | .connecting => p

/-- A call of a window. -/
def windowCall (call : PortCall) (rest : List PortCall) (p : Port) : Port :=
  { p.perform call with
    gps := .opening rest
    muxRetaken := p.muxRetaken || (p.ppp.muxTaken && decide (call = .setLevel s0Mux 0))
    uartRetaken := p.uartRetaken || (p.ppp.uartTaken && decide (call = .paramConfig gpsConfig)) }

/-- A step of `_gps_task`. A window is opened when it is `due`, and closed when it is: by the
second active fix or after ten seconds. The answer of `uart_driver_install` is not looked at. -/
def gpsStep (due : Bool) (p : Port) : Port :=
  match p.gps with
  | .waiting => if due then { p with gps := .opening openWindow } else p
  | .opening [] => { p with gps := .acquiring }
  | .opening (call :: rest) => p.windowCall call rest
  | .acquiring => if due then { p with gps := .waiting } else p

end Port

inductive PortStep where
  | ppp
  | gps (due : Bool)
  deriving DecidableEq, Repr

namespace Port

def step (st : PortStep) (p : Port) : Port :=
  if p.running then
    match st with
    | .ppp => p.pppStep
    | .gps due => p.gpsStep due
  else p

/-- Both tasks have just been created. -/
def start : Port where
  running := true
  gpio := fun _ => none
  uart := none
  installed := false
  ppp := .poweringOn powerOnSim
  gps := .waiting
  muxRetaken := false
  uartRetaken := false

end Port

end Lighting
