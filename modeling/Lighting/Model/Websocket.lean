import Mathlib.Data.Stream.Defs
import Lighting.Model.Common

/-!
# `app_websocket.c` — the session with the server

The handle, the builders of the update messages, the functions the other modules call, and
the four stages of `_websocket_task`. Decoding an item of `rx_rb` and acting on it is
`_process_data`; it calls back into `event_callback` and is in `Model/Main`.

A message is kept as the values it was built from; packing it is the job of generated code.
`tx_rb` is the list of messages waiting in it. Whether an `xRingbufferSend` finds room within
its two seconds is not decided here: `txOutcomes` is the sequence of answers the ring buffer
is going to give, one for each call.
-/

set_option autoImplicit false

namespace Lighting

/-- The four update messages, by content. The `int`s of a schedule travel as `uint32`s with
the same bits. -/
inductive UpdateBody where
  | powerState (isOn : Bool)
  | mode (mode : ControllerMode)
  | meterData (phases : PhasesData)
  | activeTime (activeTime : ActiveTime)
  deriving DecidableEq, Repr

/-- An update message: the device id the handle held when it was built, and the content. -/
structure UpdateMessage where
  deviceId : Option String
  body : UpdateBody
  deriving DecidableEq, Repr

/-- A message handed to `app_websocket_send`. -/
inductive ClientMessage where
  | register (hardwareid firmwareversion cpuimei mantoken : String) (numphase : Nat)
  | login (deviceid : Option String) (cpuimage : String)
  | update (message : UpdateMessage)
  deriving DecidableEq, Repr

/-- `app_websocket_t`. -/
structure Websocket where
  callback : Bool
  websocketConnected : Bool
  isStartWebsocket : Bool
  txRb : List UpdateMessage
  txOutcomes : Stream' Bool
  deviceId : Option String
  hardwareId : String
  firmwareVersion : String
  isLogged : Bool
  lastRegTick : Int
  lastLoginTick : Int
  powerState : Bool
  activeTime : ActiveTime
  mode : ControllerMode

def firmwareVersion : String := "1.1.0"

def registerTimeoutMs : Int := 30 * 1000

def loginTimeoutMs : Int := 30 * 1000

/-- `app_websocket_init`: `is_logged` is not assigned and stays what `malloc` returned. -/
def appWebsocketInit (callback : Bool) (hardwareId : String) (initActiveTime : ActiveTime)
    (mallocLogged : Bool) (txOutcomes : Stream' Bool) : Websocket where
  callback := callback
  websocketConnected := false
  isStartWebsocket := false
  txRb := []
  txOutcomes := txOutcomes
  deviceId := none
  hardwareId := hardwareId
  firmwareVersion := firmwareVersion
  isLogged := mallocLogged
  lastRegTick := -registerTimeoutMs
  lastLoginTick := -loginTimeoutMs
  powerState := false
  activeTime := initActiveTime
  mode := .off

/-! ## The builders -/

/-- What the four builders share: build a message for the device id the handle holds and hand
it to `xRingbufferSend`; a timeout is logged and the message is gone. -/
def Websocket.enqueue (handle : Websocket) (body : UpdateBody) : Websocket :=
  { handle with
    txRb := if handle.txOutcomes.head then handle.txRb ++ [⟨handle.deviceId, body⟩] else handle.txRb
    txOutcomes := handle.txOutcomes.tail }

def updatePowerState (handle : Websocket) (isOn : Bool) : Websocket :=
  handle.enqueue (.powerState isOn)

def updateMode (handle : Websocket) (mode : ControllerMode) : Websocket :=
  handle.enqueue (.mode mode)

def updateMeterData (handle : Websocket) (phases : PhasesData) : Websocket :=
  handle.enqueue (.meterData phases)

def updateActiveTime (handle : Websocket) (activeTime : ActiveTime) : Websocket :=
  handle.enqueue (.activeTime activeTime)

def appWebsocketUpdatePowerState (handle : Websocket) (isOn : Bool) : Websocket :=
  let handle := { handle with powerState := isOn }
  if handle.isLogged then updatePowerState handle isOn else handle

def appWebsocketUpdateMode (handle : Websocket) (mode : ControllerMode) : Websocket :=
  let handle := { handle with mode := mode }
  if handle.isLogged then updateMode handle mode else handle

/-- `app_websocket_update_meter_data`: nothing is cached. -/
def appWebsocketUpdateMeterData (handle : Websocket) (phases : PhasesData) : Websocket :=
  if handle.isLogged then updateMeterData handle phases else handle

def appWebsocketUpdateActiveTime (handle : Websocket) (activeTime : ActiveTime) : Websocket :=
  let handle := { handle with activeTime := activeTime }
  if handle.isLogged then updateActiveTime handle activeTime else handle

/-- A call of one of the four, by what it is called with. -/
def Websocket.update (handle : Websocket) : UpdateBody → Websocket
  | .powerState isOn => appWebsocketUpdatePowerState handle isOn
  | .mode mode => appWebsocketUpdateMode handle mode
  | .meterData phases => appWebsocketUpdateMeterData handle phases
  | .activeTime activeTime => appWebsocketUpdateActiveTime handle activeTime

/-! ## The connection and the responses -/

/-- `websocket_event_handler`, `WEBSOCKET_EVENT_CONNECTED`. -/
def Websocket.connected (handle : Websocket) : Websocket :=
  { handle with websocketConnected := true, isLogged := false }

/-- `websocket_event_handler`, `WEBSOCKET_EVENT_DISCONNECTED`. -/
def Websocket.disconnected (handle : Websocket) : Websocket :=
  { handle with websocketConnected := false, isLogged := false }

/-- A register response with code 0. -/
def Websocket.registered (handle : Websocket) (deviceid : String) : Websocket :=
  { handle with deviceId := some deviceid }

/-- A login response with code 0: the flag. -/
def Websocket.logged (handle : Websocket) : Websocket := { handle with isLogged := true }

/-- A login response with code 0: the cached state is sent again. -/
def Websocket.resend (handle : Websocket) : Websocket :=
  let handle := updatePowerState handle handle.powerState
  let handle := updateMode handle handle.mode
  updateActiveTime handle handle.activeTime

/-! ## The stages of `_websocket_task` -/

def appWsPrepare (networkConnected : Bool) (handle : Websocket) : EspErr × Websocket :=
  if !networkConnected then (.fail, handle)
  else if handle.websocketConnected then (.ok, handle)
  -- The client is made and started once; from then on it reconnects by itself.
  else if handle.isStartWebsocket then (.fail, handle)
  else (.fail, { handle with isStartWebsocket := true })

/-- The pacing test: has the timeout since the last request passed? The sum is one of two
32-bit values. -/
def paced (tick last timeout : Int) : Bool := !(tick < wrap32 (last + timeout))

/-- `_app_ws_register`; `esp_tick_get` is read for the test and again for the record. -/
def appWsRegister (tick tickAgain : Int) (handle : Websocket) :
    EspErr × Websocket × Option ClientMessage :=
  if handle.deviceId.any (fun deviceid => deviceid ≠ "") then (.ok, handle, none)
  else if !paced tick handle.lastRegTick registerTimeoutMs then (.fail, handle, none)
  else
    (.fail, { handle with lastRegTick := wrap32 tickAgain },
      some (.register handle.hardwareId handle.firmwareVersion "112233445566" "112233445566" 2))

def appWsLogin (tick tickAgain : Int) (handle : Websocket) :
    EspErr × Websocket × Option ClientMessage :=
  if handle.isLogged then (.ok, handle, none)
  else if !paced tick handle.lastLoginTick loginTimeoutMs then (.fail, handle, none)
  else
    (.fail, { handle with lastLoginTick := wrap32 tickAgain },
      some (.login handle.deviceId "112233445566"))

/-- `xRingbufferReceive` on `tx_rb` and the `vRingbufferReturnItem` that follows, in
`_app_ws_sending_data`: the oldest message, if there is one. -/
def appWsReceive (handle : Websocket) : Option UpdateMessage × Websocket :=
  (handle.txRb.head?, { handle with txRb := handle.txRb.tail })

/-! ## What an update does -/

/-- The assignment an update starts with. -/
def Websocket.note (handle : Websocket) : UpdateBody → Websocket
  | .powerState isOn => { handle with powerState := isOn }
  | .mode mode => { handle with mode := mode }
  | .meterData _ => handle
  | .activeTime activeTime => { handle with activeTime := activeTime }

section update

variable (handle : Websocket) (body : UpdateBody)

/-- **An update is noted, and handed over if the session is logged in.** -/
theorem update_eq :
    handle.update body =
      if handle.isLogged then (handle.note body).enqueue body else handle.note body := by
  cases body <;> rfl

@[simp] theorem update_websocketConnected :
    (handle.update body).websocketConnected = handle.websocketConnected := by
  rw [update_eq]
  split <;> cases body <;> rfl

@[simp] theorem update_isLogged : (handle.update body).isLogged = handle.isLogged := by
  rw [update_eq]
  split <;> cases body <;> rfl

@[simp] theorem update_callback : (handle.update body).callback = handle.callback := by
  rw [update_eq]
  split <;> cases body <;> rfl

/-- Only a mode update changes the cached mode. -/
@[simp] theorem update_mode : (handle.update body).mode =
    match body with
    | .mode mode => mode
    | _ => handle.mode := by
  rw [update_eq]
  split <;> cases body <;> rfl

end update

end Lighting
