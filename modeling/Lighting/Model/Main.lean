import Mathlib.Data.Stream.Init
import Lighting.Model.Controller
import Lighting.Model.Schedule
import Lighting.Model.Storage
import Lighting.Model.Nextion
import Lighting.Model.Message
import Lighting.Model.Websocket

/-!
# `app_main.c` — `event_callback`, and the tasks that call it

The whole device in one record, every task as a function on it. A task that calls a callback
in C calls `event_callback` here, in the same place; `event_callback` calls back into the
controller, and the controller into `event_callback`. The nesting has a fixed depth —
a control or a release raises a mode change, a mode change may raise a power change, a power
change raises nothing — so the cases that are entered again come first, as functions of their
own (`onChangePower`, `onChangeMode`), and `eventCallback` dispatches to them.

All handles exist once `app_main` has reached its final loop, which is where the device below
starts; the tests for a `NULL` handle are kept where a handle can be `NULL` at that point.

`trace` is the list of all calls of `event_callback`, in order. The code has no such list; it
is how a statement speaks about the events raised in a run.
-/

set_option autoImplicit false

namespace Lighting

open WriteBack CString

/-- Whether the device runs. `esp_restart` and an undefined access both end the run; what
follows is a boot. -/
inductive Power where
  | running
  | restarting
  | faulted
  deriving DecidableEq, Repr

structure App where
  power : Power
  controller : Controller
  gpio : Gpio
  gpioTask : GpioTask
  schedule : Schedule
  rtcOutcomes : Stream' EspErr
  storage : Option Storage
  nvs : Nvs
  saveOutcomes : Stream' SaveEnv
  nextion : Nextion
  readBuffer : RxBuffer
  websocket : Websocket
  forceOtaFlag : Bool
  trace : List Event

namespace App

def enter (event : Event) (app : App) : App := { app with trace := app.trace ++ [event] }

/-- `handle->nextion` after a call of one of its setters. -/
def onNextion (app : App) (f : Nextion → Nextion) : App := { app with nextion := f app.nextion }

/-- `handle->websocket` after a call of one of its functions. -/
def onWebsocket (app : App) (f : Websocket → Websocket) : App :=
  { app with websocket := f app.websocket }

/-- `app_storage_set_data`, then `app_storage_save_data`, with the next outcome of the NVS
calls. -/
def saveRecord (app : App) (data : AppStorageData) : App :=
  let storage := (appStorageSetData app.storage data).2
  { app with
    storage := storage
    nvs := (appStorageSaveData app.saveOutcomes.head storage app.nvs).2
    saveOutcomes := app.saveOutcomes.tail }

/-- The two calls of `app_schedule_add_alarm` for a schedule. -/
def addAlarms (app : App) (data : AppStorageData) : App :=
  let schedule := appScheduleAddAlarm app.schedule data.startHour data.startMinute .activeStart
  { app with
    schedule := appScheduleAddAlarm schedule data.endHour data.endMinute .activeEnd }

end App

/-! ## The controller, and the events it raises -/

/-- `event_callback`, `APP_CONTROLLER_EVENT_CHANGE_POWER`. -/
def onChangePower (isOn : Option Bool) (app : App) : App :=
  let app := app.enter (.controllerChangePower isOn)
  match isOn with
  | none => app
  | some isOn => app.onWebsocket (appWebsocketUpdatePowerState · isOn)

/-- The assignment of `relay_state` and the two `gpio_set_level` of
`app_controller_control_relay`. -/
def setRelay (isActive : Bool) (app : App) : App :=
  { app with
    controller := { app.controller with relayState := levelOf isActive }
    gpio := gpioSetLevel app.controller.relay2Pin (levelOf isActive)
      (gpioSetLevel app.controller.relay1Pin (levelOf isActive) app.gpio) }

def appControllerControlRelay (isActive : Bool) (app : App) : App :=
  if app.controller.relayAt isActive then app
  else if app.controller.callback then onChangePower (some isActive) (setRelay isActive app)
  else setRelay isActive app

/-- `event_callback`, `APP_CONTROLLER_EVENT_CHANGE_MODE`. -/
def onChangeMode (mode : ControllerMode) (app : App) : App :=
  let app := app.enter (.controllerChangeMode mode)
  let app := app.onNextion (appNextionSetMode · mode)
  let app := { app with schedule := appScheduleSetMode app.schedule mode.toOperator }
  -- The one place where a mode moves the relay.
  let app := if mode = .off then appControllerControlRelay false app else app
  app.onWebsocket (appWebsocketUpdateMode · mode)

def appControllerForceManual (isRelease : Bool) (app : App) : App :=
  let mode := if isRelease = false then .manual else app.controller.mode
  if app.controller.callback then onChangeMode mode app else app

/-! ## `event_callback` -/

def eventCallback : Event → App → App
  | .controllerChangePower isOn, app => onChangePower isOn app
  | .controllerChangeMode mode, app => onChangeMode mode app
  | .websocketOnConnected, app =>
    let app := app.enter .websocketOnConnected
    let app := app.onNextion (appNextionSetConectionState · false)
    app.onNextion (appNextionSetLoading · 66 "Kết nối máy chủ thành công")
  | .websocketOnDisconnected, app =>
    let app := app.enter .websocketOnDisconnected
    app.onNextion (appNextionSetConectionState · false)
  | .websocketOnOnline, app =>
    let app := app.enter .websocketOnOnline
    let app := app.onNextion (appNextionSetConectionState · true)
    let app := app.onNextion (appNextionSetLoading · 100 "Thiết bị đã online")
    app.onNextion (appNextionSetPage · pageLockIndex)
  | .websocketOnControl isOn, app =>
    let app := app.enter (.websocketOnControl isOn)
    match isOn with
    | none => app
    | some isOn =>
      if appControllerGetMode (some app.controller) = .off then app
      else
        let app := appControllerForceManual false app
        let app := appControllerControlRelay isOn app
        let app := app.onNextion (appNextionSetButton · isOn)
        app.onNextion (appNextionSetConsole ·
          (if isOn then "Điều khiển bật từ phần mềm" else "Điều khiển tắt từ phần mềm"))
  | .websocketOnFree, app =>
    let app := app.enter .websocketOnFree
    appControllerForceManual true app
  | .websocketOnForceOta, app =>
    let app := app.enter .websocketOnForceOta
    { app with forceOtaFlag := true }
  | .websocketOnSettingActiveTime activeTime, app =>
    let app := app.enter (.websocketOnSettingActiveTime activeTime)
    match activeTime with
    | none => app
    | some activeTime =>
      let app := app.saveRecord (.ofActiveTime activeTime)
      let app := app.addAlarms (.ofActiveTime activeTime)
      let app := app.onNextion (appNextionSetActiveTime · activeTime)
      app.onWebsocket (appWebsocketUpdateActiveTime · activeTime)
  | .nextionSetTime form, app =>
    let app := app.enter (.nextionSetTime form)
    match form with
    | none => app
    | some _ =>
      let app := { app with
        schedule := (appScheduleSetTime app.rtcOutcomes.head app.schedule).2
        rtcOutcomes := app.rtcOutcomes.tail }
      app.onNextion (appNextionSetConsole · "Thiết lập thời gian thành công")
  | .nextionSyncTime, app =>
    let app := app.enter .nextionSyncTime
    let app := { app with schedule := appScheduleSyncTime app.schedule }
    app.onNextion (appNextionSetConsole · "Đồng bộ thời gian thành công")
  | .nextionSetSchedule activeTime, app =>
    let app := app.enter (.nextionSetSchedule activeTime)
    match activeTime with
    | none => app
    | some activeTime =>
      let app := app.saveRecord (.ofActiveTime activeTime)
      let app := app.addAlarms (.ofActiveTime activeTime)
      let app := app.onWebsocket (appWebsocketUpdateActiveTime · activeTime)
      app.onNextion (appNextionSetConsole · "Thiết lập thành công")
  | .gpsSetTime form, app =>
    let app := app.enter (.gpsSetTime form)
    match form with
    | none => app
    | some _ =>
      { app with
        schedule := (appGpsSetTime app.rtcOutcomes.head app.schedule).2
        rtcOutcomes := app.rtcOutcomes.tail }
  | .nextionManualOn, app =>
    let app := app.enter .nextionManualOn
    let app := appControllerControlRelay true app
    app.onNextion (appNextionSetConsole · "Điều khiển bật")
  | .nextionManualOff, app =>
    let app := app.enter .nextionManualOff
    let app := appControllerControlRelay false app
    app.onNextion (appNextionSetConsole · "Điều khiển tắt")
  | .modbusData phases, app =>
    let app := app.enter (.modbusData phases)
    match phases with
    | none => app
    | some phases =>
      let app := app.onNextion (appNextionSetPhaseData · phases)
      app.onWebsocket (appWebsocketUpdateMeterData · phases)
  | .scheduleTrigger type, app =>
    let app := app.enter (.scheduleTrigger type)
    if type = .activeStart then appControllerControlRelay true app
    else appControllerControlRelay false app

/-! ## The tasks -/

/-- `_gpio_task` has found the selector in another position. -/
def gpioTaskChangeMode (curMode : ControllerMode) (app : App) : App :=
  let app := { app with
    gpioTask := { app.gpioTask with mode := curMode }
    controller := { app.controller with mode := curMode } }
  if app.controller.callback then eventCallback (.controllerChangeMode curMode) app else app

/-- The end of a poll: the status pin blinks, the tick of the heap log counts. -/
def gpioTaskBlink (app : App) : App :=
  let logHeapTick := app.gpioTask.logHeapTick + 1
  { app with
    gpio := gpioSetLevel app.controller.statusPin app.gpioTask.statusState app.gpio
    gpioTask := { app.gpioTask with
      statusState := if app.gpioTask.statusState = 0 then 1 else 0
      logHeapTick := if logHeapTick > 20 then 0 else logHeapTick } }

def gpioTaskPoll (manualState autoState : Int) (app : App) : App :=
  let curMode := selectorMode manualState autoState
  gpioTaskBlink (if curMode ≠ app.gpioTask.mode then gpioTaskChangeMode curMode app else app)

/-- What `_schedule_task` does after its callback: the daily restart. -/
def scheduleRestart (t : Tick) (app : App) : App :=
  if restartDue t.now then { app with power := .restarting } else app

def scheduleTaskIteration (t : Tick) (app : App) : App :=
  let (schedule, trigger) := scheduleDecide t app.schedule
  let app := { app with schedule := schedule }
  match trigger with
  | none => app
  | some type => scheduleRestart t (eventCallback (.scheduleTrigger type) app)

/-- `_callback` of the websocket module. -/
def websocketCallback (event : Event) (app : App) : App :=
  if app.websocket.callback then eventCallback event app else app

/-- An undefined access. -/
def App.fault (app : App) : App := { app with power := .faulted }

/-- The branches of `_process_data`. -/
def processDispatch : Dispatch → App → App
  | .registerResponse r, app =>
    match r.statuscode with
    | none => app.fault
    | some statuscode =>
      if statuscode.code = 0 then app.onWebsocket (Websocket.registered · r.deviceid) else app
  | .loginResponse r, app =>
    match r.statuscode with
    | none => app.fault
    | some statuscode =>
      if statuscode.code = 0 then
        let app := app.onWebsocket Websocket.logged
        let app := websocketCallback .websocketOnOnline app
        app.onWebsocket Websocket.resend
      else app
  | .powerControl r, app => websocketCallback (.websocketOnControl (some r.ispoweron)) app
  | .requireStream, app => app
  | .controlLane, app => app
  | .setActiveTime r, app =>
    match r.activeTime? with
    | none => app.fault
    | some activeTime => websocketCallback (.websocketOnSettingActiveTime (some activeTime)) app
  | .setCycleConfig r, app => if r.greentime.length < 2 then app.fault else app
  | .forceOta, app => websocketCallback .websocketOnForceOta app
  | .releaseControl, app => websocketCallback .websocketOnFree app
  | .nothing, app => app

/-- `_process_data` on what `main_message__unpack` answered. -/
def processData (message : Option MainMessage) (app : App) : App :=
  match message with
  | none => app
  | some message => processDispatch message.dispatch app

/-- One iteration of `_nextion_read_task`, its callback included. -/
def nextionReadIteration (r : NextionRead) (app : App) : App :=
  let (buffer, nextion, event) := nextionReadTask r app.readBuffer app.nextion
  let app := { app with readBuffer := buffer, nextion := nextion }
  match event with
  | none => app
  | some event => eventCallback event app

/-! ## Booting -/

/-- What a boot of the device finds: the outcomes of its NVS calls, and what uninitialised
memory reads as wherever the code reads it first. -/
structure BootEnv where
  init : InitEnv
  load : LoadEnv
  hardwareId : String
  mallocLogged : Bool
  mallocPage : Int
  mallocMode : ControllerMode
  scheduleMemory : ScheduleMemory
  readBuffer : RxBuffer
  txOutcomes : Stream' Bool
  saveOutcomes : Stream' SaveEnv
  rtcOutcomes : Stream' EspErr

/-- The `app_controller_config_t` of `app_main`. -/
def controllerConfig : ControllerConfig where
  relay1Pin := 25
  relay2Pin := 26
  switcherAutoPin := 19
  switcherManualPin := 18
  statusPin := 27
  callback := true
  status_ne_relay1 := by decide
  status_ne_relay2 := by decide

/-- The schedule `app_main` hands to the display and to the session. -/
def AppStorageData.toActiveTime (data : AppStorageData) : ActiveTime where
  startHour := data.startHour
  startMinute := data.startMinute
  endHour := data.endHour
  endMinute := data.endMinute

/-- The alarms of `app_main`: those the stored record enables. -/
def bootSchedule (mem : ScheduleMemory) (data : AppStorageData) : Schedule :=
  let schedule := appScheduleInit true mem
  let schedule :=
    if data.enableStart then
      appScheduleAddAlarm schedule data.startHour data.startMinute .activeStart
    else schedule
  if data.enableEnd then appScheduleAddAlarm schedule data.endHour data.endMinute .activeEnd
  else schedule

/-- `app_main` up to its final loop. Without a storage handle `app_storage_get_data`
dereferences `NULL`, and nothing after it happens. -/
def appMain (env : BootEnv) (nvs : Nvs) : App :=
  let (storage, nvs) := appStorageInit env.init nvs
  let (_, storage, nvs) := appStorageLoadData env.load storage nvs
  let data := (appStorageGetData storage).getD .zero
  { power := if storage.isSome then .running else .faulted
    controller := appControllerInit controllerConfig env.mallocMode
    gpio := fun _ => none
    gpioTask := GpioTask.start
    schedule := bootSchedule env.scheduleMemory data
    rtcOutcomes := env.rtcOutcomes
    storage := storage
    nvs := nvs
    saveOutcomes := env.saveOutcomes
    nextion := appNextionInit true data.toActiveTime env.mallocPage
    readBuffer := env.readBuffer
    websocket := appWebsocketInit true env.hardwareId data.toActiveTime env.mallocLogged
      env.txOutcomes
    forceOtaFlag := false
    trace := [] }

/-- A boot on which every call succeeds and all memory reads as zero. -/
def BootEnv.clean : BootEnv where
  init := ⟨.ok, .ok, .ok, .zero⟩
  load := .success
  hardwareId := ""
  mallocLogged := false
  mallocPage := 0
  mallocMode := .off
  scheduleMemory :=
    { jobList := fun _ => ⟨.none, 0, 0, 0, 0, false⟩
      startJob := ⟨.none, 0, 0, 0, 0, false⟩
      endJob := ⟨.none, 0, 0, 0, 0, false⟩ }
  readBuffer := ⟨List.replicate bufSize 0, length_zeros⟩
  txOutcomes := Stream'.const true
  saveOutcomes := Stream'.const ⟨.ok, .ok⟩
  rtcOutcomes := Stream'.const .ok

/-! ## The system -/

/-- What can happen to the device, each handled to completion. -/
inductive Input where
  | poll (manualState autoState : Int)
  | tick (t : Tick)
  | message (m : Option MainMessage)
  | nextion (r : NextionRead)
  | connected
  | disconnected
  | gps (form : DateTimeForm)

/-- The task an input belongs to. -/
def Input.handle : Input → App → App
  | .poll manualState autoState, app => gpioTaskPoll manualState autoState app
  | .tick t, app => scheduleTaskIteration t app
  | .message m, app => processData m app
  | .nextion r, app => nextionReadIteration r app
  | .connected, app =>
    -- The identifier passed on is `WEBSOCKET_EVENT_CONNECTED`; its numeral is the right one.
    websocketCallback .websocketOnConnected (app.onWebsocket Websocket.connected)
  | .disconnected, app =>
    websocketCallback .websocketOnDisconnected (app.onWebsocket Websocket.disconnected)
  | .gps form, app => eventCallback (.gpsSetTime (some form)) app

/-- A device that is not running handles nothing. -/
def App.step (i : Input) (app : App) : App :=
  if app.power = .running then i.handle app else app

end Lighting
