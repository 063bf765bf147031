import Lighting.Lib.Runs
import Lighting.Model.Main

/-!
# What happens to the session's handle

Everything that touches `app_websocket_t` outside its own task is one of four calls: an update
from another module, the two connection events, and a message taken apart by `_process_data`.
`HandleCall` lists them and `HandleCall.apply` is what each does to the handle. A login response
is the one branch that does something by itself, `loginOk`; what the other branches do to the
handle they do through `event_callback`, as updates.

`step_calls` is the link with the device: whatever an input of the device does to the handle,
it does by such calls. The files that follow work on the handle alone and let the calls come
in any order, so what they prove of every run of calls holds of the runs of the device.
-/

set_option autoImplicit false

namespace Lighting

open Runs

/-- A login response with code 0. -/
def Dispatch.loginOk : Dispatch → Bool
  | .loginResponse r => r.statuscode.any (·.code = 0)
  | _ => false

/-- The branches that dereference a sub-message the server left out. -/
def Dispatch.faults : Dispatch → Bool
  | .registerResponse r => r.statuscode.isNone
  | .loginResponse r => r.statuscode.isNone
  | .setActiveTime r => r.activeTime?.isNone
  | .setCycleConfig r => r.greentime.length < 2
  | _ => false

/-- What a branch of `_process_data` does to the handle by itself. -/
def Websocket.process (handle : Websocket) : Dispatch → Websocket
  | .registerResponse r =>
    if r.statuscode.any (·.code = 0) then handle.registered r.deviceid else handle
  | .loginResponse r =>
    if r.statuscode.any (·.code = 0) then handle.logged.resend else handle
  | _ => handle

theorem process_loginOk {d : Dispatch} (hd : d.loginOk = true) (handle : Websocket) :
    handle.process d = handle.logged.resend := by
  cases d with
  | loginResponse r => exact if_pos hd
  | _ => exact absurd hd (by simp [Dispatch.loginOk])

/-- Any other branch at most stores a device id. -/
theorem process_other {d : Dispatch} (hd : d.loginOk = false) (handle : Websocket) :
    handle.process d = handle ∨ ∃ deviceid, handle.process d = handle.registered deviceid := by
  cases d with
  | registerResponse r =>
    simp only [Websocket.process]
    split
    · exact .inr ⟨_, rfl⟩
    · exact .inl rfl
  | loginResponse r => exact .inl (if_neg (Bool.eq_false_iff.mp hd))
  | _ => exact .inl rfl

/-- A call that touches the handle. -/
inductive HandleCall where
  | update (body : UpdateBody)
  | connected
  | disconnected
  | process (d : Dispatch)
  deriving DecidableEq, Repr

def HandleCall.apply : HandleCall → Websocket → Websocket
  | .update body, handle => handle.update body
  | .connected, handle => handle.connected
  | .disconnected, handle => handle.disconnected
  | .process d, handle => handle.process d

/-! ## `event_callback` only reports -/

/-- From `app` to `app'` the handle has seen updates and nothing else. -/
def Reports (app app' : App) : Prop :=
  ∃ bodies : List UpdateBody, app'.websocket = bodies.foldl Websocket.update app.websocket

theorem Reports.refl (app : App) : Reports app app := ⟨[], rfl⟩

theorem Reports.of_eq {app app' : App} (h : app'.websocket = app.websocket) : Reports app app' :=
  ⟨[], h⟩

theorem Reports.trans {a b c : App} (hab : Reports a b) (hbc : Reports b c) : Reports a c := by
  obtain ⟨xs, hx⟩ := hab
  obtain ⟨ys, hy⟩ := hbc
  exact ⟨xs ++ ys, by rw [hy, hx, List.foldl_append]⟩

section reports

variable (app : App)

theorem onWebsocket_reports (body : UpdateBody) :
    Reports app (app.onWebsocket (Websocket.update · body)) := ⟨[body], rfl⟩

theorem controlRelay_reports (isActive : Bool) :
    Reports app (appControllerControlRelay isActive app) := by
  unfold appControllerControlRelay
  split
  · exact .refl app
  · split
    · exact (Reports.of_eq rfl).trans
        (onWebsocket_reports _ (.powerState isActive))
    · exact .of_eq rfl

theorem onChangeMode_reports (mode : ControllerMode) : Reports app (onChangeMode mode app) := by
  -- Up to the test for `OFF` the handle is not touched.
  let shown := { (app.enter (.controllerChangeMode mode)).onNextion (appNextionSetMode · mode) with
    schedule := appScheduleSetMode app.schedule mode.toOperator }
  have hshown : Reports app shown := .of_eq rfl
  have hrelay : Reports app
      (if mode = .off then appControllerControlRelay false shown else shown) := by
    split
    · exact hshown.trans (controlRelay_reports shown false)
    · exact hshown
  exact hrelay.trans (onWebsocket_reports _ (.mode mode))

theorem forceManual_reports (isRelease : Bool) :
    Reports app (appControllerForceManual isRelease app) := by
  unfold appControllerForceManual
  dsimp only
  split
  · exact onChangeMode_reports app _
  · exact .refl app

/-- **An event touches the handle by updates only.** -/
theorem eventCallback_reports (e : Event) : Reports app (eventCallback e app) := by
  cases e with
  | websocketOnConnected | websocketOnDisconnected | websocketOnOnline | websocketOnForceOta
  | nextionSyncTime => exact .of_eq rfl
  | websocketOnControl isOn =>
    cases isOn with
    | none => exact .of_eq rfl
    | some isOn =>
      simp only [eventCallback]
      split
      · exact .of_eq rfl
      · exact (Reports.of_eq rfl).trans <| (forceManual_reports (app.enter _) false).trans <|
          (controlRelay_reports _ isOn).trans <| .of_eq rfl
  | websocketOnFree => exact (Reports.of_eq rfl).trans (forceManual_reports (app.enter _) true)
  | websocketOnSettingActiveTime activeTime =>
    cases activeTime with
    | none => exact .of_eq rfl
    | some activeTime => exact ⟨[.activeTime activeTime], rfl⟩
  | nextionSetTime form | gpsSetTime form => cases form <;> exact .of_eq rfl
  | nextionSetSchedule activeTime =>
    cases activeTime with
    | none => exact .of_eq rfl
    | some activeTime => exact ⟨[.activeTime activeTime], rfl⟩
  | nextionManualOn =>
    exact (Reports.of_eq rfl).trans <| (controlRelay_reports (app.enter _) true).trans <| .of_eq rfl
  | nextionManualOff =>
    exact (Reports.of_eq rfl).trans <|
      (controlRelay_reports (app.enter _) false).trans <| .of_eq rfl
  | modbusData phases =>
    cases phases with
    | none => exact .of_eq rfl
    | some phases => exact ⟨[.meterData phases], rfl⟩
  | controllerChangeMode mode => exact onChangeMode_reports app mode
  | controllerChangePower isOn =>
    cases isOn with
    | none => exact .of_eq rfl
    | some isOn => exact ⟨[.powerState isOn], rfl⟩
  | scheduleTrigger type =>
    simp only [eventCallback]
    split <;> exact (Reports.of_eq rfl).trans (controlRelay_reports (app.enter _) _)

theorem websocketCallback_reports (e : Event) : Reports app (websocketCallback e app) := by
  unfold websocketCallback
  split
  · exact eventCallback_reports app e
  · exact .refl app

/-- The page the display is sent to is none of the handle's business. -/
theorem websocketCallback_online :
    (websocketCallback .websocketOnOnline app).websocket = app.websocket := by
  unfold websocketCallback
  split <;> rfl

/-- A message touches the handle by its own branch first and by updates after it. -/
theorem processDispatch_reports (d : Dispatch) :
    Reports (app.onWebsocket (·.process d)) (processDispatch d app) := by
  cases d with
  | registerResponse r =>
    obtain ⟨deviceid, statuscode⟩ := r
    cases statuscode with
    | none => exact .of_eq rfl
    | some statuscode =>
      by_cases hcode : statuscode.code = 0
      · exact .of_eq (by simp [processDispatch, Websocket.process, App.onWebsocket, hcode])
      · exact .of_eq (by simp [processDispatch, Websocket.process, App.onWebsocket, hcode])
  | loginResponse r =>
    obtain ⟨statuscode⟩ := r
    cases statuscode with
    | none => exact .of_eq rfl
    | some statuscode =>
      by_cases hcode : statuscode.code = 0
      · have honline := websocketCallback_online (app.onWebsocket Websocket.logged)
        refine .of_eq ?_
        simp only [processDispatch, hcode, if_true]
        simp only [App.onWebsocket] at honline ⊢
        rw [honline]
        simp [Websocket.process, hcode]
      · exact .of_eq (by simp [processDispatch, Websocket.process, App.onWebsocket, hcode])
  | powerControl _ | forceOta | releaseControl => exact websocketCallback_reports app _
  | requireStream | controlLane | nothing => exact .refl app
  | setActiveTime r =>
    simp only [processDispatch]
    cases r.activeTime? with
    | none => exact .of_eq rfl
    | some activeTime => exact websocketCallback_reports app _
  | setCycleConfig r =>
    simp only [processDispatch]
    split
    · exact .of_eq rfl
    · exact .refl app

end reports

/-! ## The device -/

/-- From `app` to `app'` the handle has seen the calls. -/
def Calls (app app' : App) : Prop :=
  ∃ calls : List HandleCall, app'.websocket = after HandleCall.apply app.websocket calls

theorem Reports.calls {app app' : App} (h : Reports app app') : Calls app app' := by
  obtain ⟨bodies, hb⟩ := h
  refine ⟨bodies.map .update, hb.trans ?_⟩
  unfold after
  rw [List.foldl_map]
  rfl

theorem Calls.trans {a b c : App} (hab : Calls a b) (hbc : Calls b c) : Calls a c := by
  obtain ⟨xs, hx⟩ := hab
  obtain ⟨ys, hy⟩ := hbc
  exact ⟨xs ++ ys, by rw [hy, hx, after_append]⟩

/-- The display's own bookkeeping does not touch the handle. -/
theorem nextionReadIteration_reports (r : NextionRead) (app : App) :
    Reports app (nextionReadIteration r app) := by
  unfold nextionReadIteration
  dsimp only
  split
  · exact .of_eq rfl
  · exact (Reports.of_eq rfl).trans (eventCallback_reports _ _)

theorem poll_reports (manualState autoState : Int) (app : App) :
    Reports app (gpioTaskPoll manualState autoState app) := by
  have hmode : Reports app (if selectorMode manualState autoState ≠ app.gpioTask.mode then
      gpioTaskChangeMode (selectorMode manualState autoState) app else app) := by
    split
    · unfold gpioTaskChangeMode
      dsimp only
      split
      · exact (Reports.of_eq rfl).trans (eventCallback_reports _ _)
      · exact .of_eq rfl
    · exact .refl app
  exact hmode.trans (.of_eq rfl)

theorem tick_reports (t : Tick) (app : App) : Reports app (scheduleTaskIteration t app) := by
  unfold scheduleTaskIteration
  dsimp only
  split
  · exact .of_eq rfl
  · rename_i type _
    have htrigger := eventCallback_reports
      { app with schedule := (scheduleDecide t app.schedule).1 } (.scheduleTrigger type)
    refine (Reports.of_eq rfl).trans (htrigger.trans (.of_eq ?_))
    unfold scheduleRestart
    split <;> rfl

theorem handle_calls (i : Input) (app : App) : Calls app (i.handle app) := by
  cases i with
  | poll manualState autoState => exact (poll_reports manualState autoState app).calls
  | tick t => exact (tick_reports t app).calls
  | message m =>
    cases m with
    | none => exact ⟨[], rfl⟩
    | some message =>
      have hown : Calls app (app.onWebsocket (·.process message.dispatch)) :=
        ⟨[.process message.dispatch], rfl⟩
      exact hown.trans (processDispatch_reports app message.dispatch).calls
  | nextion r => exact (nextionReadIteration_reports r app).calls
  | connected =>
    have hown : Calls app (app.onWebsocket Websocket.connected) := ⟨[.connected], rfl⟩
    exact hown.trans (websocketCallback_reports _ _).calls
  | disconnected =>
    have hown : Calls app (app.onWebsocket Websocket.disconnected) := ⟨[.disconnected], rfl⟩
    exact hown.trans (websocketCallback_reports _ _).calls
  | gps form => exact (eventCallback_reports app _).calls

/-- **A run of the device is a run of calls.** -/
theorem run_calls (is : List Input) (app : App) : Calls app (after App.step app is) := by
  induction is generalizing app with
  | nil => exact ⟨[], rfl⟩
  | cons i is ih =>
    have hstep : Calls app (App.step i app) := by
      unfold App.step
      split
      · exact handle_calls i app
      · exact ⟨[], rfl⟩
    exact hstep.trans (ih (App.step i app))

end Lighting
