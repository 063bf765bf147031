import Lighting.Panel.Abstract
import Lighting.Model.Main

/-!
# The panel a device shows, event by event

A device shows a panel (`Shows`) when the controller holds its selector and the three other
modules hold its operating mode; it drives a relay state (`Drives`) when the handle and the
two pins agree on it. The two are separate because modes can be compared in a device whose
relay is in no particular state.

`eventCallback_shows` and `eventCallback_drives` go once through the events and say which
operation of the panel each one is (`Event.effect`). One line of `Event.effect` is worth
stopping at: a schedule trigger is `manual`, not `trigger`. The handler tests nothing; that the
mode is `AUTO` is known only where the decision was made.

Everything a handler does besides is covered by one frame, `SamePanel`.
-/

set_option autoImplicit false

namespace Lighting

open Panel

/-- The controller holds the selector, the other modules the operating mode, and the callbacks
are the ones `app_main` configures. -/
structure Shows (p : Panel) (app : App) : Prop where
  controllerCallback : app.controller.callback = true
  websocketCallback : app.websocket.callback = true
  nextionCallback : app.nextion.callback = true
  selector : app.controller.mode = p.selector
  schedule : app.schedule.mode = p.operating.toOperator
  nextion : app.nextion.mode = p.operating
  websocket : app.websocket.mode = p.operating

/-- A pin carries a relay state, or was never driven and the relay is off. -/
def Carries (level : Option Int) (isOn : Bool) : Prop :=
  level = some (levelOf isOn) ∨ level = none ∧ isOn = false

/-- The handle and the two pins agree on the state of the relay. -/
structure Drives (isOn : Bool) (app : App) : Prop where
  relayState : app.controller.relayState = levelOf isOn
  relay1 : Carries (app.gpio app.controller.relay1Pin) isOn
  relay2 : Carries (app.gpio app.controller.relay2Pin) isOn

/-- Nothing the panel shows is different. -/
structure SameModes (a b : App) : Prop where
  controllerCallback : b.controller.callback = a.controller.callback
  websocketCallback : b.websocket.callback = a.websocket.callback
  nextionCallback : b.nextion.callback = a.nextion.callback
  selector : b.controller.mode = a.controller.mode
  schedule : b.schedule.mode = a.schedule.mode
  nextion : b.nextion.mode = a.nextion.mode
  websocket : b.websocket.mode = a.websocket.mode

/-- Nor is anything the relay is driven through. -/
structure SamePanel (a b : App) : Prop extends SameModes a b where
  controller : b.controller = a.controller
  gpio : b.gpio = a.gpio

/-! ## The frame -/

section frame

variable {a b c : App}

theorem SameModes.refl (a : App) : SameModes a a := ⟨rfl, rfl, rfl, rfl, rfl, rfl, rfl⟩

theorem SameModes.trans (h : SameModes a b) (h' : SameModes b c) : SameModes a c where
  controllerCallback := h'.controllerCallback.trans h.controllerCallback
  websocketCallback := h'.websocketCallback.trans h.websocketCallback
  nextionCallback := h'.nextionCallback.trans h.nextionCallback
  selector := h'.selector.trans h.selector
  schedule := h'.schedule.trans h.schedule
  nextion := h'.nextion.trans h.nextion
  websocket := h'.websocket.trans h.websocket

theorem SamePanel.refl (a : App) : SamePanel a a := ⟨.refl a, rfl, rfl⟩

theorem SamePanel.trans (h : SamePanel a b) (h' : SamePanel b c) : SamePanel a c :=
  ⟨h.toSameModes.trans h'.toSameModes, h'.controller.trans h.controller, h'.gpio.trans h.gpio⟩

theorem Shows.of_same {p : Panel} (h : Shows p a) (hs : SameModes a b) : Shows p b where
  controllerCallback := hs.controllerCallback.trans h.controllerCallback
  websocketCallback := hs.websocketCallback.trans h.websocketCallback
  nextionCallback := hs.nextionCallback.trans h.nextionCallback
  selector := hs.selector.trans h.selector
  schedule := hs.schedule.trans h.schedule
  nextion := hs.nextion.trans h.nextion
  websocket := hs.websocket.trans h.websocket

/-- What a device shows says nothing about the relay. -/
theorem Shows.any_relay {p : Panel} (h : Shows p a) (relay : Bool) :
    Shows { p with relay := relay } a :=
  ⟨h.controllerCallback, h.websocketCallback, h.nextionCallback, h.selector, h.schedule,
    h.nextion, h.websocket⟩

theorem Drives.of_same {isOn : Bool} (h : Drives isOn a) (hs : SamePanel a b) :
    Drives isOn b where
  relayState := by rw [hs.controller]; exact h.relayState
  relay1 := by rw [hs.controller, hs.gpio]; exact h.relay1
  relay2 := by rw [hs.controller, hs.gpio]; exact h.relay2

theorem enter_same (app : App) (event : Event) : SamePanel app (app.enter event) :=
  ⟨⟨rfl, rfl, rfl, rfl, rfl, rfl, rfl⟩, rfl, rfl⟩

theorem fault_same (app : App) : SamePanel app app.fault :=
  ⟨⟨rfl, rfl, rfl, rfl, rfl, rfl, rfl⟩, rfl, rfl⟩

theorem setConsole_same (app : App) (console : String) :
    SamePanel app (app.onNextion (appNextionSetConsole · console)) :=
  ⟨⟨rfl, rfl, rfl, rfl, rfl, rfl, rfl⟩, rfl, rfl⟩

theorem setButton_same (app : App) (isOn : Bool) :
    SamePanel app (app.onNextion (appNextionSetButton · isOn)) :=
  ⟨⟨rfl, rfl, rfl, rfl, rfl, rfl, rfl⟩, rfl, rfl⟩

theorem onWebsocket_same (app : App) {f : Websocket → Websocket} (hm : ∀ w, (f w).mode = w.mode)
    (hc : ∀ w, (f w).callback = w.callback) : SamePanel app (app.onWebsocket f) :=
  ⟨⟨rfl, hc _, rfl, rfl, rfl, rfl, hm _⟩, rfl, rfl⟩

theorem withSchedule_same (app : App) {schedule : Schedule}
    (hm : schedule.mode = app.schedule.mode) : SamePanel app { app with schedule := schedule } :=
  ⟨⟨rfl, rfl, rfl, rfl, hm, rfl, rfl⟩, rfl, rfl⟩

end frame

/-! ## The relay -/

section relay

variable {p : Panel} {app : App} {relay : Bool}

theorem onChangePower_same (app : App) (isOn : Option Bool) :
    SamePanel app (onChangePower isOn app) := by
  unfold onChangePower
  cases isOn with
  | none => exact enter_same _ _
  | some isOn =>
    exact (enter_same _ _).trans (onWebsocket_same _ (fun w => update_mode w (.powerState isOn))
      fun w => update_callback w (.powerState isOn))

theorem relayAt_iff (h : app.controller.relayState = levelOf relay) (isOn : Bool) :
    app.controller.relayAt isOn = true ↔ isOn = relay := by
  unfold Controller.relayAt
  rw [h]
  cases relay <;> cases isOn <;> simp

/-- **What `app_controller_control_relay` can do**: nothing, if the relay is there already;
else drive it and report it. -/
theorem controlRelay_cases (isOn : Bool) (app : App) :
    app.controller.relayAt isOn = true ∧ appControllerControlRelay isOn app = app ∨
      app.controller.relayAt isOn = false ∧ app.controller.callback = false ∧
        appControllerControlRelay isOn app = setRelay isOn app ∨
      app.controller.relayAt isOn = false ∧ app.controller.callback = true ∧
        appControllerControlRelay isOn app = onChangePower (some isOn) (setRelay isOn app) := by
  unfold appControllerControlRelay
  cases hat : app.controller.relayAt isOn with
  | true => simp
  | false =>
    cases hcb : app.controller.callback with
    | false => simp [setRelay]
    | true => simp

theorem setRelay_drives (isOn : Bool) (app : App) : Drives isOn (setRelay isOn app) := by
  refine ⟨rfl, Or.inl ?_, Or.inl (gpioSetLevel_self _ _ _)⟩
  unfold setRelay
  by_cases heq : app.controller.relay1Pin = app.controller.relay2Pin
  · simp [heq]
  · simp [gpioSetLevel_of_ne _ _ heq]

theorem controlRelay_same (isOn : Bool) (app : App) :
    SameModes app (appControllerControlRelay isOn app) := by
  have hset : SameModes app (setRelay isOn app) := ⟨rfl, rfl, rfl, rfl, rfl, rfl, rfl⟩
  rcases controlRelay_cases isOn app with ⟨-, h⟩ | ⟨-, -, h⟩ | ⟨-, -, h⟩
  · rw [h]; exact .refl app
  · rw [h]; exact hset
  · rw [h]; exact hset.trans (onChangePower_same _ _).toSameModes

/-- After a request the relay is where it was asked to be. -/
theorem controlRelay_drives (h : Drives relay app) (isOn : Bool) :
    Drives isOn (appControllerControlRelay isOn app) := by
  rcases controlRelay_cases isOn app with ⟨hat, heq⟩ | ⟨-, -, heq⟩ | ⟨-, -, heq⟩
  · rw [heq, (relayAt_iff h.relayState isOn).mp hat]; exact h
  · rw [heq]; exact setRelay_drives isOn app
  · rw [heq]; exact (setRelay_drives isOn app).of_same (onChangePower_same _ _)

end relay

/-! ## The modes -/

section modes

variable {p : Panel} {app : App} {relay : Bool}

/-- `APP_CONTROLLER_EVENT_CHANGE_MODE` up to the test for `OFF`: the display and the schedule. -/
def announceMode (mode : ControllerMode) (app : App) : App :=
  let app := (app.enter (.controllerChangeMode mode)).onNextion (appNextionSetMode · mode)
  { app with schedule := appScheduleSetMode app.schedule mode.toOperator }

theorem onChangeMode_eq (mode : ControllerMode) (app : App) :
    onChangeMode mode app =
      (if mode = .off then appControllerControlRelay false (announceMode mode app)
        else announceMode mode app).onWebsocket (appWebsocketUpdateMode · mode) := rfl

/-- `APP_CONTROLLER_EVENT_CHANGE_MODE` is `operate`. -/
theorem onChangeMode_shows (h : Shows p app) (mode : ControllerMode) :
    Shows (operate mode p) (onChangeMode mode app) := by
  rw [onChangeMode_eq]
  have hs : SameModes (announceMode mode app)
      (if mode = .off then appControllerControlRelay false (announceMode mode app)
        else announceMode mode app) := by
    split
    · exact controlRelay_same false _
    · exact .refl _
  refine ⟨hs.controllerCallback.trans h.controllerCallback, ?_, ?_,
    hs.selector.trans h.selector, hs.schedule, ?_, ?_⟩
  · exact (update_callback _ (.mode mode)).trans (hs.websocketCallback.trans h.websocketCallback)
  · exact hs.nextionCallback.trans ((appNextionSetMode_callback _ _).trans h.nextionCallback)
  · exact hs.nextion.trans (appNextionSetMode_mode _ _)
  · exact update_mode _ (.mode mode)

theorem onChangeMode_drives (h : Drives relay app) (mode : ControllerMode) :
    Drives (if mode = .off then false else relay) (onChangeMode mode app) := by
  rw [onChangeMode_eq]
  have ha : Drives relay (announceMode mode app) := ⟨h.relayState, h.relay1, h.relay2⟩
  split
  · exact ⟨(controlRelay_drives ha false).relayState, (controlRelay_drives ha false).relay1,
      (controlRelay_drives ha false).relay2⟩
  · exact ⟨ha.relayState, ha.relay1, ha.relay2⟩

/-- `app_controller_force_manual(true, …)` operates the position of the selector. -/
theorem forceManual_release (h : Shows p app) :
    appControllerForceManual true app = onChangeMode p.selector app := by
  simp [appControllerForceManual, h.controllerCallback, h.selector]

/-- `app_controller_force_manual(false, …)` operates `MANUAL`. -/
theorem forceManual_control (h : Shows p app) :
    appControllerForceManual false app = onChangeMode .manual app := by
  simp [appControllerForceManual, h.controllerCallback]

end modes

/-! ## The events -/

/-- What an event does to the panel, if anything. -/
def Event.effect : Event → Option (Panel → Panel)
  | .websocketOnControl (some isOn) => some (act (.control isOn))
  | .websocketOnFree => some (act .release)
  | .nextionManualOn => some (act (.manual true))
  | .nextionManualOff => some (act (.manual false))
  | .scheduleTrigger type => some (act (.manual (decide (type = .activeStart))))
  | .controllerChangeMode mode => some (operate mode)
  | _ => none

section events

variable {p : Panel} {app : App}

/-- The handlers with nothing for the panel in them. -/
theorem eventCallback_same {e : Event} (he : e.effect = none) (app : App) :
    SamePanel app (eventCallback e app) := by
  cases e with
  | websocketOnConnected => exact ⟨⟨rfl, rfl, rfl, rfl, rfl, rfl, rfl⟩, rfl, rfl⟩
  | websocketOnDisconnected => exact ⟨⟨rfl, rfl, rfl, rfl, rfl, rfl, rfl⟩, rfl, rfl⟩
  | websocketOnOnline => exact ⟨⟨rfl, rfl, rfl, rfl, rfl, rfl, rfl⟩, rfl, rfl⟩
  | websocketOnControl isOn =>
    cases isOn with
    | none => exact enter_same _ _
    | some isOn => exact absurd he (by simp [Event.effect])
  | websocketOnFree => exact absurd he (by simp [Event.effect])
  | websocketOnForceOta => exact ⟨⟨rfl, rfl, rfl, rfl, rfl, rfl, rfl⟩, rfl, rfl⟩
  | websocketOnSettingActiveTime activeTime =>
    cases activeTime with
    | none => exact enter_same _ _
    | some activeTime =>
      exact ⟨⟨rfl, update_callback _ (.activeTime activeTime), rfl, rfl, rfl, rfl,
        update_mode _ (.activeTime activeTime)⟩, rfl, rfl⟩
  | nextionSetTime form =>
    cases form with
    | none => exact enter_same _ _
    | some form =>
      exact ⟨⟨rfl, rfl, rfl, rfl, (appScheduleSetTime_same _ _).mode, rfl, rfl⟩, rfl, rfl⟩
  | nextionSyncTime => exact ⟨⟨rfl, rfl, rfl, rfl, rfl, rfl, rfl⟩, rfl, rfl⟩
  | nextionSetSchedule activeTime =>
    cases activeTime with
    | none => exact enter_same _ _
    | some activeTime =>
      exact ⟨⟨rfl, update_callback _ (.activeTime activeTime), rfl, rfl, rfl, rfl,
        update_mode _ (.activeTime activeTime)⟩, rfl, rfl⟩
  | gpsSetTime form =>
    cases form with
    | none => exact enter_same _ _
    | some form => exact ⟨⟨rfl, rfl, rfl, rfl, (appGpsSetTime_same _ _).mode, rfl, rfl⟩, rfl, rfl⟩
  | nextionManualOn => exact absurd he (by simp [Event.effect])
  | nextionManualOff => exact absurd he (by simp [Event.effect])
  | modbusData phases =>
    cases phases with
    | none => exact enter_same _ _
    | some phases =>
      exact ⟨⟨rfl, update_callback _ (.meterData phases), rfl, rfl, rfl, rfl,
        update_mode _ (.meterData phases)⟩, rfl, rfl⟩
  | controllerChangeMode mode => exact absurd he (by simp [Event.effect])
  | controllerChangePower isOn => exact onChangePower_same _ _
  | scheduleTrigger type => exact absurd he (by simp [Event.effect])

/-- The four handlers that switch the relay and say so on the console. -/
theorem switch_same (e : Event) (isOn : Bool) (console : String) (app : App) :
    SameModes app ((appControllerControlRelay isOn (app.enter e)).onNextion
      (appNextionSetConsole · console)) :=
  ((enter_same app e).toSameModes.trans (controlRelay_same isOn _)).trans
    (setConsole_same _ console).toSameModes

/-- A server control in position `OFF` is refused. -/
theorem control_off (h : app.controller.mode = .off) (isOn : Bool) :
    eventCallback (.websocketOnControl (some isOn)) app =
      app.enter (.websocketOnControl (some isOn)) := by
  simp [eventCallback, App.enter, appControllerGetMode, h]

/-- A server control that is accepted takes the operation to `MANUAL`, then switches. -/
theorem control_on (h : Shows p app) (hoff : p.selector ≠ .off) (isOn : Bool) :
    SamePanel (appControllerControlRelay isOn
        (onChangeMode .manual (app.enter (.websocketOnControl (some isOn)))))
      (eventCallback (.websocketOnControl (some isOn)) app) := by
  have hmode : (app.enter (.websocketOnControl (some isOn))).controller.mode ≠ .off := by
    rw [← h.selector] at hoff
    exact hoff
  simp only [eventCallback, appControllerGetMode, hmode, if_false,
    forceManual_control (h.of_same (enter_same _ _).toSameModes)]
  exact (setButton_same _ isOn).trans (setConsole_same _ _)

/-- A trigger is a request like any other. -/
theorem scheduleTrigger_eq (type : ScheduleType) (app : App) :
    eventCallback (.scheduleTrigger type) app =
      appControllerControlRelay (decide (type = .activeStart))
        (app.enter (.scheduleTrigger type)) := by
  simp only [eventCallback]
  split
  case isTrue h => simp [h]
  case isFalse h => simp [h]

/-- **The modes after an event.** -/
theorem eventCallback_shows (h : Shows p app) (e : Event) :
    Shows (e.effect.getD id p) (eventCallback e app) := by
  cases he : e.effect with
  | none => exact h.of_same (eventCallback_same he app).toSameModes
  | some f =>
    cases e with
    | websocketOnControl isOn =>
      cases isOn with
      | none => exact absurd he (by simp [Event.effect])
      | some isOn =>
        obtain rfl : act (.control isOn) = f := by simpa [Event.effect] using he
        by_cases hoff : p.selector = .off
        · rw [control_off (h.selector.trans hoff)]
          simpa [act_control_of_off hoff] using h.of_same (enter_same _ _).toSameModes
        · have hm := onChangeMode_shows (h.of_same (enter_same _ (.websocketOnControl
            (some isOn))).toSameModes) .manual
          simpa [act_control_of_ne hoff] using ((hm.any_relay isOn).of_same
            (controlRelay_same isOn _)).of_same (control_on h hoff isOn).toSameModes
    | websocketOnFree =>
      obtain rfl : act .release = f := by simpa [Event.effect] using he
      have h' := h.of_same (enter_same _ .websocketOnFree).toSameModes
      simp only [eventCallback, forceManual_release h']
      exact onChangeMode_shows h' _
    | nextionManualOn =>
      obtain rfl : act (.manual true) = f := by simpa [Event.effect] using he
      exact (h.any_relay true).of_same (switch_same _ _ _ _)
    | nextionManualOff =>
      obtain rfl : act (.manual false) = f := by simpa [Event.effect] using he
      exact (h.any_relay false).of_same (switch_same _ _ _ _)
    | controllerChangeMode mode =>
      obtain rfl : operate mode = f := by simpa [Event.effect] using he
      exact onChangeMode_shows h mode
    | scheduleTrigger type =>
      obtain rfl : act (.manual (decide (type = .activeStart))) = f := by
        simpa [Event.effect] using he
      refine (h.any_relay _).of_same ((enter_same _ (.scheduleTrigger type)).toSameModes.trans ?_)
      simp only [eventCallback]
      split
      · exact controlRelay_same _ _
      · exact controlRelay_same _ _
    | _ => exact absurd he (by simp [Event.effect])

/-- **The relay after an event.** -/
theorem eventCallback_drives (h : Shows p app) (hd : Drives p.relay app) (e : Event) :
    Drives (e.effect.getD id p).relay (eventCallback e app) := by
  cases he : e.effect with
  | none => exact hd.of_same (eventCallback_same he app)
  | some f =>
    cases e with
    | websocketOnControl isOn =>
      cases isOn with
      | none => exact absurd he (by simp [Event.effect])
      | some isOn =>
        obtain rfl : act (.control isOn) = f := by simpa [Event.effect] using he
        by_cases hoff : p.selector = .off
        · rw [control_off (h.selector.trans hoff)]
          simpa [act_control_of_off hoff] using hd.of_same (enter_same _ _)
        · have hm := onChangeMode_drives (hd.of_same (enter_same _ (.websocketOnControl
            (some isOn)))) .manual
          simpa [act_control_of_ne hoff] using
            (controlRelay_drives hm isOn).of_same (control_on h hoff isOn)
    | websocketOnFree =>
      obtain rfl : act .release = f := by simpa [Event.effect] using he
      simp only [eventCallback,
        forceManual_release (h.of_same (enter_same _ .websocketOnFree).toSameModes)]
      exact onChangeMode_drives (hd.of_same (enter_same _ _)) _
    | nextionManualOn =>
      obtain rfl : act (.manual true) = f := by simpa [Event.effect] using he
      exact (controlRelay_drives (hd.of_same (enter_same _ _)) true).of_same (setConsole_same _ _)
    | nextionManualOff =>
      obtain rfl : act (.manual false) = f := by simpa [Event.effect] using he
      exact (controlRelay_drives (hd.of_same (enter_same _ _)) false).of_same (setConsole_same _ _)
    | controllerChangeMode mode =>
      obtain rfl : operate mode = f := by simpa [Event.effect] using he
      exact onChangeMode_drives hd mode
    | scheduleTrigger type =>
      obtain rfl : act (.manual (decide (type = .activeStart))) = f := by
        simpa [Event.effect] using he
      have hd' := hd.of_same (enter_same _ (.scheduleTrigger type))
      simp only [eventCallback]
      split
      case isTrue hstart => simpa [act, hstart] using controlRelay_drives hd' true
      case isFalse hend => simpa [act, hend] using controlRelay_drives hd' false
    | _ => exact absurd he (by simp [Event.effect])

end events

end Lighting
