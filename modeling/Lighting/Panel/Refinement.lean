import Lighting.Panel.Shows

/-!
# The firmware moves like the panel

`Input.act?` says which act of the panel an input of the device amounts to, and `step_shows`
and `step_drives` that a step of the device is that act: the modes keep showing the panel and
the relay is driven to what the panel says. Iterating them is left to the files that need a
run; what they have to know of a step is only which act it is.

The schedule's trigger is where the argument has content. `scheduleDecide` raises it only in
mode `AUTO`, the device shows the panel, so the panel operates automatically and the trigger
is the panel's own. This is true because an iteration is handled to completion.
-/

set_option autoImplicit false

namespace Lighting

open Panel

/-! ## The inputs -/

/-- The act a branch of `_process_data` amounts to. -/
def Dispatch.act? : Dispatch → Option Act
  | .powerControl r => some (.control r.ispoweron)
  | .releaseControl => some .release
  | _ => none

def Event.button? : Event → Option Act
  | .nextionManualOn => some (.manual true)
  | .nextionManualOff => some (.manual false)
  | _ => none

/-- The act an input amounts to. -/
def Input.act? (app : App) : Input → Option Act
  | .poll manualState autoState =>
    let curMode := selectorMode manualState autoState
    if curMode ≠ app.gpioTask.mode then some (.turn curMode) else none
  | .tick t => (scheduleDecide t app.schedule).2.map fun type => .trigger (type = .activeStart)
  | .message m => m.bind fun message => message.dispatch.act?
  | .nextion r => (nextionReadTask r app.readBuffer app.nextion).2.2.bind Event.button?
  | _ => none

section inputs

variable {p : Panel} {app : App}

theorem websocketCallback_eq (h : Shows p app) (e : Event) :
    websocketCallback e app = eventCallback e app := if_pos h.websocketCallback

/-- The branches of `_process_data` with nothing for the panel in them. -/
theorem processDispatch_same (h : Shows p app) {d : Dispatch} (hd : d.act? = none) :
    SamePanel app (processDispatch d app) := by
  cases d with
  | registerResponse r =>
    simp only [processDispatch]
    cases r.statuscode with
    | none => exact fault_same app
    | some statuscode =>
      dsimp only
      split
      · exact onWebsocket_same _ (f := (Websocket.registered · r.deviceid)) (fun _ => rfl)
          fun _ => rfl
      · exact .refl app
  | loginResponse r =>
    simp only [processDispatch]
    cases r.statuscode with
    | none => exact fault_same app
    | some statuscode =>
      dsimp only
      split
      · have hl : SamePanel app (app.onWebsocket Websocket.logged) :=
          onWebsocket_same _ (fun _ => rfl) fun _ => rfl
        rw [websocketCallback_eq (h.of_same hl.toSameModes)]
        exact (hl.trans (eventCallback_same rfl _)).trans
          (onWebsocket_same _ (f := Websocket.resend) (fun _ => rfl) fun _ => rfl)
      · exact .refl app
  | powerControl r => exact absurd hd (by simp [Dispatch.act?])
  | requireStream => exact .refl app
  | controlLane => exact .refl app
  | setActiveTime r =>
    simp only [processDispatch]
    cases r.activeTime? with
    | none => exact fault_same app
    | some activeTime =>
      simp only [websocketCallback_eq h]
      exact eventCallback_same rfl app
  | setCycleConfig r =>
    simp only [processDispatch]
    split
    · exact fault_same app
    · exact .refl app
  | forceOta =>
    simp only [processDispatch, websocketCallback_eq h]
    exact eventCallback_same rfl app
  | releaseControl => exact absurd hd (by simp [Dispatch.act?])
  | nothing => exact .refl app

/-- The other branches raise the event of the act. -/
theorem processDispatch_eq (h : Shows p app) {d : Dispatch} {a : Act} (hd : d.act? = some a) :
    ∃ e : Event, e.effect = some (act a) ∧ processDispatch d app = eventCallback e app := by
  cases d with
  | powerControl r =>
    obtain rfl : Act.control r.ispoweron = a := by simpa [Dispatch.act?] using hd
    exact ⟨_, rfl, websocketCallback_eq h _⟩
  | releaseControl =>
    obtain rfl : Act.release = a := by simpa [Dispatch.act?] using hd
    exact ⟨_, rfl, websocketCallback_eq h _⟩
  | _ => exact absurd hd (by simp [Dispatch.act?])

/-- The status pin is not one of the relay pins. -/
theorem Drives.blink {isOn : Bool} (h : Drives isOn app) : Drives isOn (gpioTaskBlink app) := by
  refine ⟨h.relayState, ?_, ?_⟩
  · have hne := app.controller.status_ne_relay1
    simpa [gpioTaskBlink, gpioSetLevel_of_ne _ _ hne] using h.relay1
  · have hne := app.controller.status_ne_relay2
    simpa [gpioTaskBlink, gpioSetLevel_of_ne _ _ hne] using h.relay2

theorem blink_same (app : App) : SameModes app (gpioTaskBlink app) :=
  ⟨rfl, rfl, rfl, rfl, rfl, rfl, rfl⟩

theorem changeMode_eq (h : Shows p app) (curMode : ControllerMode) :
    gpioTaskChangeMode curMode app = eventCallback (.controllerChangeMode curMode) { app with
      gpioTask := { app.gpioTask with mode := curMode }
      controller := { app.controller with mode := curMode } } :=
  if_pos h.controllerCallback

/-- A poll that finds the selector moved, up to the blinking. -/
theorem changeMode_turn (h : Shows p app) (curMode : ControllerMode) :
    Shows (act (.turn curMode) p) (gpioTaskChangeMode curMode app) ∧
      (Drives p.relay app →
        Drives (act (.turn curMode) p).relay (gpioTaskChangeMode curMode app)) := by
  rw [changeMode_eq h]
  have hs : Shows { p with selector := curMode } { app with
      gpioTask := { app.gpioTask with mode := curMode }
      controller := { app.controller with mode := curMode } } :=
    ⟨h.controllerCallback, h.websocketCallback, h.nextionCallback, rfl, h.schedule, h.nextion,
      h.websocket⟩
  refine ⟨eventCallback_shows hs (.controllerChangeMode curMode), fun hd => ?_⟩
  exact eventCallback_drives hs ⟨hd.relayState, hd.relay1, hd.relay2⟩
    (.controllerChangeMode curMode)

theorem scheduleRestart_same (t : Tick) (app : App) : SamePanel app (scheduleRestart t app) := by
  unfold scheduleRestart
  split
  · exact ⟨⟨rfl, rfl, rfl, rfl, rfl, rfl, rfl⟩, rfl, rfl⟩
  · exact .refl app

/-- An iteration of the read task leaves the panel alone, but for the event it raises. -/
theorem nextionReadTask_same (r : NextionRead) (app : App) :
    SamePanel app { app with
      readBuffer := (nextionReadTask r app.readBuffer app.nextion).1
      nextion := (nextionReadTask r app.readBuffer app.nextion).2.1 } := by
  unfold nextionReadTask
  split
  · exact .refl app
  · have hn := nextionDispatch_cases ((app.readBuffer.store r).bytes ++ r.beyond) r.stack
      app.nextion
    exact ⟨⟨rfl, rfl, nextionDispatch_callback _ _ _, rfl, rfl, hn.1, rfl⟩, rfl, rfl⟩

/-- For what the display raises, only the buttons matter. -/
theorem nextion_effect {r : NextionRead} {buffer : RxBuffer} {handle : Nextion} {e : Event}
    (he : (nextionReadTask r buffer handle).2.2 = some e) (p : Panel) :
    e.effect.getD id p = react e.button? p := by
  rcases nextionReadTask_events he with rfl | rfl | ⟨t, rfl⟩ | ⟨form, rfl⟩ | rfl
  · rfl
  · rfl
  · rfl
  · rfl
  · rfl

/-- **One input, on the modes and on the relay.** -/
theorem handle_refines (h : Shows p app) (i : Input) :
    Shows (react (i.act? app) p) (i.handle app) ∧
      (Drives p.relay app → Drives (react (i.act? app) p).relay (i.handle app)) := by
  cases i with
  | poll manualState autoState =>
    simp only [Input.act?, Input.handle, gpioTaskPoll]
    split
    · have ht := changeMode_turn h (selectorMode manualState autoState)
      exact ⟨ht.1.of_same (blink_same _), fun hd => (ht.2 hd).blink⟩
    · exact ⟨h.of_same (blink_same _), fun hd => hd.blink⟩
  | tick t =>
    obtain ⟨hsame, hdec⟩ := scheduleDecide_cases t app.schedule
    have hsched := withSchedule_same app hsame.mode
    simp only [Input.act?, Input.handle, scheduleTaskIteration]
    rcases hdec with hnone | ⟨hauto, -, -, hsome⟩
    · simp only [hnone, Option.map_none, react_none]
      exact ⟨h.of_same hsched.toSameModes, fun hd => hd.of_same hsched⟩
    · simp only [hsome, Option.map_some, react_some]
      have hop : p.operating = .auto :=
        ControllerMode.toOperator_eq_auto.mp (h.schedule.symm.trans hauto)
      rw [act_trigger_of_auto hop]
      generalize windowType _ _ _ = type
      have h' := h.of_same hsched.toSameModes
      refine ⟨(eventCallback_shows h' (.scheduleTrigger type)).of_same
        (scheduleRestart_same t _).toSameModes, fun hd => ?_⟩
      exact (eventCallback_drives h' (hd.of_same hsched) (.scheduleTrigger type)).of_same
        (scheduleRestart_same t _)
  | message m =>
    cases m with
    | none => exact ⟨h, id⟩
    | some message =>
      simp only [Input.act?, Input.handle, processData, Option.bind_some]
      cases hd : message.dispatch.act? with
      | none =>
        exact ⟨h.of_same (processDispatch_same h hd).toSameModes,
          fun hr => hr.of_same (processDispatch_same h hd)⟩
      | some a =>
        obtain ⟨e, he, heq⟩ := processDispatch_eq h hd
        rw [heq]
        have hs := eventCallback_shows h e
        rw [he] at hs
        refine ⟨hs, fun hr => ?_⟩
        have hdr := eventCallback_drives h hr e
        rwa [he] at hdr
  | nextion r =>
    have hsame := nextionReadTask_same r app
    simp only [Input.act?, Input.handle, nextionReadIteration]
    cases he : (nextionReadTask r app.readBuffer app.nextion).2.2 with
    | none => exact ⟨h.of_same hsame.toSameModes, fun hd => hd.of_same hsame⟩
    | some e =>
      dsimp only
      rw [Option.bind_some, ← nextion_effect he]
      exact ⟨eventCallback_shows (h.of_same hsame.toSameModes) e,
        fun hd => eventCallback_drives (h.of_same hsame.toSameModes) (hd.of_same hsame) e⟩
  | connected =>
    have hw : SamePanel app (app.onWebsocket Websocket.connected) :=
      onWebsocket_same _ (fun _ => rfl) fun _ => rfl
    have hs := hw.trans (eventCallback_same (e := .websocketOnConnected) rfl _)
    simp only [Input.act?, Input.handle, websocketCallback_eq (h.of_same hw.toSameModes)]
    exact ⟨h.of_same hs.toSameModes, fun hd => hd.of_same hs⟩
  | disconnected =>
    have hw : SamePanel app (app.onWebsocket Websocket.disconnected) :=
      onWebsocket_same _ (fun _ => rfl) fun _ => rfl
    have hs := hw.trans (eventCallback_same (e := .websocketOnDisconnected) rfl _)
    simp only [Input.act?, Input.handle, websocketCallback_eq (h.of_same hw.toSameModes)]
    exact ⟨h.of_same hs.toSameModes, fun hd => hd.of_same hs⟩
  | gps form =>
    have hs := eventCallback_same (e := .gpsSetTime (some form)) rfl app
    exact ⟨h.of_same hs.toSameModes, fun hd => hd.of_same hs⟩

end inputs

/-! ## The device -/

def App.act? (i : Input) (app : App) : Option Act :=
  if app.power = .running then i.act? app else none

section device

variable {p : Panel} {app : App}

/-- **A step keeps showing the panel.** -/
theorem step_shows (h : Shows p app) (i : Input) :
    Shows (react (app.act? i) p) (app.step i) := by
  unfold App.act? App.step
  split
  · exact (handle_refines h i).1
  · exact h

/-- **A step drives what the panel says.** -/
theorem step_drives (h : Shows p app) (hd : Drives p.relay app) (i : Input) :
    Drives (react (app.act? i) p).relay (app.step i) := by
  unfold App.act? App.step
  split
  · exact (handle_refines h i).2 hd
  · exact hd

theorem bootSchedule_mode (mem : ScheduleMemory) (data : AppStorageData) :
    (bootSchedule mem data).mode = .off := by
  unfold bootSchedule
  dsimp only
  split <;> split <;> rfl

/-- A device that has just booted: nothing operates, whatever the handle says. -/
theorem appMain_shows (env : BootEnv) (nvs : Nvs) :
    Shows ⟨env.mallocMode, .off, false⟩ (appMain env nvs) ∧ Drives false (appMain env nvs) := by
  have hmode : (appMain env nvs).schedule.mode = .off := bootSchedule_mode _ _
  exact ⟨⟨rfl, rfl, rfl, rfl, hmode, rfl, rfl⟩, rfl, Or.inr ⟨rfl, rfl⟩, Or.inr ⟨rfl, rfl⟩⟩

end device

end Lighting
