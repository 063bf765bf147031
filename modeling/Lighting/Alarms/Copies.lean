import Lighting.Panel.Refinement

/-!
# Where a schedule is kept

A schedule is kept in the record of `app_storage`, on the flash and in the two alarms; the
display and the session have copies of their own that nothing acts on. Two inputs write them:
a message of the server and a command of the display.

`Event.schedule?` and `Input.schedule?` single those inputs out. An input that carries a
schedule puts it everywhere (`handle_scheduled`), up to an NVS call that fails; for every other
input the frame `SameTimes` holds (`handle_times`).
-/

set_option autoImplicit false

namespace Lighting

open WriteBack

/-! ## The frame -/

/-- The three places a schedule is kept in. -/
structure SameTimes (a b : App) : Prop where
  startJob : b.schedule.startJob = a.schedule.startJob
  endJob : b.schedule.endJob = a.schedule.endJob
  storage : b.storage = a.storage
  nvs : b.nvs = a.nvs

section frame

variable {a b c : App}

theorem SameTimes.refl (a : App) : SameTimes a a := ⟨rfl, rfl, rfl, rfl⟩

theorem SameTimes.trans (h : SameTimes a b) (h' : SameTimes b c) : SameTimes a c :=
  ⟨h'.startJob.trans h.startJob, h'.endJob.trans h.endJob, h'.storage.trans h.storage,
    h'.nvs.trans h.nvs⟩

theorem controlRelay_times (isOn : Bool) (app : App) :
    SameTimes app (appControllerControlRelay isOn app) := by
  rcases controlRelay_cases isOn app with ⟨-, h⟩ | ⟨-, -, h⟩ | ⟨-, -, h⟩
  · rw [h]; exact .refl app
  · rw [h]; exact ⟨rfl, rfl, rfl, rfl⟩
  · rw [h]; exact ⟨rfl, rfl, rfl, rfl⟩

theorem onChangeMode_times (mode : ControllerMode) (app : App) :
    SameTimes app (onChangeMode mode app) := by
  rw [onChangeMode_eq]
  have ha : SameTimes app (announceMode mode app) := ⟨rfl, rfl, rfl, rfl⟩
  split
  · have hr := ha.trans (controlRelay_times false (announceMode mode app))
    exact ⟨hr.startJob, hr.endJob, hr.storage, hr.nvs⟩
  · exact ⟨ha.startJob, ha.endJob, ha.storage, ha.nvs⟩

theorem forceManual_times (isRelease : Bool) (app : App) :
    SameTimes app (appControllerForceManual isRelease app) := by
  unfold appControllerForceManual
  dsimp only
  split
  · exact onChangeMode_times _ app
  · exact .refl app

end frame

/-! ## Where a schedule comes in -/

/-- The schedule an event carries to the alarms. -/
def Event.schedule? : Event → Option ActiveTime
  | .websocketOnSettingActiveTime activeTime => activeTime
  | .nextionSetSchedule activeTime => activeTime
  | _ => none

/-- The schedule `t` is in the alarms and in the record, and may be on the flash. -/
structure Scheduled (t : ActiveTime) (a b : App) : Prop where
  power : b.power = a.power
  startJob : b.schedule.startJob.enable = true ∧ b.schedule.startJob.startHour = t.startHour ∧
    b.schedule.startJob.startMinute = t.startMinute
  endJob : b.schedule.endJob.enable = true ∧ b.schedule.endJob.startHour = t.endHour ∧
    b.schedule.endJob.startMinute = t.endMinute
  storage : ∀ handle, b.storage = some handle → handle.data = .ofActiveTime t
  nvs : b.nvs = a.nvs ∨ b.nvs = a.nvs.write (.record (.ofActiveTime t))

/-- The record is set, then saved, whatever the NVS calls answer. -/
theorem saveRecord_storage (app : App) (data : AppStorageData) :
    (∀ handle, (app.saveRecord data).storage = some handle → handle.data = data) ∧
      ((app.saveRecord data).nvs = app.nvs ∨
        (app.saveRecord data).nvs = app.nvs.write (.record data)) := by
  simp only [App.saveRecord]
  cases app.storage with
  | none => exact ⟨fun handle h => absurd h (by simp [appStorageSetData]), Or.inl rfl⟩
  | some handle =>
    refine ⟨fun handle' h => ?_, ?_⟩
    · obtain rfl : (⟨data⟩ : Storage) = handle' := by simpa [appStorageSetData] using h
      rfl
    · simp only [appStorageSetData, appStorageSaveData]
      split
      · exact Or.inl rfl
      · exact (nvsSetBlob_cases _ data app.nvs).symm

theorem scheduled_of_save (t : ActiveTime) (app : App) :
    Scheduled t app ((app.saveRecord (.ofActiveTime t)).addAlarms (.ofActiveTime t)) := by
  obtain ⟨hstorage, hnvs⟩ := saveRecord_storage app (.ofActiveTime t)
  exact ⟨rfl, ⟨rfl, rfl, rfl⟩, ⟨rfl, rfl, rfl⟩, hstorage, hnvs⟩

/-- **An event with a schedule puts it everywhere.** -/
theorem eventCallback_scheduled {e : Event} {t : ActiveTime} (he : e.schedule? = some t)
    (app : App) : Scheduled t app (eventCallback e app) := by
  cases e with
  | websocketOnSettingActiveTime activeTime =>
    obtain rfl : activeTime = some t := he
    have h := scheduled_of_save t (app.enter (.websocketOnSettingActiveTime (some t)))
    exact ⟨h.power, h.startJob, h.endJob, h.storage, h.nvs⟩
  | nextionSetSchedule activeTime =>
    obtain rfl : activeTime = some t := he
    have h := scheduled_of_save t (app.enter (.nextionSetSchedule (some t)))
    exact ⟨h.power, h.startJob, h.endJob, h.storage, h.nvs⟩
  | _ => exact absurd he (by simp [Event.schedule?])

/-- **Every other event leaves the times alone.** -/
theorem eventCallback_times {e : Event} (he : e.schedule? = none) (app : App) :
    SameTimes app (eventCallback e app) := by
  cases e with
  | websocketOnConnected => exact ⟨rfl, rfl, rfl, rfl⟩
  | websocketOnDisconnected => exact ⟨rfl, rfl, rfl, rfl⟩
  | websocketOnOnline => exact ⟨rfl, rfl, rfl, rfl⟩
  | websocketOnControl isOn =>
    cases isOn with
    | none => exact ⟨rfl, rfl, rfl, rfl⟩
    | some isOn =>
      simp only [eventCallback]
      split
      · exact ⟨rfl, rfl, rfl, rfl⟩
      · have hf := forceManual_times false (app.enter (.websocketOnControl (some isOn)))
        have hr := hf.trans (controlRelay_times isOn _)
        exact ⟨hr.startJob, hr.endJob, hr.storage, hr.nvs⟩
  | websocketOnFree =>
    have hf := forceManual_times true (app.enter .websocketOnFree)
    exact ⟨hf.startJob, hf.endJob, hf.storage, hf.nvs⟩
  | websocketOnForceOta => exact ⟨rfl, rfl, rfl, rfl⟩
  | websocketOnSettingActiveTime activeTime =>
    obtain rfl : activeTime = none := he
    exact ⟨rfl, rfl, rfl, rfl⟩
  | nextionSetTime form =>
    cases form with
    | none => exact ⟨rfl, rfl, rfl, rfl⟩
    | some form =>
      have hs := appScheduleSetTime_same app.rtcOutcomes.head app.schedule
      exact ⟨hs.startJob, hs.endJob, rfl, rfl⟩
  | nextionSyncTime => exact ⟨rfl, rfl, rfl, rfl⟩
  | nextionSetSchedule activeTime =>
    obtain rfl : activeTime = none := he
    exact ⟨rfl, rfl, rfl, rfl⟩
  | gpsSetTime form =>
    cases form with
    | none => exact ⟨rfl, rfl, rfl, rfl⟩
    | some form =>
      have hs := appGpsSetTime_same app.rtcOutcomes.head app.schedule
      exact ⟨hs.startJob, hs.endJob, rfl, rfl⟩
  | nextionManualOn =>
    have hr := controlRelay_times true (app.enter .nextionManualOn)
    exact ⟨hr.startJob, hr.endJob, hr.storage, hr.nvs⟩
  | nextionManualOff =>
    have hr := controlRelay_times false (app.enter .nextionManualOff)
    exact ⟨hr.startJob, hr.endJob, hr.storage, hr.nvs⟩
  | modbusData phases =>
    cases phases with
    | none => exact ⟨rfl, rfl, rfl, rfl⟩
    | some phases => exact ⟨rfl, rfl, rfl, rfl⟩
  | controllerChangeMode mode => exact onChangeMode_times mode app
  | controllerChangePower isOn =>
    cases isOn with
    | none => exact ⟨rfl, rfl, rfl, rfl⟩
    | some isOn => exact ⟨rfl, rfl, rfl, rfl⟩
  | scheduleTrigger type =>
    rw [scheduleTrigger_eq]
    have hr := controlRelay_times (decide (type = .activeStart))
      (app.enter (.scheduleTrigger type))
    exact ⟨hr.startJob, hr.endJob, hr.storage, hr.nvs⟩

/-! ## The inputs -/

/-- The schedule an input brings: a message of the server, or a command of the display that is
not rejected. -/
def Input.schedule? (app : App) : Input → Option ActiveTime
  | .message (some m) =>
    match m.dispatch with
    | .setActiveTime r => r.activeTime?
    | _ => none
  | .nextion r => (nextionReadTask r app.readBuffer app.nextion).2.2.bind Event.schedule?
  | _ => none

theorem websocketCallback_times {e : Event} (he : e.schedule? = none) (app : App) :
    SameTimes app (websocketCallback e app) := by
  unfold websocketCallback
  split
  · exact eventCallback_times he app
  · exact .refl app

/-- The message branches that carry no schedule. -/
theorem processDispatch_times {d : Dispatch} (hd : ∀ r, d ≠ .setActiveTime r) (app : App) :
    SameTimes app (processDispatch d app) := by
  cases d with
  | registerResponse r =>
    simp only [processDispatch]
    split
    · exact ⟨rfl, rfl, rfl, rfl⟩
    · split
      · exact ⟨rfl, rfl, rfl, rfl⟩
      · exact .refl app
  | loginResponse r =>
    simp only [processDispatch]
    split
    · exact ⟨rfl, rfl, rfl, rfl⟩
    · split
      · have ho := websocketCallback_times (e := .websocketOnOnline) rfl
          (app.onWebsocket Websocket.logged)
        exact ⟨ho.startJob, ho.endJob, ho.storage, ho.nvs⟩
      · exact .refl app
  | powerControl r => exact websocketCallback_times (by rfl) app
  | requireStream => exact .refl app
  | controlLane => exact .refl app
  | setActiveTime r => exact absurd rfl (hd r)
  | setCycleConfig r =>
    simp only [processDispatch]
    split
    · exact ⟨rfl, rfl, rfl, rfl⟩
    · exact .refl app
  | forceOta => exact websocketCallback_times (by rfl) app
  | releaseControl => exact websocketCallback_times (by rfl) app
  | nothing => exact .refl app

theorem changeMode_times (curMode : ControllerMode) (app : App) :
    SameTimes app (gpioTaskChangeMode curMode app) := by
  unfold gpioTaskChangeMode
  dsimp only
  split
  · have hm := onChangeMode_times curMode { app with
      gpioTask := { app.gpioTask with mode := curMode }
      controller := { app.controller with mode := curMode } }
    exact ⟨hm.startJob, hm.endJob, hm.storage, hm.nvs⟩
  · exact ⟨rfl, rfl, rfl, rfl⟩

theorem scheduleRestart_times (t : Tick) (app : App) : SameTimes app (scheduleRestart t app) := by
  unfold scheduleRestart
  split
  · exact ⟨rfl, rfl, rfl, rfl⟩
  · exact .refl app

/-- **An input without a schedule leaves the times alone.** -/
theorem handle_times {app : App} {i : Input} (hi : i.schedule? app = none) :
    SameTimes app (i.handle app) := by
  cases i with
  | poll manualState autoState =>
    simp only [Input.handle, gpioTaskPoll]
    have hb : ∀ a, SameTimes a (gpioTaskBlink a) := fun a => ⟨rfl, rfl, rfl, rfl⟩
    split
    · exact (changeMode_times _ app).trans (hb _)
    · exact hb app
  | tick t =>
    obtain ⟨hsame, -⟩ := scheduleDecide_cases t app.schedule
    have hdecided : SameTimes app { app with schedule := (scheduleDecide t app.schedule).1 } :=
      ⟨hsame.startJob, hsame.endJob, rfl, rfl⟩
    simp only [Input.handle, scheduleTaskIteration]
    cases (scheduleDecide t app.schedule).2 with
    | none => exact hdecided
    | some type =>
      exact (hdecided.trans (eventCallback_times (by rfl) _)).trans (scheduleRestart_times t _)
  | message m =>
    cases m with
    | none => exact .refl app
    | some message =>
      simp only [Input.schedule?] at hi
      simp only [Input.handle, processData]
      by_cases hd : ∃ r, message.dispatch = .setActiveTime r
      · obtain ⟨r, hd⟩ := hd
        rw [hd] at hi ⊢
        simp only [processDispatch]
        rw [show r.activeTime? = none from hi]
        exact ⟨rfl, rfl, rfl, rfl⟩
      · exact processDispatch_times (fun r hr => hd ⟨r, hr⟩) app
  | nextion r =>
    simp only [Input.schedule?] at hi
    simp only [Input.handle, nextionReadIteration]
    cases he : (nextionReadTask r app.readBuffer app.nextion).2.2 with
    | none => exact ⟨rfl, rfl, rfl, rfl⟩
    | some e =>
      rw [he, Option.bind_some] at hi
      have hs := eventCallback_times hi { app with
        readBuffer := (nextionReadTask r app.readBuffer app.nextion).1
        nextion := (nextionReadTask r app.readBuffer app.nextion).2.1 }
      exact ⟨hs.startJob, hs.endJob, hs.storage, hs.nvs⟩
  | connected =>
    have hs := websocketCallback_times (e := .websocketOnConnected) rfl
      (app.onWebsocket Websocket.connected)
    exact ⟨hs.startJob, hs.endJob, hs.storage, hs.nvs⟩
  | disconnected =>
    have hs := websocketCallback_times (e := .websocketOnDisconnected) rfl
      (app.onWebsocket Websocket.disconnected)
    exact ⟨hs.startJob, hs.endJob, hs.storage, hs.nvs⟩
  | gps form => exact eventCallback_times (e := .gpsSetTime (some form)) rfl app

/-- **An input with a schedule puts it everywhere.** -/
theorem handle_scheduled {p : Panel} {app : App} (h : Shows p app) {i : Input} {t : ActiveTime}
    (hi : i.schedule? app = some t) : Scheduled t app (i.handle app) := by
  cases i with
  | message m =>
    cases m with
    | none => exact absurd hi (by simp [Input.schedule?])
    | some message =>
      simp only [Input.schedule?] at hi
      simp only [Input.handle, processData]
      by_cases hd : ∃ r, message.dispatch = .setActiveTime r
      · obtain ⟨r, hd⟩ := hd
        rw [hd] at hi ⊢
        simp only [processDispatch]
        rw [show r.activeTime? = some t from hi]
        dsimp only
        rw [websocketCallback_eq h]
        exact eventCallback_scheduled (by rfl) app
      · exfalso
        split at hi
        · next r hr => exact hd ⟨r, hr⟩
        · exact absurd hi (by simp)
  | nextion r =>
    simp only [Input.schedule?] at hi
    simp only [Input.handle, nextionReadIteration]
    cases he : (nextionReadTask r app.readBuffer app.nextion).2.2 with
    | none => rw [he] at hi; exact absurd hi (by simp)
    | some e =>
      rw [he, Option.bind_some] at hi
      have hs := eventCallback_scheduled hi { app with
        readBuffer := (nextionReadTask r app.readBuffer app.nextion).1
        nextion := (nextionReadTask r app.readBuffer app.nextion).2.1 }
      exact ⟨hs.power, hs.startJob, hs.endJob, hs.storage, hs.nvs⟩
  | _ => exact absurd hi (by simp [Input.schedule?])

end Lighting
