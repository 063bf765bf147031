import Lighting.Session.Parties

/-!
# Messages with something left out

`_process_data` tests that the outer three levels of a message are there and follows the
pointers below them without a test: the status code of the two responses, the two times of a
schedule, the first two green times of a cycle. In proto3 any of these may be missing.

`processData_total_iff` says of which messages all of them are looked at in vain: the branch a
message takes decides which of its parts have to be there. `Complete` lists them level by level.
-/

set_option autoImplicit false

namespace Lighting

open WriteBack

/-! ## What has to be there -/

/-- Both times of day are there. -/
def SetActiveTimeDeviceRequest.Complete (r : SetActiveTimeDeviceRequest) : Prop :=
  ∃ lamp, r.activelamp = some lamp ∧ lamp.beginTime ≠ none ∧ lamp.endTime ≠ none

/-- The schedule of a message that asks for nothing before it has both times, and the cycle of
one that asks for no schedule either has two green times. -/
def UserDeviceMessage.Complete (u : UserDeviceMessage) : Prop :=
  u.powercontroluserrequest = none → u.requirestreamdevicerequest = false →
    u.controllanedevicerequest = false →
      (∀ r, u.setactivetimedevicerequest = some r → r.Complete) ∧
      (u.setactivetimedevicerequest = none →
        ∀ r, u.setcycleconfigdevicerequest = some r → 2 ≤ r.greentime.length)

/-- A register response has a status code; so has the login response of a message without one;
and a message without either is complete in its user part. -/
def MainMessage.Complete (m : MainMessage) : Prop :=
  (∀ r, m.auth?.bind DeviceAuthMessage.deviceregisterresponse = some r → r.statuscode ≠ none) ∧
  (m.auth?.bind DeviceAuthMessage.deviceregisterresponse = none →
    (∀ r, m.auth?.bind DeviceAuthMessage.deviceloginresponse = some r → r.statuscode ≠ none) ∧
    (m.auth?.bind DeviceAuthMessage.deviceloginresponse = none →
      ∀ u, m.userDevice? = some u → u.Complete))

/-- A running device handles the message and runs on. -/
def Handled (message : Option MainMessage) : Prop :=
  ∀ app : App, app.power = .running → (processData message app).power = .running

/-! ## The branches -/

theorem activeTime?_complete (r : SetActiveTimeDeviceRequest) :
    r.activeTime?.isNone = false ↔ r.Complete := by
  obtain ⟨lamp⟩ := r
  constructor
  · intro hsome
    cases lamp with
    | none => exact Bool.noConfusion hsome
    | some lamp =>
      obtain ⟨first, last⟩ := lamp
      cases first with
      | none => exact Bool.noConfusion hsome
      | some first =>
        cases last with
        | none => exact Bool.noConfusion hsome
        | some last =>
          exact ⟨⟨some first, some last⟩, rfl, Option.some_ne_none first, Option.some_ne_none last⟩
  · rintro ⟨⟨first, last⟩, hlamp, hfirst, hlast⟩
    obtain rfl : lamp = some ⟨first, last⟩ := hlamp
    obtain ⟨first, rfl⟩ := Option.ne_none_iff_exists'.mp hfirst
    obtain ⟨last, rfl⟩ := Option.ne_none_iff_exists'.mp hlast
    rw [SetActiveTimeDeviceRequest.activeTime?_some]
    rfl

theorem UserDeviceMessage.faults_iff (u : UserDeviceMessage) :
    u.dispatch.faults = false ↔ u.Complete := by
  unfold UserDeviceMessage.dispatch UserDeviceMessage.Complete
  cases hpower : u.powercontroluserrequest with
  | some r => simp [Dispatch.faults]
  | none =>
    cases hstream : u.requirestreamdevicerequest with
    | true => simp [Dispatch.faults]
    | false =>
      cases hlane : u.controllanedevicerequest with
      | true => simp [Dispatch.faults]
      | false =>
        cases htime : u.setactivetimedevicerequest with
        | some r => simpa [Dispatch.faults] using activeTime?_complete r
        | none =>
          cases hcycle : u.setcycleconfigdevicerequest with
          | some r =>
            have hfaults : (Dispatch.setCycleConfig r).faults = false ↔ 2 ≤ r.greentime.length :=
              decide_eq_false_iff_not.trans Nat.not_lt
            refine hfaults.trans ⟨fun hlen _ _ _ => ⟨?_, ?_⟩, fun h => ?_⟩
            · rintro r' ⟨⟩
            · rintro - r' ⟨rfl⟩
              exact hlen
            · exact (h rfl rfl rfl).2 rfl r rfl
          | none =>
            cases u.forceotaupdateuserrequest <;> cases u.releasecontroluserrequest <;>
              simp [Dispatch.faults]

/-- **The branch a message takes finds what it follows, exactly if the message is
complete.** -/
theorem MainMessage.faults_iff (m : MainMessage) : m.dispatch.faults = false ↔ m.Complete := by
  unfold MainMessage.dispatch MainMessage.Complete
  cases hregister : m.auth?.bind DeviceAuthMessage.deviceregisterresponse with
  | some r => cases hr : r.statuscode <;> simp [Dispatch.faults, hr]
  | none =>
    cases hlogin : m.auth?.bind DeviceAuthMessage.deviceloginresponse with
    | some r => cases hr : r.statuscode <;> simp [Dispatch.faults, hr]
    | none =>
      cases huser : m.userDevice? with
      | none => simp [Dispatch.faults]
      | some u => simpa using u.faults_iff

/-! ## `event_callback` does not fault -/

section power

variable (app : App)

theorem controlRelay_power (isActive : Bool) :
    (appControllerControlRelay isActive app).power = app.power := by
  unfold appControllerControlRelay
  split
  · rfl
  · split <;> rfl

theorem onChangeMode_power (mode : ControllerMode) :
    (onChangeMode mode app).power = app.power := by
  unfold onChangeMode
  dsimp only
  show App.power (if _ then _ else _) = _
  split
  · exact controlRelay_power _ false
  · rfl

theorem forceManual_power (isRelease : Bool) :
    (appControllerForceManual isRelease app).power = app.power := by
  unfold appControllerForceManual
  dsimp only
  split
  · exact onChangeMode_power app _
  · rfl

theorem eventCallback_power (e : Event) : (eventCallback e app).power = app.power := by
  cases e with
  | websocketOnConnected | websocketOnDisconnected | websocketOnOnline | websocketOnForceOta
  | nextionSyncTime => rfl
  | websocketOnControl isOn =>
    cases isOn with
    | none => rfl
    | some isOn =>
      simp only [eventCallback]
      split
      · rfl
      · exact (controlRelay_power _ isOn).trans (forceManual_power _ false)
  | websocketOnFree => exact forceManual_power _ true
  | websocketOnSettingActiveTime activeTime => cases activeTime <;> rfl
  | nextionSetTime form | gpsSetTime form => cases form <;> rfl
  | nextionSetSchedule activeTime => cases activeTime <;> rfl
  | nextionManualOn => exact controlRelay_power _ true
  | nextionManualOff => exact controlRelay_power _ false
  | modbusData phases => cases phases <;> rfl
  | controllerChangeMode mode => exact onChangeMode_power app mode
  | controllerChangePower isOn => cases isOn <;> rfl
  | scheduleTrigger type =>
    simp only [eventCallback]
    split
    · exact controlRelay_power _ true
    · exact controlRelay_power _ false

theorem websocketCallback_power (e : Event) : (websocketCallback e app).power = app.power := by
  unfold websocketCallback
  split
  · exact eventCallback_power app e
  · rfl

end power

/-- A branch that finds what it follows leaves the device running. -/
theorem processDispatch_power {d : Dispatch} (hd : d.faults = false) (app : App) :
    (processDispatch d app).power = app.power := by
  cases d with
  | registerResponse r =>
    cases hr : r.statuscode with
    | none => exact absurd hd (by simp [Dispatch.faults, hr])
    | some statuscode =>
      simp only [processDispatch, hr]
      split <;> rfl
  | loginResponse r =>
    cases hr : r.statuscode with
    | none => exact absurd hd (by simp [Dispatch.faults, hr])
    | some statuscode =>
      simp only [processDispatch, hr]
      split
      · exact websocketCallback_power (app.onWebsocket Websocket.logged) .websocketOnOnline
      · rfl
  | setActiveTime r =>
    cases hr : r.activeTime? with
    | none => exact absurd hd (by simp [Dispatch.faults, hr])
    | some activeTime =>
      simp only [processDispatch, hr]
      exact websocketCallback_power app _
  | setCycleConfig r =>
    have hlen : ¬r.greentime.length < 2 := by simpa [Dispatch.faults] using hd
    simp only [processDispatch, if_neg hlen]
  | powerControl r => exact websocketCallback_power app _
  | forceOta => exact websocketCallback_power app _
  | releaseControl => exact websocketCallback_power app _
  | requireStream | controlLane | nothing => rfl

/-- A device that runs. -/
def bootedApp : App := appMain BootEnv.clean (Cell.settled none)

/-- **Which messages the handler is total on.** A message that decodes is handled by every
running device exactly if it is complete; one that does not decode is dropped. -/
theorem processData_total_iff (message : Option MainMessage) :
    Handled message ↔ ∀ m, message = some m → m.Complete := by
  constructor
  · rintro h m rfl
    rw [← m.faults_iff, Bool.eq_false_iff]
    intro hfaults
    have hrun : (processDispatch m.dispatch bootedApp).power = .running := h bootedApp rfl
    rw [Session.processDispatch_faults hfaults] at hrun
    exact absurd hrun (by decide)
  · intro h app hrun
    cases message with
    | none => exact hrun
    | some m =>
      have hfaults := m.faults_iff.mpr (h m rfl)
      exact (processDispatch_power hfaults app).trans hrun

/-- A register response without a status code, a login response without one, a schedule without
an end, and a cycle with one green time. -/
def sparseMessages : List MainMessage :=
  [ ⟨some ⟨some ⟨some ⟨"d", none⟩, none⟩, none⟩⟩,
    ⟨some ⟨some ⟨none, some ⟨none⟩⟩, none⟩⟩,
    .ofUser { UserDeviceMessage.empty with
      setactivetimedevicerequest := some ⟨some ⟨some ⟨8, 0⟩, none⟩⟩ },
    .ofUser { UserDeviceMessage.empty with
      setcycleconfigdevicerequest := some ⟨2, 3, 2, [30]⟩ } ]

/-- Each of them ends the run of a device that has just booted, so the handler is not total. -/
theorem sparseMessages_fault :
    (∀ m ∈ sparseMessages, (processData (some m) bootedApp).power = .faulted) ∧
      ¬∀ message, Handled message := by
  have hfaults : ∀ m ∈ sparseMessages, m.dispatch.faults = true := by decide
  have hends : ∀ m ∈ sparseMessages, (processData (some m) bootedApp).power = .faulted := by
    intro m hm
    show (processDispatch m.dispatch bootedApp).power = .faulted
    rw [Session.processDispatch_faults (hfaults m hm)]
    rfl
  refine ⟨hends, ?_⟩
  intro hall
  have hrun := hall (some (sparseMessages.headD ⟨none⟩)) bootedApp rfl
  rw [hends _ (by decide)] at hrun
  exact absurd hrun (by decide)

end Lighting
