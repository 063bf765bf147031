import Lighting.Model.Common

/-!
# `MainMessage` — what the server sends, and how `_process_data` takes it apart

`main_message__unpack` builds a tree of optional sub-messages. The structures below hold the
part of that tree `_process_data` looks at: an absent sub-message is `none`, an absent string
is empty, a sub-message of which only the presence counts is a `Bool`.

`dispatch` is the `if … else if …` chain of `_process_data`. The chain tests the outer levels
only; what a branch then dereferences without a test stays optional here
(`DeviceRegisterResponse.statuscode`, `ActiveLamp.beginTime`, …).
-/

set_option autoImplicit false

namespace Lighting

structure StatusCode where
  message : String
  code : UInt32
  deriving DecidableEq, Repr

structure DeviceRegisterResponse where
  deviceid : String
  statuscode : Option StatusCode
  deriving DecidableEq, Repr

structure DeviceLoginResponse where
  statuscode : Option StatusCode
  deriving DecidableEq, Repr

structure DeviceAuthMessage where
  deviceregisterresponse : Option DeviceRegisterResponse
  deviceloginresponse : Option DeviceLoginResponse
  deriving DecidableEq, Repr

structure PowerControlUserRequest where
  ispoweron : Bool
  deriving DecidableEq, Repr

structure HMTime where
  hour : UInt32
  minute : UInt32
  deriving DecidableEq, Repr

structure ActiveLamp where
  beginTime : Option HMTime
  endTime : Option HMTime
  deriving DecidableEq, Repr

structure SetActiveTimeDeviceRequest where
  activelamp : Option ActiveLamp
  deriving DecidableEq, Repr

structure SetCycleConfigDeviceRequest where
  numphase : UInt32
  yellowtime : UInt32
  clearancetime : UInt32
  greentime : List UInt32
  deriving DecidableEq, Repr

structure UserDeviceMessage where
  powercontroluserrequest : Option PowerControlUserRequest
  requirestreamdevicerequest : Bool
  controllanedevicerequest : Bool
  setactivetimedevicerequest : Option SetActiveTimeDeviceRequest
  setcycleconfigdevicerequest : Option SetCycleConfigDeviceRequest
  forceotaupdateuserrequest : Bool
  releasecontroluserrequest : Bool
  deriving DecidableEq, Repr

structure DeviceMessage where
  deviceauthmessage : Option DeviceAuthMessage
  userdevicemessage : Option UserDeviceMessage
  deriving DecidableEq, Repr

structure MainMessage where
  devicemessage : Option DeviceMessage
  deriving DecidableEq, Repr

/-- A `UserDeviceMessage` with nothing in it. -/
def UserDeviceMessage.empty : UserDeviceMessage := ⟨none, false, false, none, none, false, false⟩

/-! ## The chain of `_process_data` -/

/-- `mainMessage->devicemessage->deviceauthmessage`, if both are there. -/
def MainMessage.auth? (m : MainMessage) : Option DeviceAuthMessage :=
  m.devicemessage.bind DeviceMessage.deviceauthmessage

/-- `mainMessage->devicemessage->userdevicemessage`, if both are there. -/
def MainMessage.userDevice? (m : MainMessage) : Option UserDeviceMessage :=
  m.devicemessage.bind DeviceMessage.userdevicemessage

/-- The branch of `_process_data` a message takes, with the sub-message the branch works on. -/
inductive Dispatch where
  | registerResponse (r : DeviceRegisterResponse)
  | loginResponse (r : DeviceLoginResponse)
  | powerControl (r : PowerControlUserRequest)
  | requireStream
  | controlLane
  | setActiveTime (r : SetActiveTimeDeviceRequest)
  | setCycleConfig (r : SetCycleConfigDeviceRequest)
  | forceOta
  | releaseControl
  | nothing
  deriving DecidableEq, Repr

/-- The chain of tests on the user part of the message, after the two responses. -/
def UserDeviceMessage.dispatch (u : UserDeviceMessage) : Dispatch :=
  match u.powercontroluserrequest with
  | some r => .powerControl r
  | none =>
    if u.requirestreamdevicerequest then .requireStream
    else if u.controllanedevicerequest then .controlLane
    else
      match u.setactivetimedevicerequest with
      | some r => .setActiveTime r
      | none =>
        match u.setcycleconfigdevicerequest with
        | some r => .setCycleConfig r
        | none =>
          if u.forceotaupdateuserrequest then .forceOta
          else if u.releasecontroluserrequest then .releaseControl
          else .nothing

/-- The whole chain. -/
def MainMessage.dispatch (m : MainMessage) : Dispatch :=
  match m.auth?.bind DeviceAuthMessage.deviceregisterresponse with
  | some r => .registerResponse r
  | none =>
    match m.auth?.bind DeviceAuthMessage.deviceloginresponse with
    | some r => .loginResponse r
    | none =>
      match m.userDevice? with
      | some u => u.dispatch
      | none => .nothing

/-- The `active_time_t` of a `SetActiveTimeDeviceRequest`: four `uint32_t` stored in an `int`
each. `none` is a `NULL` dereference. -/
def SetActiveTimeDeviceRequest.activeTime? (r : SetActiveTimeDeviceRequest) :
    Option ActiveTime := do
  let lamp ← r.activelamp
  let first ← lamp.beginTime
  let last ← lamp.endTime
  some
    { startHour := wrap32 first.hour.toNat
      startMinute := wrap32 first.minute.toNat
      endHour := wrap32 last.hour.toNat
      endMinute := wrap32 last.minute.toNat }

/-! ## Messages built by name -/

/-- A message with one user request. -/
def MainMessage.ofUser (u : UserDeviceMessage) : MainMessage := ⟨some ⟨none, some u⟩⟩

/-- The server's power control. -/
def MainMessage.powerControl (isOn : Bool) : MainMessage :=
  .ofUser { UserDeviceMessage.empty with powercontroluserrequest := some ⟨isOn⟩ }

/-- The server's release. -/
def MainMessage.releaseControl : MainMessage :=
  .ofUser { UserDeviceMessage.empty with releasecontroluserrequest := true }

/-- The server's new schedule. -/
def MainMessage.setActiveTime (first last : HMTime) : MainMessage :=
  .ofUser { UserDeviceMessage.empty with
    setactivetimedevicerequest := some ⟨some ⟨some first, some last⟩⟩ }

/-- A login response with a status code. -/
def MainMessage.loginResponse (code : UInt32) : MainMessage :=
  ⟨some ⟨some ⟨none, some ⟨some ⟨"", code⟩⟩⟩, none⟩⟩

theorem SetActiveTimeDeviceRequest.activeTime?_some (first last : HMTime) :
    SetActiveTimeDeviceRequest.activeTime? ⟨some ⟨some first, some last⟩⟩ = some
      { startHour := wrap32 first.hour.toNat
        startMinute := wrap32 first.minute.toNat
        endHour := wrap32 last.hour.toNat
        endMinute := wrap32 last.minute.toNat } := rfl

@[simp] theorem MainMessage.dispatch_setActiveTime (first last : HMTime) :
    (MainMessage.setActiveTime first last).dispatch =
      .setActiveTime ⟨some ⟨some first, some last⟩⟩ := rfl

end Lighting
