import Lighting.Lib.Wire
import Lighting.Model.Message

/-!
# `main_proto.proto`, `device_proto.proto`, `common_proto.proto` — the device's messages, read

The messages the device sends, with the numbers and types of their fields as the schema has them:
this is how the server, which has the same schema, takes them apart. A field that is not there is
zero or empty. A string is kept as its bytes, a `double` and a `float` as their bits. Of a message
that the device never sends only the presence is kept.
-/

set_option autoImplicit false

namespace Lighting.Proto

open CString Wire

structure DeviceRegisterRequest where
  hardwareId : Bytes
  manToken : Bytes
  deviceType : Int
  numPhase : UInt32
  firmwareVersion : Bytes
  cpuIMEI : Bytes
  lat : UInt32
  log : UInt32
  gatewayVersion : Bytes
  deriving DecidableEq, Repr

def DeviceRegisterRequest.read (fs : List Field) : Option DeviceRegisterRequest :=
  some {
    hardwareId := getBytes 1 fs
    manToken := getBytes 2 fs
    deviceType := getInt32 3 fs
    numPhase := getUint32 4 fs
    firmwareVersion := getBytes 5 fs
    cpuIMEI := getBytes 6 fs
    lat := getFloat 7 fs
    log := getFloat 8 fs
    gatewayVersion := getBytes 9 fs }

structure DeviceLoginRequest where
  deviceId : Bytes
  cpuImage : Bytes
  deriving DecidableEq, Repr

def DeviceLoginRequest.read (fs : List Field) : Option DeviceLoginRequest :=
  some { deviceId := getBytes 1 fs, cpuImage := getBytes 2 fs }

def readHMTime (fs : List Field) : Option HMTime :=
  some { hour := getUint32 1 fs, minute := getUint32 2 fs }

def readActiveLamp (fs : List Field) : Option ActiveLamp := do
  let beginTime ← getMessage readHMTime 1 fs
  let endTime ← getMessage readHMTime 2 fs
  return { beginTime := beginTime, endTime := endTime }

structure DeviceUpdateScheduleRequest where
  deviceId : Bytes
  numSide : UInt32
  activeTime : Option ActiveLamp
  cycle : Bool
  time : Bool
  days : Bool
  deriving DecidableEq, Repr

def DeviceUpdateScheduleRequest.read (fs : List Field) : Option DeviceUpdateScheduleRequest := do
  let activeTime ← getMessage readActiveLamp 3 fs
  return {
    deviceId := getBytes 1 fs
    numSide := getUint32 2 fs
    activeTime := activeTime
    cycle := (last 4 fs).isSome
    time := (last 5 fs).isSome
    days := (last 6 fs).isSome }

structure UpdatePowerStateDeviceRequest where
  deviceId : Bytes
  isOn : Bool
  deriving DecidableEq, Repr

def UpdatePowerStateDeviceRequest.read (fs : List Field) : Option UpdatePowerStateDeviceRequest :=
  some { deviceId := getBytes 1 fs, isOn := getBool 2 fs }

/-- `mode` is the numeral of a `MTFCMainWorkState`. -/
structure UpdateModeDeviceRequest where
  deviceId : Bytes
  mode : Int
  deriving DecidableEq, Repr

def UpdateModeDeviceRequest.read (fs : List Field) : Option UpdateModeDeviceRequest :=
  some { deviceId := getBytes 1 fs, mode := getInt32 2 fs }

structure UpdateMeterDataDeviceRequest where
  deviceId : Bytes
  v1 : UInt64
  v2 : UInt64
  v3 : UInt64
  i1 : UInt64
  i2 : UInt64
  i3 : UInt64
  p1 : UInt64
  p2 : UInt64
  p3 : UInt64
  a1 : UInt64
  a2 : UInt64
  a3 : UInt64
  power : UInt64
  deriving DecidableEq, Repr

def UpdateMeterDataDeviceRequest.read (fs : List Field) : Option UpdateMeterDataDeviceRequest :=
  some {
    deviceId := getBytes 1 fs
    v1 := getDouble 2 fs
    v2 := getDouble 3 fs
    v3 := getDouble 4 fs
    i1 := getDouble 5 fs
    i2 := getDouble 6 fs
    i3 := getDouble 7 fs
    p1 := getDouble 8 fs
    p2 := getDouble 9 fs
    p3 := getDouble 10 fs
    a1 := getDouble 11 fs
    a2 := getDouble 12 fs
    a3 := getDouble 13 fs
    power := getDouble 14 fs }

structure DeviceAuthMessage where
  deviceRegisterRequest : Option DeviceRegisterRequest
  deviceRegisterResponse : Bool
  deviceLoginRequest : Option DeviceLoginRequest
  deviceLoginResponse : Bool
  deriving DecidableEq, Repr

def DeviceAuthMessage.read (fs : List Field) : Option DeviceAuthMessage := do
  let register ← getMessage DeviceRegisterRequest.read 1 fs
  let login ← getMessage DeviceLoginRequest.read 3 fs
  return {
    deviceRegisterRequest := register
    deviceRegisterResponse := (last 2 fs).isSome
    deviceLoginRequest := login
    deviceLoginResponse := (last 4 fs).isSome }

structure DeviceUpdateMessage where
  deviceLogUpdate : Bool
  stateOnChange : Bool
  deviceUpdateConfigureRequest : Bool
  deviceUpdateConfigureResponse : Bool
  pingWebsocketDeviceRequest : Bool
  pingWebsocketDeviceResponse : Bool
  deviceUpdateScheduleRequest : Option DeviceUpdateScheduleRequest
  deviceUpdateScheduleResponse : Bool
  updateCoordinateDeviceRequest : Bool
  updateCoordinateDeviceResponse : Bool
  announceErrorDeviceRequest : Bool
  updatePowerStateDeviceRequest : Option UpdatePowerStateDeviceRequest
  updateModeDeviceRequest : Option UpdateModeDeviceRequest
  updateMeterDataDeviceRequest : Option UpdateMeterDataDeviceRequest
  deriving DecidableEq, Repr

def DeviceUpdateMessage.read (fs : List Field) : Option DeviceUpdateMessage := do
  let schedule ← getMessage DeviceUpdateScheduleRequest.read 7 fs
  let powerState ← getMessage UpdatePowerStateDeviceRequest.read 12 fs
  let mode ← getMessage UpdateModeDeviceRequest.read 13 fs
  let meterData ← getMessage UpdateMeterDataDeviceRequest.read 14 fs
  return {
    deviceLogUpdate := (last 1 fs).isSome
    stateOnChange := (last 2 fs).isSome
    deviceUpdateConfigureRequest := (last 3 fs).isSome
    deviceUpdateConfigureResponse := (last 4 fs).isSome
    pingWebsocketDeviceRequest := (last 5 fs).isSome
    pingWebsocketDeviceResponse := (last 6 fs).isSome
    deviceUpdateScheduleRequest := schedule
    deviceUpdateScheduleResponse := (last 8 fs).isSome
    updateCoordinateDeviceRequest := (last 9 fs).isSome
    updateCoordinateDeviceResponse := (last 10 fs).isSome
    announceErrorDeviceRequest := (last 11 fs).isSome
    updatePowerStateDeviceRequest := powerState
    updateModeDeviceRequest := mode
    updateMeterDataDeviceRequest := meterData }

structure DeviceMessage where
  deviceAuthMessage : Option DeviceAuthMessage
  deviceUpdateMessage : Option DeviceUpdateMessage
  userDeviceMessage : Bool
  deriving DecidableEq, Repr

def DeviceMessage.read (fs : List Field) : Option DeviceMessage := do
  let auth ← getMessage DeviceAuthMessage.read 1 fs
  let update ← getMessage DeviceUpdateMessage.read 2 fs
  return {
    deviceAuthMessage := auth
    deviceUpdateMessage := update
    userDeviceMessage := (last 3 fs).isSome }

structure MainMessage where
  userMessage : Bool
  deviceMessage : Option DeviceMessage
  deriving DecidableEq, Repr

def MainMessage.read (fs : List Field) : Option MainMessage := do
  let device ← getMessage DeviceMessage.read 2 fs
  return { userMessage := (last 1 fs).isSome, deviceMessage := device }

/-- `MainMessage` from its bytes. -/
def readMain (s : Bytes) : Option MainMessage := (readAll s).bind MainMessage.read

end Lighting.Proto
