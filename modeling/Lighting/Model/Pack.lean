import Lighting.Lib.CString
import Lighting.Model.Websocket

/-!
# `main_message__pack` — the client's messages as bytes

The part of `protobuf-c.c` that packs the fields the six builders set, and the six messages by
the field numbers of `main_proto.pb-c.c`, `device_proto.pb-c.c` and `common_proto.pb-c.c`. All
fields are unlabelled: one that is zero, empty or absent is left out, and the others come in
the order of their numbers.

The meter values are `float`s stored in `double` fields. What that makes of their bits is the
processor's, and left open as `widen`.
-/

set_option autoImplicit false

namespace Lighting

open CString

/-! ## `protobuf-c.c` -/

/-- Seven bits a byte, with at most `more` bytes before the last. -/
def packSevens : Nat → Nat → Bytes
  | 0, value => [UInt8.ofNat value]
  | more + 1, value =>
    if value ≥ 0x80 then UInt8.ofNat (value ||| 0x80) :: packSevens more (value >>> 7)
    else [UInt8.ofNat value]

def uint32Pack (value : Nat) : Bytes := packSevens 4 value

/-- A negative number is sign extended to ten bytes. -/
def int32Pack (value : Int) : Bytes :=
  if value < 0 then
    (List.range 5).map (fun i => UInt8.ofNat (value / 2 ^ (7 * i) % 256).toNat ||| 0x80) ++
      [0xff, 0xff, 0xff, 0xff, 0x01]
  else uint32Pack value.toNat

def fixed64Pack (bits : UInt64) : Bytes :=
  (List.range 8).map fun i => UInt8.ofNat (bits.toNat >>> (8 * i))

def wireVarint : UInt8 := 0
def wire64Bit : UInt8 := 1
def wireLengthPrefixed : UInt8 := 2

/-- `required_field_pack`: `tag_pack`, the wire type in its first byte, and the value. -/
def requiredFieldPack (id : Nat) (wireType : UInt8) (value : Bytes) : Bytes :=
  match uint32Pack (id <<< 3) with
  | [] => value
  | first :: rest => (first ||| wireType) :: rest ++ value

def uint32Field (id : Nat) (value : Nat) : Bytes :=
  if value = 0 then [] else requiredFieldPack id wireVarint (uint32Pack value)

def enumField (id : Nat) (value : Int) : Bytes :=
  if value = 0 then [] else requiredFieldPack id wireVarint (int32Pack value)

def boolField (id : Nat) (value : Bool) : Bytes :=
  if value then requiredFieldPack id wireVarint [1] else []

/-- Both zeros of a `double` are zero. -/
def doubleField (id : Nat) (bits : UInt64) : Bytes :=
  if bits.toNat % 2 ^ 63 = 0 then [] else requiredFieldPack id wire64Bit (fixed64Pack bits)

/-- `string_pack` and `prefixed_message_pack`. -/
def prefixed (content : Bytes) : Bytes := uint32Pack content.length ++ content

/-- The bytes of a C string. -/
def stringBytes (s : String) : Bytes := cstr s.toUTF8.data.toList

def stringField (id : Nat) (value : Option String) : Bytes :=
  let content := (value.map stringBytes).getD []
  if content = [] then [] else requiredFieldPack id wireLengthPrefixed (prefixed content)

/-- A sub-message that is there. -/
def messageField (id : Nat) (packed : Bytes) : Bytes :=
  requiredFieldPack id wireLengthPrefixed (prefixed packed)

/-! ## The messages -/

/-- The numeral of a mode. -/
def ControllerMode.toInt : ControllerMode → Int
  | .off => 0
  | .auto => 1
  | .manual => 2
  | .stray raw => wrap32 raw

/-- An `int` stored in an `uint32_t`. -/
def toUint32 (x : Int) : Nat := (x % 2 ^ 32).toNat

/-- `HMTime`. -/
def hmTimePack (hour minute : Int) : Bytes :=
  uint32Field 1 (toUint32 hour) ++ uint32Field 2 (toUint32 minute)

/-- `ActiveLamp`. -/
def activeLampPack (activeTime : ActiveTime) : Bytes :=
  messageField 1 (hmTimePack activeTime.startHour activeTime.startMinute) ++
    messageField 2 (hmTimePack activeTime.endHour activeTime.endMinute)

/-- `UpdateMeterDataDeviceRequest`, after the device id. -/
def meterPack (widen : CFloat → UInt64) (phases : PhasesData) : Bytes :=
  doubleField 2 (widen phases.u1) ++ doubleField 3 (widen phases.u2) ++
  doubleField 4 (widen phases.u3) ++
  doubleField 5 (widen phases.i1) ++ doubleField 6 (widen phases.i2) ++
  doubleField 7 (widen phases.i3) ++
  doubleField 8 (widen phases.p1) ++ doubleField 9 (widen phases.p2) ++
  doubleField 10 (widen phases.p3) ++
  doubleField 11 (widen phases.phy1) ++ doubleField 12 (widen phases.phy2) ++
  doubleField 13 (widen phases.phy3) ++
  doubleField 14 (widen phases.power)

/-- `DeviceUpdateMessage`, with the one request a builder puts into it. -/
def deviceUpdatePack (widen : CFloat → UInt64) (message : UpdateMessage) : Bytes :=
  let deviceid := stringField 1 message.deviceId
  match message.body with
  | .activeTime activeTime =>
    messageField 7 (deviceid ++ messageField 3 (activeLampPack activeTime))
  | .powerState isOn => messageField 12 (deviceid ++ boolField 2 isOn)
  | .mode mode => messageField 13 (deviceid ++ enumField 2 mode.toInt)
  | .meterData phases => messageField 14 (deviceid ++ meterPack widen phases)

/-- `DeviceAuthMessage` with a `DeviceRegisterRequest`. -/
def registerPack (hardwareid firmwareversion cpuimei mantoken : String) (numphase : Nat) : Bytes :=
  messageField 1
    (stringField 1 hardwareid ++ stringField 2 mantoken ++ uint32Field 4 numphase ++
      stringField 5 firmwareversion ++ stringField 6 cpuimei)

/-- `DeviceAuthMessage` with a `DeviceLoginRequest`. -/
def loginPack (deviceid : Option String) (cpuimage : String) : Bytes :=
  messageField 3 (stringField 1 deviceid ++ stringField 2 cpuimage)

/-- `main_message__pack`: the `DeviceMessage` is field 2. -/
def mainMessagePack (widen : CFloat → UInt64) : ClientMessage → Bytes
  | .register hardwareid firmwareversion cpuimei mantoken numphase =>
    messageField 2
      (messageField 1 (registerPack hardwareid firmwareversion cpuimei mantoken numphase))
  | .login deviceid cpuimage => messageField 2 (messageField 1 (loginPack deviceid cpuimage))
  | .update message => messageField 2 (messageField 2 (deviceUpdatePack widen message))

/-- The mode of a device that has no id. -/
example (widen : CFloat → UInt64) : mainMessagePack widen (.update ⟨none, .mode .manual⟩) =
    [18, 6, 18, 4, 106, 2, 16, 2] := rfl

end Lighting
