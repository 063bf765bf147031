import Lighting.Model.Pack
import Lighting.Model.Proto

/-!
# What the device packs, the server reads

The builders pack by the field numbers of the generated `*.pb-c.c`, the server reads by the
schema. `messages_read_back`: every message is read as what it was built from, and as nothing
else, as long as it is not too long for an `int`. Two things do not travel: whether there is no
device id or an empty one, and the sign of a meter value that is zero.
-/

set_option autoImplicit false

namespace Lighting

open CString Wire

/-! ## Numbers -/

section numbers

theorem toNat_or_0x80 (b : UInt8) : (b ||| 0x80).toNat = b.toNat % 128 + 128 := by
  have hall : ∀ i : Fin 256, i.val ||| 128 = i.val % 128 + 128 := by decide +kernel
  rw [UInt8.toNat_or]
  exact hall ⟨b.toNat, b.toNat_lt⟩

theorem toNat_ofNat_or_0x80 (n : Nat) : (UInt8.ofNat (n ||| 0x80)).toNat = n % 128 + 128 := by
  have hor : UInt8.ofNat (n ||| 0x80) = UInt8.ofNat n ||| 0x80 := by
    apply UInt8.toNat_inj.mp
    rw [UInt8.toNat_or, UInt8.toNat_ofNat', UInt8.toNat_ofNat', Nat.or_mod_two_pow]
    rfl
  rw [hor, toNat_or_0x80, UInt8.toNat_ofNat']
  omega

/-- The low three bits are free. -/
theorem toNat_or_low {b low : UInt8} (hb : b.toNat % 8 = 0) (hlow : low.toNat < 8) :
    (b ||| low).toNat = b.toNat + low.toNat := by
  have heq : b.toNat = 2 ^ 3 * (b.toNat / 8) := by omega
  rw [UInt8.toNat_or, heq, ← Nat.two_pow_add_eq_or_of_lt hlow]

theorem isVarint_packSevens {more value : Nat} (h : value < 128 ^ (more + 1)) :
    IsVarint (packSevens more value) value := by
  induction more generalizing value with
  | zero =>
    have hlt : value < 128 := h
    have hbyte : (UInt8.ofNat value).toNat = value := by
      rw [UInt8.toNat_ofNat']
      omega
    have hlast : IsVarint [UInt8.ofNat value] (UInt8.ofNat value).toNat :=
      IsVarint.last (by rw [hbyte]; exact hlt)
    rwa [hbyte] at hlast
  | succ more ih =>
    unfold packSevens
    split
    · have hshift : value >>> 7 = value / 128 := Nat.shiftRight_eq_div_pow value 7
      have hrest : value / 128 < 128 ^ (more + 1) := by
        rw [Nat.pow_succ] at h
        exact (Nat.div_lt_iff_lt_mul (by decide)).mpr h
      rw [hshift]
      exact IsVarint.more (toNat_ofNat_or_0x80 value) (ih hrest)
    · have hbyte : (UInt8.ofNat value).toNat = value := by
        rw [UInt8.toNat_ofNat']
        omega
      have hlast : IsVarint [UInt8.ofNat value] (UInt8.ofNat value).toNat :=
        IsVarint.last (by omega)
      rwa [hbyte] at hlast

theorem isVarint_uint32Pack {value : Nat} (h : value < 2 ^ 35) :
    IsVarint (uint32Pack value) value :=
  isVarint_packSevens h

/-- The sign of a number below zero fills 64 bits. -/
theorem isVarint_sign : IsVarint [0xff, 0xff, 0xff, 0xff, 0x01] (2 ^ 29 - 1) :=
  .more rfl (.more rfl (.more rfl (.more rfl (.last (by decide)))))

theorem isVarint_int32Pack {value : Int} (hlow : -2 ^ 31 ≤ value) (hhigh : value < 2 ^ 31) :
    IsVarint (int32Pack value) (value % 2 ^ 64).toNat := by
  unfold int32Pack
  split
  · have hu : value = ((value % 2 ^ 64).toNat : Int) - 2 ^ 64 := by omega
    generalize (value % 2 ^ 64).toNat = u at *
    have hbyte : ∀ i : Nat, (UInt8.ofNat (value / 2 ^ (7 * i) % 256).toNat ||| 0x80).toNat =
        (value / 2 ^ (7 * i) % 128).toNat + 128 := by
      intro i
      rw [toNat_or_0x80, UInt8.toNat_ofNat']
      omega
    apply IsVarint.more ((hbyte 0).trans (by simp only [Nat.reduceMul, Int.reducePow]; omega))
    apply IsVarint.more ((hbyte 1).trans (by simp only [Nat.reduceMul, Int.reducePow]; omega))
    apply IsVarint.more ((hbyte 2).trans (by simp only [Nat.reduceMul, Int.reducePow]; omega))
    apply IsVarint.more ((hbyte 3).trans (by simp only [Nat.reduceMul, Int.reducePow]; omega))
    apply IsVarint.more ((hbyte 4).trans (by simp only [Nat.reduceMul, Int.reducePow]; omega))
    have hsign : u / 128 / 128 / 128 / 128 / 128 = 2 ^ 29 - 1 := by omega
    rw [hsign]
    exact isVarint_sign
  · have heq : (value % 2 ^ 64).toNat = value.toNat := by omega
    rw [heq]
    exact isVarint_uint32Pack (by omega)

end numbers

/-! ## Fields -/

section tags

variable {id : Nat} {wireType : UInt8} {value : Bytes}

/-- A field is its tag and its value. -/
def tagPack (id : Nat) (wireType : UInt8) : Bytes := requiredFieldPack id wireType []

theorem requiredFieldPack_eq :
    requiredFieldPack id wireType value = tagPack id wireType ++ value := by
  unfold tagPack requiredFieldPack
  cases uint32Pack (id <<< 3) with
  | nil => rfl
  | cons first rest =>
    show (first ||| wireType) :: (rest ++ value) = (first ||| wireType) :: (rest ++ [] ++ value)
    rw [List.append_nil]

theorem isVarint_tagPack (hid : id < 2 ^ 29) (hkind : wireType.toNat < 8) :
    IsVarint (tagPack id wireType) (8 * id + wireType.toNat) := by
  have hshift : id <<< 3 = 8 * id := by
    rw [Nat.shiftLeft_eq, Nat.mul_comm]
  have hmore := toNat_ofNat_or_0x80 (8 * id)
  have hbyte : (UInt8.ofNat (8 * id)).toNat = 8 * id % 256 := UInt8.toNat_ofNat'
  unfold tagPack requiredFieldPack uint32Pack
  rw [hshift, packSevens]
  split
  · rename_i heq
    split at heq <;> cases heq
  · rename_i first rest heq
    rw [List.append_nil]
    split at heq
    · injection heq with hfirst hrest
      subst hfirst
      subst hrest
      have hdiv : (8 * id) >>> 7 = (8 * id + wireType.toNat) / 128 := by
        rw [Nat.shiftRight_eq_div_pow]
        omega
      rw [hdiv]
      apply IsVarint.more
      · rw [toNat_or_low (by omega) hkind, hmore]
        omega
      · exact isVarint_packSevens (by omega)
    · injection heq with hfirst hrest
      subst hfirst
      subst hrest
      have hvalue : (UInt8.ofNat (8 * id) ||| wireType).toNat = 8 * id + wireType.toNat := by
        rw [toNat_or_low (by omega) hkind]
        omega
      rw [← hvalue]
      exact IsVarint.last (by omega)

end tags

/-- Not too long for an `int`. -/
def Short (s : Bytes) : Prop := s.length < 2 ^ 31

section fields

variable (id : Nat) {s s' : Bytes}

theorem Short.left (h : Short (s ++ s')) : Short s := by
  unfold Short at *
  rw [List.length_append] at h
  omega

theorem Short.right (h : Short (s ++ s')) : Short s' := by
  unfold Short at *
  rw [List.length_append] at h
  omega

theorem Short.of_messageField {id : Nat} (h : Short (messageField id s)) : Short s := by
  unfold messageField prefixed at h
  rw [requiredFieldPack_eq] at h
  exact h.right.right

theorem spells_uint32Field {value : Nat} (hid : id < 2 ^ 29) (hvalue : value < 2 ^ 32) :
    Spells (uint32Field id value) (optional (value = 0) ⟨id, .varint value⟩) := by
  apply Spells.optional
  intro _
  rw [requiredFieldPack_eq]
  exact Spells.varint (isVarint_tagPack hid (by decide)) (isVarint_uint32Pack (by omega))

theorem spells_enumField {value : Int} (hid : id < 2 ^ 29) (hlow : -2 ^ 31 ≤ value)
    (hhigh : value < 2 ^ 31) : Spells (enumField id value)
      (optional (value = 0) ⟨id, .varint (value % 2 ^ 64).toNat⟩) := by
  apply Spells.optional
  intro _
  rw [requiredFieldPack_eq]
  exact Spells.varint (isVarint_tagPack hid (by decide)) (isVarint_int32Pack hlow hhigh)

theorem spells_boolField (value : Bool) (hid : id < 2 ^ 29) :
    Spells (boolField id value) (optional (value = false) ⟨id, .varint 1⟩) := by
  cases value with
  | false => exact Spells.nil
  | true =>
    unfold boolField
    rw [requiredFieldPack_eq]
    exact Spells.varint (isVarint_tagPack hid (by decide)) (IsVarint.last (b := 1) (by decide))

theorem spells_doubleField (bits : UInt64) (hid : id < 2 ^ 29) :
    Spells (doubleField id bits)
      (optional (bits.toNat % 2 ^ 63 = 0) ⟨id, .fixed64 bits.toNat⟩) := by
  apply Spells.optional
  intro _
  rw [requiredFieldPack_eq]
  have hspells := Spells.fixed64 (n := id) (s := fixed64Pack bits)
    (isVarint_tagPack hid (by decide : wire64Bit.toNat < 8)) rfl
  have hlittle : little (fixed64Pack bits) = bits.toNat := by
    unfold fixed64Pack
    rw [little_range]
    exact Nat.mod_eq_of_lt bits.toNat_lt
  rwa [hlittle] at hspells

theorem spells_prefixed (hid : id < 2 ^ 29) (hs : Short s) :
    Spells (requiredFieldPack id wireLengthPrefixed (prefixed s)) [⟨id, .bytes s⟩] := by
  have hlen : s.length < 2 ^ 35 := Nat.lt_trans hs (by decide)
  rw [requiredFieldPack_eq]
  exact Spells.bytes (isVarint_tagPack hid (by decide)) (isVarint_uint32Pack hlen)

theorem spells_messageField (hid : id < 2 ^ 29) (hs : Short (messageField id s)) :
    Spells (messageField id s) [⟨id, .bytes s⟩] :=
  spells_prefixed id hid hs.of_messageField

/-- The bytes of a string that may not be there. -/
def textBytes (value : Option String) : Bytes := (value.map stringBytes).getD []

theorem spells_stringField {value : Option String} (hid : id < 2 ^ 29)
    (hs : Short (stringField id value)) : Spells (stringField id value)
      (optional (textBytes value = []) ⟨id, .bytes (textBytes value)⟩) := by
  apply Spells.optional
  intro hne
  apply spells_prefixed id hid
  unfold stringField at hs
  rw [if_neg hne, requiredFieldPack_eq] at hs
  exact hs.right.right

end fields

/-! ## What a message is about -/

/-- A zero has no sign. -/
def plusZero (bits : UInt64) : UInt64 := if bits.toNat % 2 ^ 63 = 0 then 0 else bits

def hmTimeContent (hour minute : Int) : HMTime :=
  { hour := UInt32.ofNat (toUint32 hour), minute := UInt32.ofNat (toUint32 minute) }

def ActiveTime.content (activeTime : ActiveTime) : ActiveLamp :=
  { beginTime := some (hmTimeContent activeTime.startHour activeTime.startMinute)
    endTime := some (hmTimeContent activeTime.endHour activeTime.endMinute) }

def meterContent (widen : CFloat → UInt64) (deviceId : Option String) (phases : PhasesData) :
    Proto.UpdateMeterDataDeviceRequest where
  deviceId := textBytes deviceId
  v1 := plusZero (widen phases.u1)
  v2 := plusZero (widen phases.u2)
  v3 := plusZero (widen phases.u3)
  i1 := plusZero (widen phases.i1)
  i2 := plusZero (widen phases.i2)
  i3 := plusZero (widen phases.i3)
  p1 := plusZero (widen phases.p1)
  p2 := plusZero (widen phases.p2)
  p3 := plusZero (widen phases.p3)
  a1 := plusZero (widen phases.phy1)
  a2 := plusZero (widen phases.phy2)
  a3 := plusZero (widen phases.phy3)
  power := plusZero (widen phases.power)

/-- An authentication message with no request in it. -/
def noAuth : Proto.DeviceAuthMessage where
  deviceRegisterRequest := none
  deviceRegisterResponse := false
  deviceLoginRequest := none
  deviceLoginResponse := false

/-- An update message with no request in it. -/
def noUpdate : Proto.DeviceUpdateMessage where
  deviceLogUpdate := false
  stateOnChange := false
  deviceUpdateConfigureRequest := false
  deviceUpdateConfigureResponse := false
  pingWebsocketDeviceRequest := false
  pingWebsocketDeviceResponse := false
  deviceUpdateScheduleRequest := none
  deviceUpdateScheduleResponse := false
  updateCoordinateDeviceRequest := false
  updateCoordinateDeviceResponse := false
  announceErrorDeviceRequest := false
  updatePowerStateDeviceRequest := none
  updateModeDeviceRequest := none
  updateMeterDataDeviceRequest := none

/-- The one request of an update message. -/
def UpdateMessage.content (widen : CFloat → UInt64) (message : UpdateMessage) :
    Proto.DeviceUpdateMessage :=
  match message.body with
  | .activeTime activeTime =>
    { noUpdate with
      deviceUpdateScheduleRequest := some {
        deviceId := textBytes message.deviceId
        numSide := 0
        activeTime := some activeTime.content
        cycle := false
        time := false
        days := false } }
  | .powerState isOn =>
    { noUpdate with updatePowerStateDeviceRequest := some ⟨textBytes message.deviceId, isOn⟩ }
  | .mode mode =>
    { noUpdate with updateModeDeviceRequest := some ⟨textBytes message.deviceId, mode.toInt⟩ }
  | .meterData phases =>
    { noUpdate with
      updateMeterDataDeviceRequest := some (meterContent widen message.deviceId phases) }

def ClientMessage.request (widen : CFloat → UInt64) : ClientMessage → Proto.DeviceMessage
  | .register hardwareid firmwareversion cpuimei mantoken numphase =>
    { deviceAuthMessage := some { noAuth with
        deviceRegisterRequest := some {
          hardwareId := textBytes hardwareid
          manToken := textBytes mantoken
          deviceType := 0
          numPhase := UInt32.ofNat numphase
          firmwareVersion := textBytes firmwareversion
          cpuIMEI := textBytes cpuimei
          lat := 0
          log := 0
          gatewayVersion := [] } }
      deviceUpdateMessage := none
      userDeviceMessage := false }
  | .login deviceid cpuimage =>
    { deviceAuthMessage := some { noAuth with
        deviceLoginRequest := some ⟨textBytes deviceid, textBytes cpuimage⟩ }
      deviceUpdateMessage := none
      userDeviceMessage := false }
  | .update message =>
    { deviceAuthMessage := none
      deviceUpdateMessage := some (message.content widen)
      userDeviceMessage := false }

/-- What the server is to read. -/
def ClientMessage.content (widen : CFloat → UInt64) (message : ClientMessage) : Proto.MainMessage :=
  { userMessage := false, deviceMessage := some (message.request widen) }

/-- The values have the types of the generated structures. -/
def ClientMessage.Typed : ClientMessage → Prop
  | .register _ _ _ _ numphase => numphase < 2 ^ 32
  | _ => True

/-! ## Reading a message -/

/-- The bytes read as a message. -/
def Reads {α : Type*} (read : List Field → Option α) (s : Bytes) (a : α) : Prop :=
  (readAll s).bind read = some a

section getters

variable {n : Nat} {fs : List Field} {s : Bytes}

theorem reads_of_spells {α : Type*} {read : List Field → Option α} {a : α} (hs : Spells s fs)
    (hread : read fs = some a) : Reads read s a := by
  unfold Reads
  rw [hs.readAll]
  exact hread

theorem getNat_of_last {v : Nat} (h : last n fs = if v = 0 then none else some (.varint v)) :
    getNat n fs = v := by
  unfold getNat
  rw [h]
  split
  · rename_i heq
    split at heq <;> cases heq
    rfl
  · rename_i hnone
    by_contra hne
    exact hnone v (if_neg fun hv => hne hv.symm)

theorem getBytes_of_last {b : Bytes}
    (h : last n fs = if b = [] then none else some (.bytes b)) :
    getBytes n fs = b := by
  unfold getBytes
  rw [h]
  split
  · rename_i heq
    split at heq <;> cases heq
    rfl
  · rename_i hnone
    by_contra hne
    exact hnone b (if_neg fun hcontent => hne hcontent.symm)

theorem getDouble_of_last {b : UInt64}
    (h : last n fs = if b.toNat % 2 ^ 63 = 0 then none else some (.fixed64 b.toNat)) :
    getDouble n fs = plusZero b := by
  unfold getDouble plusZero
  rw [h]
  split
  · rename_i heq
    split at heq <;> cases heq
    rename_i hzero
    rw [if_neg hzero]
    exact UInt64.ofNat_toNat
  · rename_i hnone
    rw [if_pos]
    by_contra hne
    exact hnone b.toNat (if_neg hne)

theorem getMessage_of_last {α : Type*} {read : List Field → Option α} {a : α}
    (h : last n fs = some (.bytes s)) (hread : Reads read s a) :
    getMessage read n fs = some (some a) := by
  unfold getMessage
  rw [h]
  dsimp only
  rw [hread]
  rfl

end getters

section messages

variable {widen : CFloat → UInt64}

theorem toUint32_lt (x : Int) : toUint32 x < 2 ^ 32 := by
  unfold toUint32
  omega

theorem reads_hmTime (hour minute : Int) :
    Reads Proto.readHMTime (hmTimePack hour minute) (hmTimeContent hour minute) := by
  have hspells : Spells (hmTimePack hour minute) _ :=
    (spells_uint32Field 1 (by decide) (toUint32_lt hour)).append
      (spells_uint32Field 2 (by decide) (toUint32_lt minute))
  apply reads_of_spells hspells
  unfold Proto.readHMTime getUint32
  rw [getNat_of_last (n := 1) (v := toUint32 hour) (by simp),
    getNat_of_last (n := 2) (v := toUint32 minute) (by simp)]
  rfl

theorem reads_activeLamp {activeTime : ActiveTime} (hs : Short (activeLampPack activeTime)) :
    Reads Proto.readActiveLamp (activeLampPack activeTime) activeTime.content := by
  have hspells : Spells (activeLampPack activeTime) _ :=
    (spells_messageField 1 (by decide) hs.left).append
      (spells_messageField 2 (by decide) hs.right)
  apply reads_of_spells hspells
  unfold Proto.readActiveLamp
  rw [getMessage_of_last (by simp; rfl) (reads_hmTime _ _),
    getMessage_of_last (by simp; rfl) (reads_hmTime _ _)]
  rfl

theorem reads_schedule {deviceId : Option String} {activeTime : ActiveTime}
    (hs : Short (stringField 1 deviceId ++ messageField 3 (activeLampPack activeTime))) :
    Reads Proto.DeviceUpdateScheduleRequest.read
      (stringField 1 deviceId ++ messageField 3 (activeLampPack activeTime))
      ⟨textBytes deviceId, 0, some activeTime.content, false, false, false⟩ := by
  have hspells := (spells_stringField 1 (by decide) hs.left).append
    (spells_messageField 3 (by decide) hs.right)
  apply reads_of_spells hspells
  unfold Proto.DeviceUpdateScheduleRequest.read
  rw [getMessage_of_last (by simp) (reads_activeLamp hs.right.of_messageField),
    getBytes_of_last (n := 1) (b := textBytes deviceId) (by simp), getUint32_none (by simp)]
  simp

theorem reads_powerState {deviceId : Option String} {isOn : Bool}
    (hs : Short (stringField 1 deviceId ++ boolField 2 isOn)) :
    Reads Proto.UpdatePowerStateDeviceRequest.read (stringField 1 deviceId ++ boolField 2 isOn)
      ⟨textBytes deviceId, isOn⟩ := by
  have hspells := (spells_stringField 1 (by decide) hs.left).append
    (spells_boolField 2 isOn (by decide))
  apply reads_of_spells hspells
  unfold Proto.UpdatePowerStateDeviceRequest.read
  rw [getBytes_of_last (n := 1) (b := textBytes deviceId) (by simp)]
  cases isOn <;> simp [getBool, getNat]

theorem toInt_bounds (mode : ControllerMode) : -2 ^ 31 ≤ mode.toInt ∧ mode.toInt < 2 ^ 31 := by
  cases mode with
  | stray raw =>
    show -2 ^ 31 ≤ wrap32 raw ∧ wrap32 raw < 2 ^ 31
    unfold wrap32
    omega
  | _ => decide

/-- The low half of the 64 bits of an `int32` is the number. -/
theorem bmod_int64 {value : Int} (hlow : -2 ^ 31 ≤ value) (hhigh : value < 2 ^ 31) :
    ((value % 2 ^ 64).toNat : Int).bmod (2 ^ 32) = value := by
  have hsize : ((2 ^ 32 : Nat) : Int) = 2 ^ 32 := rfl
  rw [Int.bmod_def, hsize]
  omega

theorem reads_mode {deviceId : Option String} {mode : ControllerMode}
    (hs : Short (stringField 1 deviceId ++ enumField 2 mode.toInt)) :
    Reads Proto.UpdateModeDeviceRequest.read (stringField 1 deviceId ++ enumField 2 mode.toInt)
      ⟨textBytes deviceId, mode.toInt⟩ := by
  obtain ⟨hlow, hhigh⟩ := toInt_bounds mode
  have hspells := (spells_stringField 1 (by decide) hs.left).append
    (spells_enumField 2 (by decide) hlow hhigh)
  apply reads_of_spells hspells
  have hzero : (mode.toInt % 2 ^ 64).toNat = 0 ↔ mode.toInt = 0 := by omega
  unfold Proto.UpdateModeDeviceRequest.read getInt32
  rw [getBytes_of_last (n := 1) (b := textBytes deviceId) (by simp),
    getNat_of_last (n := 2) (v := (mode.toInt % 2 ^ 64).toNat)
      (by rw [if_congr hzero rfl rfl]; simp), bmod_int64 hlow hhigh]

theorem reads_meterData {deviceId : Option String} {phases : PhasesData}
    (hs : Short (stringField 1 deviceId ++ meterPack widen phases)) :
    Reads Proto.UpdateMeterDataDeviceRequest.read
      (stringField 1 deviceId ++ meterPack widen phases) (meterContent widen deviceId phases) := by
  have hphases : Spells (meterPack widen phases) _ :=
    ((((((((((((spells_doubleField 2 (widen phases.u1) (by decide)).append
      (spells_doubleField 3 (widen phases.u2) (by decide))).append
      (spells_doubleField 4 (widen phases.u3) (by decide))).append
      (spells_doubleField 5 (widen phases.i1) (by decide))).append
      (spells_doubleField 6 (widen phases.i2) (by decide))).append
      (spells_doubleField 7 (widen phases.i3) (by decide))).append
      (spells_doubleField 8 (widen phases.p1) (by decide))).append
      (spells_doubleField 9 (widen phases.p2) (by decide))).append
      (spells_doubleField 10 (widen phases.p3) (by decide))).append
      (spells_doubleField 11 (widen phases.phy1) (by decide))).append
      (spells_doubleField 12 (widen phases.phy2) (by decide))).append
      (spells_doubleField 13 (widen phases.phy3) (by decide))).append
      (spells_doubleField 14 (widen phases.power) (by decide))
  apply reads_of_spells ((spells_stringField 1 (by decide) hs.left).append hphases)
  unfold Proto.UpdateMeterDataDeviceRequest.read meterContent
  rw [getBytes_of_last (n := 1) (b := textBytes deviceId) (by simp),
    getDouble_of_last (n := 2) (b := widen phases.u1) (by simp),
    getDouble_of_last (n := 3) (b := widen phases.u2) (by simp),
    getDouble_of_last (n := 4) (b := widen phases.u3) (by simp),
    getDouble_of_last (n := 5) (b := widen phases.i1) (by simp),
    getDouble_of_last (n := 6) (b := widen phases.i2) (by simp),
    getDouble_of_last (n := 7) (b := widen phases.i3) (by simp),
    getDouble_of_last (n := 8) (b := widen phases.p1) (by simp),
    getDouble_of_last (n := 9) (b := widen phases.p2) (by simp),
    getDouble_of_last (n := 10) (b := widen phases.p3) (by simp),
    getDouble_of_last (n := 11) (b := widen phases.phy1) (by simp),
    getDouble_of_last (n := 12) (b := widen phases.phy2) (by simp),
    getDouble_of_last (n := 13) (b := widen phases.phy3) (by simp),
    getDouble_of_last (n := 14) (b := widen phases.power) (by simp)]

theorem reads_update {message : UpdateMessage} (hs : Short (deviceUpdatePack widen message)) :
    Reads Proto.DeviceUpdateMessage.read (deviceUpdatePack widen message)
      (message.content widen) := by
  obtain ⟨deviceId, body⟩ := message
  cases body with
  | activeTime activeTime =>
    apply reads_of_spells (spells_messageField 7 (by decide) hs)
    unfold Proto.DeviceUpdateMessage.read
    rw [getMessage_of_last last_self (reads_schedule hs.of_messageField)]
    simp [getMessage_none, UpdateMessage.content, noUpdate]
  | powerState isOn =>
    apply reads_of_spells (spells_messageField 12 (by decide) hs)
    unfold Proto.DeviceUpdateMessage.read
    rw [getMessage_of_last last_self (reads_powerState hs.of_messageField)]
    simp [getMessage_none, UpdateMessage.content, noUpdate]
  | mode mode =>
    apply reads_of_spells (spells_messageField 13 (by decide) hs)
    unfold Proto.DeviceUpdateMessage.read
    rw [getMessage_of_last last_self (reads_mode hs.of_messageField)]
    simp [getMessage_none, UpdateMessage.content, noUpdate]
  | meterData phases =>
    apply reads_of_spells (spells_messageField 14 (by decide) hs)
    unfold Proto.DeviceUpdateMessage.read
    rw [getMessage_of_last last_self (reads_meterData hs.of_messageField)]
    simp [getMessage_none, UpdateMessage.content, noUpdate]

theorem reads_registerRequest {hardwareid firmwareversion cpuimei mantoken : String}
    {numphase : Nat} (hnumphase : numphase < 2 ^ 32)
    (hs : Short (stringField 1 hardwareid ++ stringField 2 mantoken ++ uint32Field 4 numphase ++
      stringField 5 firmwareversion ++ stringField 6 cpuimei)) :
    Reads Proto.DeviceRegisterRequest.read
      (stringField 1 hardwareid ++ stringField 2 mantoken ++ uint32Field 4 numphase ++
        stringField 5 firmwareversion ++ stringField 6 cpuimei)
      ⟨textBytes hardwareid, textBytes mantoken, 0, UInt32.ofNat numphase,
        textBytes firmwareversion, textBytes cpuimei, 0, 0, []⟩ := by
  have hspells := ((((spells_stringField 1 (by decide) hs.left.left.left.left).append
    (spells_stringField 2 (by decide) hs.left.left.left.right)).append
    (spells_uint32Field 4 (by decide) hnumphase)).append
    (spells_stringField 5 (by decide) hs.left.right)).append
    (spells_stringField 6 (by decide) hs.right)
  apply reads_of_spells hspells
  unfold Proto.DeviceRegisterRequest.read getUint32
  rw [getBytes_of_last (n := 1) (b := textBytes hardwareid) (by simp),
    getBytes_of_last (n := 2) (b := textBytes mantoken) (by simp),
    getNat_of_last (n := 4) (v := numphase) (by simp),
    getBytes_of_last (n := 5) (b := textBytes firmwareversion) (by simp),
    getBytes_of_last (n := 6) (b := textBytes cpuimei) (by simp), getInt32_none (by simp),
    getFloat_none (by simp), getFloat_none (by simp), getBytes_none (by simp)]

theorem reads_loginRequest {deviceid : Option String} {cpuimage : String}
    (hs : Short (stringField 1 deviceid ++ stringField 2 cpuimage)) :
    Reads Proto.DeviceLoginRequest.read (stringField 1 deviceid ++ stringField 2 cpuimage)
      ⟨textBytes deviceid, textBytes cpuimage⟩ := by
  apply reads_of_spells ((spells_stringField 1 (by decide) hs.left).append
    (spells_stringField 2 (by decide) hs.right))
  unfold Proto.DeviceLoginRequest.read
  rw [getBytes_of_last (n := 1) (b := textBytes deviceid) (by simp),
    getBytes_of_last (n := 2) (b := textBytes cpuimage) (by simp)]

/-- A request is packed into a `DeviceMessage`, and that into a `MainMessage`. -/
theorem reads_main {packed : Bytes} {request : Proto.DeviceMessage}
    (hs : Short (messageField 2 packed))
    (hread : Reads Proto.DeviceMessage.read packed request) :
    Proto.readMain (messageField 2 packed) = some ⟨false, some request⟩ := by
  apply reads_of_spells (spells_messageField 2 (by decide) hs)
  unfold Proto.MainMessage.read
  rw [getMessage_of_last last_self hread]
  simp

theorem reads_auth {packed : Bytes} {auth : Proto.DeviceAuthMessage}
    (hs : Short (messageField 1 packed))
    (hread : Reads Proto.DeviceAuthMessage.read packed auth) :
    Reads Proto.DeviceMessage.read (messageField 1 packed) ⟨some auth, none, false⟩ := by
  apply reads_of_spells (spells_messageField 1 (by decide) hs)
  unfold Proto.DeviceMessage.read
  rw [getMessage_of_last last_self hread]
  simp [getMessage_none]

end messages

/-- **What the device packs, the server reads**: every message that is not too long for an `int`
is read as what it was built from, and as nothing else. -/
theorem messages_read_back (widen : CFloat → UInt64) (message : ClientMessage)
    (htyped : message.Typed) (hshort : (mainMessagePack widen message).length < 2 ^ 31) :
    Proto.readMain (mainMessagePack widen message) = some (message.content widen) := by
  have hs : Short (mainMessagePack widen message) := hshort
  cases message with
  | register hardwareid firmwareversion cpuimei mantoken numphase =>
    have hauth := hs.of_messageField
    apply reads_main hs
    apply reads_auth hauth
    have hrequest := hauth.of_messageField
    apply reads_of_spells (spells_messageField 1 (by decide) hrequest)
    unfold Proto.DeviceAuthMessage.read
    rw [getMessage_of_last last_self (reads_registerRequest htyped hrequest.of_messageField)]
    simp [getMessage_none, noAuth]
  | login deviceid cpuimage =>
    have hauth := hs.of_messageField
    apply reads_main hs
    apply reads_auth hauth
    have hrequest := hauth.of_messageField
    apply reads_of_spells (spells_messageField 3 (by decide) hrequest)
    unfold Proto.DeviceAuthMessage.read
    rw [getMessage_of_last last_self (reads_loginRequest hrequest.of_messageField)]
    simp [getMessage_none, noAuth]
  | update message =>
    have hupdate := hs.of_messageField
    apply reads_main hs
    apply reads_of_spells (spells_messageField 2 (by decide) hupdate)
    unfold Proto.DeviceMessage.read
    rw [getMessage_of_last last_self (reads_update hupdate.of_messageField)]
    simp [getMessage_none, ClientMessage.request]

theorem messages_read_back_stray :
    Proto.readMain (mainMessagePack UInt32.toUInt64 (.update ⟨none, .mode (.stray 4294967295)⟩)) =
      some (ClientMessage.content UInt32.toUInt64 (.update ⟨none, .mode (.stray 4294967295)⟩)) :=
  messages_read_back UInt32.toUInt64 (.update ⟨none, .mode (.stray 4294967295)⟩) trivial
    (by decide +kernel)

end Lighting
