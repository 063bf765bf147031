import Lighting.Queue.Tasks
import Lighting.Session.Parties
import Lighting.Session.ReadBack

/-!
# Room for what is packed

`main_message__pack` is given no size: whether a message has room in `ws_tx_buffer` is up to what
it is built from. That is a device id, which has come through `rx_rb`, and the ring buffer takes
no item larger than nearly half of its size. So no message runs over the buffer
(`tx_buffer_holds`).

`tx_rb` has less room than `ws_tx_buffer`, and its own limit. An update for a device id of a
reasonable length is below it, and is taken whenever nothing else is in there (`update_taken`).
-/

set_option autoImplicit false

namespace Lighting

open CString ByteMemory Runs Wire

/-- `WS_BUFFER_SIZE`. -/
def wsBufferSize : Nat := 1024 * 5

/-- `DEFAULT_MESH_RINGBUFFER_SIZE`. -/
def meshRingbufferSize : Nat := 4 * 1024

/-! ## How long a message is -/

section lengths

theorem length_packSevens_le (more value : Nat) : (packSevens more value).length ≤ more + 1 := by
  induction more generalizing value with
  | zero => exact Nat.le_refl 1
  | succ more ih =>
    unfold packSevens
    split
    · exact Nat.succ_le_succ (ih _)
    · exact Nat.succ_le_succ (Nat.zero_le _)

theorem length_uint32Pack_le (value : Nat) : (uint32Pack value).length ≤ 5 :=
  length_packSevens_le 4 value

/-- A tag is one byte, as long as the number of the field is small. -/
theorem length_tagPack {id : Nat} (hid : id < 16) (wireType : UInt8) :
    (tagPack id wireType).length = 1 := by
  have hsmall : ¬id <<< 3 ≥ 0x80 := by
    rw [Nat.shiftLeft_eq]
    omega
  unfold tagPack requiredFieldPack uint32Pack packSevens
  rw [if_neg hsmall]
  rfl

theorem length_int32Pack_le (value : Int) : (int32Pack value).length ≤ 10 := by
  have hpack := length_uint32Pack_le value.toNat
  unfold int32Pack
  split
  · exact Nat.le_refl 10
  · omega

variable {id : Nat}

theorem length_requiredFieldPack (hid : id < 16) (wireType : UInt8) (value : Bytes) :
    (requiredFieldPack id wireType value).length = 1 + value.length := by
  rw [requiredFieldPack_eq, List.length_append, length_tagPack hid]

theorem length_prefixed_le (hid : id < 16) (s : Bytes) :
    (requiredFieldPack id wireLengthPrefixed (prefixed s)).length ≤ s.length + 6 := by
  have hpack := length_uint32Pack_le s.length
  have hlen : (prefixed s).length = (uint32Pack s.length).length + s.length := List.length_append
  rw [length_requiredFieldPack hid]
  omega

theorem length_messageField_le (hid : id < 16) (s : Bytes) :
    (messageField id s).length ≤ s.length + 6 :=
  length_prefixed_le hid s

theorem length_stringField_le (hid : id < 16) (value : Option String) :
    (stringField id value).length ≤ (textBytes value).length + 6 := by
  unfold stringField
  dsimp only
  split
  · exact Nat.zero_le _
  · exact length_prefixed_le hid _

theorem length_uint32Field_le (hid : id < 16) (value : Nat) :
    (uint32Field id value).length ≤ 6 := by
  have hpack := length_uint32Pack_le value
  unfold uint32Field
  split
  · exact Nat.zero_le _
  · rw [length_requiredFieldPack hid]
    omega

theorem length_enumField_le (hid : id < 16) (value : Int) : (enumField id value).length ≤ 11 := by
  have hpack := length_int32Pack_le value
  unfold enumField
  split
  · exact Nat.zero_le _
  · rw [length_requiredFieldPack hid]
    omega

theorem length_boolField_le (hid : id < 16) (value : Bool) : (boolField id value).length ≤ 2 := by
  unfold boolField
  split
  · rw [length_requiredFieldPack hid]
    exact Nat.le_refl 2
  · exact Nat.zero_le _

theorem length_doubleField_le (hid : id < 16) (bits : UInt64) :
    (doubleField id bits).length ≤ 9 := by
  unfold doubleField
  split
  · exact Nat.zero_le _
  · rw [length_requiredFieldPack hid]
    exact Nat.le_refl 9

end lengths

section messages

variable (widen : CFloat → UInt64)

theorem length_hmTimePack_le (hour minute : Int) : (hmTimePack hour minute).length ≤ 12 := by
  have hhour := length_uint32Field_le (show 1 < 16 by decide) (toUint32 hour)
  have hminute := length_uint32Field_le (show 2 < 16 by decide) (toUint32 minute)
  unfold hmTimePack
  rw [List.length_append]
  omega

theorem length_activeLampPack_le (activeTime : ActiveTime) :
    (activeLampPack activeTime).length ≤ 36 := by
  have hbegin := length_messageField_le (show 1 < 16 by decide)
    (hmTimePack activeTime.startHour activeTime.startMinute)
  have hend := length_messageField_le (show 2 < 16 by decide)
    (hmTimePack activeTime.endHour activeTime.endMinute)
  have hstart := length_hmTimePack_le activeTime.startHour activeTime.startMinute
  have hstop := length_hmTimePack_le activeTime.endHour activeTime.endMinute
  unfold activeLampPack
  rw [List.length_append]
  omega

theorem length_meterPack_le (phases : PhasesData) : (meterPack widen phases).length ≤ 117 := by
  have hfield : ∀ id, id < 16 → ∀ value, (doubleField id (widen value)).length ≤ 9 :=
    fun id hid value => length_doubleField_le hid (widen value)
  have h2 := hfield 2 (by decide) phases.u1
  have h3 := hfield 3 (by decide) phases.u2
  have h4 := hfield 4 (by decide) phases.u3
  have h5 := hfield 5 (by decide) phases.i1
  have h6 := hfield 6 (by decide) phases.i2
  have h7 := hfield 7 (by decide) phases.i3
  have h8 := hfield 8 (by decide) phases.p1
  have h9 := hfield 9 (by decide) phases.p2
  have h10 := hfield 10 (by decide) phases.p3
  have h11 := hfield 11 (by decide) phases.phy1
  have h12 := hfield 12 (by decide) phases.phy2
  have h13 := hfield 13 (by decide) phases.phy3
  have h14 := hfield 14 (by decide) phases.power
  unfold meterPack
  simp only [List.length_append]
  omega

theorem length_request_le {id : Nat} (hid : id < 16) (deviceId : Option String) {rest : Bytes}
    (hrest : rest.length ≤ 117) :
    (messageField id (stringField 1 deviceId ++ rest)).length ≤
      (textBytes deviceId).length + 129 := by
  have hfield := length_messageField_le hid (stringField 1 deviceId ++ rest)
  have hstring := length_stringField_le (show 1 < 16 by decide) deviceId
  rw [List.length_append] at hfield
  omega

theorem length_update_le (message : UpdateMessage) :
    (mainMessagePack widen (.update message)).length ≤
      (textBytes message.deviceId).length + 141 := by
  have hupdate : (deviceUpdatePack widen message).length ≤
      (textBytes message.deviceId).length + 129 := by
    obtain ⟨deviceId, body⟩ := message
    cases body with
    | activeTime activeTime =>
      have hlamp := length_activeLampPack_le activeTime
      have hfield := length_messageField_le (show 3 < 16 by decide) (activeLampPack activeTime)
      exact length_request_le (by decide) deviceId (by omega)
    | powerState isOn =>
      have hfield := length_boolField_le (show 2 < 16 by decide) isOn
      exact length_request_le (by decide) deviceId (by omega)
    | mode mode =>
      have hfield := length_enumField_le (show 2 < 16 by decide) mode.toInt
      exact length_request_le (by decide) deviceId (by omega)
    | meterData phases =>
      exact length_request_le (by decide) deviceId (length_meterPack_le widen phases)
  have hinner := length_messageField_le (show 2 < 16 by decide) (deviceUpdatePack widen message)
  have houter := length_messageField_le (show 2 < 16 by decide)
    (messageField 2 (deviceUpdatePack widen message))
  show (messageField 2 (messageField 2 (deviceUpdatePack widen message))).length ≤ _
  omega

theorem length_register_le (hardwareid firmwareversion cpuimei mantoken : String) (numphase : Nat) :
    (mainMessagePack widen
        (.register hardwareid firmwareversion cpuimei mantoken numphase)).length ≤
      (textBytes hardwareid).length + (textBytes firmwareversion).length +
        (textBytes cpuimei).length + (textBytes mantoken).length + 48 := by
  have hstring : ∀ id, id < 16 → ∀ value : String,
      (stringField id value).length ≤ (textBytes value).length + 6 :=
    fun id hid value => length_stringField_le hid value
  have h1 := hstring 1 (by decide) hardwareid
  have h2 := hstring 2 (by decide) mantoken
  have h4 := length_uint32Field_le (show 4 < 16 by decide) numphase
  have h5 := hstring 5 (by decide) firmwareversion
  have h6 := hstring 6 (by decide) cpuimei
  have hrequest := length_messageField_le (show 1 < 16 by decide)
    (stringField 1 hardwareid ++ stringField 2 mantoken ++ uint32Field 4 numphase ++
      stringField 5 firmwareversion ++ stringField 6 cpuimei)
  have hinner := length_messageField_le (show 1 < 16 by decide)
    (registerPack hardwareid firmwareversion cpuimei mantoken numphase)
  have houter := length_messageField_le (show 2 < 16 by decide)
    (messageField 1 (registerPack hardwareid firmwareversion cpuimei mantoken numphase))
  simp only [List.length_append] at hrequest
  show (messageField 2 (messageField 1
    (registerPack hardwareid firmwareversion cpuimei mantoken numphase))).length ≤ _
  unfold registerPack at *
  omega

theorem length_login_le (deviceid : Option String) (cpuimage : String) :
    (mainMessagePack widen (.login deviceid cpuimage)).length ≤
      (textBytes deviceid).length + (textBytes cpuimage).length + 30 := by
  have h1 := length_stringField_le (show 1 < 16 by decide) deviceid
  have h2 := length_stringField_le (show 2 < 16 by decide) (some cpuimage)
  have hrequest := length_messageField_le (show 3 < 16 by decide)
    (stringField 1 deviceid ++ stringField 2 cpuimage)
  have hinner := length_messageField_le (show 1 < 16 by decide) (loginPack deviceid cpuimage)
  have houter := length_messageField_le (show 2 < 16 by decide)
    (messageField 1 (loginPack deviceid cpuimage))
  rw [List.length_append] at hrequest
  show (messageField 2 (messageField 1 (loginPack deviceid cpuimage))).length ≤ _
  unfold loginPack at *
  omega

end messages

/-! ## `ws_tx_buffer` -/

/-- The largest item of `rx_rb` and of `tx_rb`. -/
def meshMaxItem : Nat := (xRingbufferCreate ⟨fun _ => 0⟩ meshRingbufferSize).xMaxItemSize

theorem meshMaxItem_eq (memory : Mem) :
    (xRingbufferCreate memory meshRingbufferSize).xMaxItemSize = meshMaxItem := rfl

/-- What one of the six builders packs, called on a handle. -/
def Websocket.Packs (handle : Websocket) (message : ClientMessage) : Prop :=
  (∃ tick tickAgain, (appWsRegister tick tickAgain handle).2.2 = some message) ∨
    (∃ tick tickAgain, (appWsLogin tick tickAgain handle).2.2 = some message) ∨
    ∃ body, message = .update ⟨handle.deviceId, body⟩

/-- The texts of a handle are not too long. -/
structure Named (handle : Websocket) : Prop where
  device : (textBytes handle.deviceId).length ≤ meshMaxItem
  hardware : (textBytes handle.hardwareId).length ≤ 19
  firmware : handle.firmwareVersion = firmwareVersion

section named

variable {handle handle' : Websocket}

theorem Named.congr (h : Named handle) (hdevice : handle'.deviceId = handle.deviceId)
    (hhardware : handle'.hardwareId = handle.hardwareId)
    (hfirmware : handle'.firmwareVersion = handle.firmwareVersion) : Named handle' :=
  ⟨by rw [hdevice]; exact h.device, by rw [hhardware]; exact h.hardware,
    by rw [hfirmware]; exact h.firmware⟩

theorem Named.update (h : Named handle) (body : UpdateBody) : Named (handle.update body) := by
  apply h.congr <;> rw [update_eq] <;> split <;> cases body <;> rfl

theorem Named.process (h : Named handle) {d : Dispatch}
    (hd : ∀ r, d = .registerResponse r → (stringBytes r.deviceid).length ≤ meshMaxItem) :
    Named (handle.process d) := by
  cases d with
  | registerResponse r =>
    unfold Websocket.process
    dsimp only
    split
    · exact ⟨hd r rfl, h.hardware, h.firmware⟩
    · exact h
  | loginResponse r =>
    unfold Websocket.process
    dsimp only
    split
    · exact h.congr rfl rfl rfl
    · exact h
  | _ => exact h

/-- Every message a builder packs has room in `ws_tx_buffer`. -/
theorem Named.length_le (h : Named handle) {widen : CFloat → UInt64} {message : ClientMessage}
    (hpacks : handle.Packs message) : (mainMessagePack widen message).length ≤ wsBufferSize := by
  have hmax : meshMaxItem = 2040 := by decide
  have hdevice := h.device
  have hhardware := h.hardware
  unfold wsBufferSize
  rcases hpacks with ⟨tick, tickAgain, hregister⟩ | ⟨tick, tickAgain, hlogin⟩ | ⟨body, heq⟩
  · unfold appWsRegister at hregister
    split at hregister
    · cases hregister
    · split at hregister
      · cases hregister
      · cases hregister
        have hlen := length_register_le widen handle.hardwareId handle.firmwareVersion
          "112233445566" "112233445566" 2
        have hfirmware : (textBytes handle.firmwareVersion).length = 5 := by
          rw [h.firmware]
          decide +kernel
        have htoken : (textBytes "112233445566").length = 12 := by decide +kernel
        omega
  · unfold appWsLogin at hlogin
    split at hlogin
    · cases hlogin
    · split at hlogin
      · cases hlogin
      · cases hlogin
        have hlen := length_login_le widen handle.deviceId "112233445566"
        have himage : (textBytes "112233445566").length = 12 := by decide +kernel
        omega
  · subst heq
    have hlen := length_update_le widen ⟨handle.deviceId, body⟩
    dsimp only at hlen
    omega

end named

/-- What `rx_rb` has taken is no longer than its largest item. -/
structure Session.Roomy (s : Session) : Prop where
  named : Named s.handle
  waiting : ∀ item ∈ s.rxRb, item.payload.length ≤ meshMaxItem
  taken : ∀ item, s.rxTask = .processing item → item.payload.length ≤ meshMaxItem

section runs

variable {unpack : Bytes → Option MainMessage} {s : Session}

theorem roomy_data (h : s.Roomy) {payload : Bytes} {stored : Bool}
    (hstored : stored = true → payload.length ≤ meshMaxItem) : (s.data payload stored).Roomy := by
  unfold Session.data
  split
  · exact h
  · split
    · rename_i htrue
      refine ⟨h.named, ?_, h.taken⟩
      intro item hitem
      rcases List.mem_append.mp hitem with hold | hnew
      · exact h.waiting item hold
      · rw [List.mem_singleton.mp hnew]
        exact hstored htrue
    · exact h

theorem roomy_rx (hunpack : ∀ payload message r, unpack payload = some message →
      message.dispatch = .registerResponse r → (stringBytes r.deviceid).length ≤ payload.length)
    (h : s.Roomy) : (s.rx unpack).Roomy := by
  unfold Session.rx
  split
  · split
    · exact h
    · rename_i item rest hrb
      have hall := h.waiting
      rw [hrb] at hall
      refine ⟨h.named, fun i hi => hall i (List.mem_cons_of_mem item hi), ?_⟩
      intro i heq
      cases heq
      exact hall item List.mem_cons_self
  · rename_i item htask
    split
    · exact ⟨h.named, h.waiting, fun i heq => RxTask.noConfusion heq⟩
    · rename_i message hread
      have hlen := h.taken item htask
      unfold Session.processBranch
      split
      · exact ⟨h.named, h.waiting, h.taken⟩
      · split
        · exact ⟨h.named.congr rfl rfl rfl, h.waiting, fun i heq => RxTask.noConfusion heq⟩
        · refine ⟨?_, h.waiting, fun i heq => RxTask.noConfusion heq⟩
          apply h.named.process
          intro r hr
          exact Nat.le_trans (hunpack item.payload message r hread hr) hlen
  · exact ⟨h.named.congr rfl rfl rfl, h.waiting, fun item heq => RxTask.noConfusion heq⟩
  · exact ⟨h.named.congr rfl rfl rfl, h.waiting, fun item heq => RxTask.noConfusion heq⟩
  · exact ⟨h.named.congr rfl rfl rfl, h.waiting, fun item heq => RxTask.noConfusion heq⟩

theorem roomy_ws (h : s.Roomy) (networkConnected : Bool) (tick tickAgain : Int) :
    (s.ws networkConnected tick tickAgain).Roomy := by
  unfold Session.ws
  split
  · refine ⟨?_, h.waiting, h.taken⟩
    show Named (appWsPrepare networkConnected s.handle).2
    unfold appWsPrepare
    split
    · exact h.named
    · split
      · exact h.named
      · split
        · exact h.named
        · exact h.named.congr rfl rfl rfl
  · refine ⟨?_, h.waiting, h.taken⟩
    show Named (appWsRegister tick tickAgain s.handle).2.1
    unfold appWsRegister
    split
    · exact h.named
    · split
      · exact h.named
      · exact h.named.congr rfl rfl rfl
  · refine ⟨?_, h.waiting, h.taken⟩
    show Named (appWsLogin tick tickAgain s.handle).2.1
    unfold appWsLogin
    split
    · exact h.named
    · split
      · exact h.named
      · exact h.named.congr rfl rfl rfl
  · exact ⟨h.named.congr rfl rfl rfl, h.waiting, h.taken⟩
  · exact ⟨h.named, h.waiting, h.taken⟩

theorem roomy_step (hunpack : ∀ payload message r, unpack payload = some message →
      message.dispatch = .registerResponse r → (stringBytes r.deviceid).length ≤ payload.length)
    {st : SessionStep} (hstored : ∀ payload, st = .data payload true → payload.length ≤ meshMaxItem)
    (h : s.Roomy) : (Session.step unpack st s).Roomy := by
  unfold Session.step
  split
  · cases st with
    | connected => exact ⟨h.named.congr rfl rfl rfl, h.waiting, h.taken⟩
    | disconnected => exact ⟨h.named.congr rfl rfl rfl, h.waiting, h.taken⟩
    | data payload stored =>
      apply roomy_data h
      intro htrue
      subst htrue
      exact hstored payload rfl
    | rx => exact roomy_rx hunpack h
    | ws networkConnected tick tickAgain => exact roomy_ws h networkConnected tick tickAgain
    | update body => exact ⟨h.named.update body, h.waiting, h.taken⟩
  · exact h

end runs

/-- **No message runs over `ws_tx_buffer`.** In every state of every run: whatever a builder packs
there has room, if the strings of a message are parts of its bytes and `rx_rb` takes no more than
it says. The hardware id is `"GW-%06llX"` of 64 bits at most. -/
theorem tx_buffer_holds (unpack : Bytes → Option MainMessage)
    (hunpack : ∀ payload message r, unpack payload = some message →
      message.dispatch = .registerResponse r → (stringBytes r.deviceid).length ≤ payload.length)
    (widen : CFloat → UInt64) (memory : Mem) (callback : Bool) (hardwareId : String)
    (hhardwareId : (textBytes hardwareId).length ≤ 19) (initActiveTime : ActiveTime)
    (mallocLogged : Bool) (txOutcomes : Stream' Bool) (sts : List SessionStep)
    (hstored : ∀ payload, SessionStep.data payload true ∈ sts →
      payload.length ≤ (xRingbufferCreate memory meshRingbufferSize).xMaxItemSize)
    (message : ClientMessage)
    (hpacks : (after (Session.step unpack)
      (.boot callback hardwareId initActiveTime mallocLogged txOutcomes) sts).handle.Packs
        message) :
    (mainMessagePack widen message).length ≤ wsBufferSize := by
  have hstart : (Session.boot callback hardwareId initActiveTime mallocLogged
      txOutcomes).Roomy :=
    ⟨⟨Nat.zero_le _, hhardwareId, rfl⟩, fun item hitem => absurd hitem List.not_mem_nil,
      fun item heq => RxTask.noConfusion heq⟩
  have hroomy : Session.Roomy (after (Session.step unpack)
      (.boot callback hardwareId initActiveTime mallocLogged txOutcomes) sts) := by
    apply after_invariant_of_mem _ hstart
    intro st hst s h
    apply roomy_step hunpack _ h
    intro payload heq
    subst heq
    exact hstored payload hst
  exact hroomy.named.length_le hpacks

theorem tx_buffer_holds_registered :
    (mainMessagePack UInt32.toUInt64 (.update ⟨some "d", .mode .manual⟩)).length ≤
      wsBufferSize := by
  apply tx_buffer_holds Session.unpackTwo _ UInt32.toUInt64 ⟨fun _ => 0⟩ true "GW-00FF00"
    (by decide +kernel) ⟨0, 0, 0, 0⟩ false (Stream'.const true)
    [.connected, .data Session.registerBytes true, .rx, .rx]
  · intro payload hmem
    simp only [List.mem_cons, reduceCtorEq, SessionStep.data.injEq, List.not_mem_nil, or_false,
      false_or, and_true] at hmem
    subst hmem
    decide
  · exact .inr (.inr ⟨.mode .manual, rfl⟩)
  · intro payload message r hread hr
    unfold Session.unpackTwo at hread
    split at hread
    · rename_i heq
      cases hread
      cases hr
      subst heq
      decide +kernel
    · split at hread
      · cases hread
        cases hr
      · cases hread

/-! ## `tx_rb` -/

/-- **An update is taken.** Wherever any number of sending tasks and the one that receives have left
`tx_rb`: if nothing is in it, it takes the update for every device id of at most 1899 bytes. -/
theorem update_taken (memory : Mem) (widen : CFloat → UInt64) (turns : List Queue.Turn)
    (hempty : ∀ p ∈ (after Queue.Tasks.step (.start memory meshRingbufferSize) turns).used,
      p.2.lent = [] ∧ p.2.waiting = [])
    (message : UpdateMessage) (hdevice : (textBytes message.deviceId).length ≤ 1899) :
    Queue.event (.send (mainMessagePack widen (.update message)))
        (after Queue.Tasks.step (.start memory meshRingbufferSize) turns).used =
      some (.put (mainMessagePack widen (.update message))) := by
  obtain ⟨hcalls, howned, hspare⟩ := Queue.tasks_calls memory
    (by decide : 9 ≤ meshRingbufferSize) (by decide) turns
  rw [hcalls] at hempty ⊢
  obtain ⟨rb, q, hafter, hholds, hlent, hwaiting, hmax⟩ :=
    Queue.holds_of_empty memory (by decide) (by decide) howned hspare hempty
  have hlen := length_update_le widen message
  have hlimit : rb.xMaxItemSize = 2040 := by
    rw [hmax, meshMaxItem_eq]
    decide
  rw [hafter]
  exact (Queue.send_of_empty hholds hlent hwaiting).mpr (by omega)

theorem update_taken_first :
    Queue.event (.send (mainMessagePack UInt32.toUInt64 (.update ⟨some "d", .mode .manual⟩)))
        (after Queue.Tasks.step (.start ⟨fun _ => 0⟩ meshRingbufferSize) []).used =
      some (.put (mainMessagePack UInt32.toUInt64 (.update ⟨some "d", .mode .manual⟩))) := by
  apply update_taken ⟨fun _ => 0⟩ UInt32.toUInt64 []
  · intro p hp
    cases hp
    exact ⟨rfl, rfl⟩
  · decide +kernel

end Lighting
