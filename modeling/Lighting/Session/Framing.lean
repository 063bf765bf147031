import Lighting.Lib.Chunks
import Lighting.Session.Parties

/-!
# Frames, and what `_process_data` gets of them

The client reads a frame into a buffer of 1024 bytes and raises `WEBSOCKET_EVENT_DATA` once
for each read, with the opcode, the length of the whole payload and the offset of this part.
`websocket_event_handler` logs the three and puts the bytes into `rx_rb` as an item of their
own; `_rx_process_task` hands every item to `_process_data` as if it were a message.

So `_process_data` gets the non-empty parts of all frames, whatever their opcode
(`processed_eq`). These are the payloads of the non-empty binary frames exactly if each of
them came in one part and no other frame had a payload.
-/

set_option autoImplicit false

namespace Lighting

open Runs CString Chunks

/-- `ws_transport_opcodes_t`, and what else four bits can say. -/
inductive OpCode where
  | cont
  | text
  | binary
  | close
  | ping
  | pong
  | reserved (raw : Nat)
  deriving DecidableEq, Repr

structure Frame where
  opCode : OpCode
  payload : Bytes
  deriving DecidableEq, Repr

/-- `esp_websocket_event_data_t`; `data` is `data_ptr` and `data_len`. -/
structure DataEvent where
  opCode : OpCode
  payloadLen : Nat
  payloadOffset : Nat
  data : Bytes
  deriving DecidableEq, Repr

def websocketBufferSize : Nat := 1024

/-- A frame and the reads it took. -/
structure Delivery where
  frame : Frame
  reads : List Bytes
  reads_ne : reads ≠ []
  reads_flatten : reads.flatten = frame.payload
  reads_length : ∀ r ∈ reads, r.length ≤ websocketBufferSize

/-- The loop of `esp_websocket_client_recv`, on what the transport reads: it ends as soon as
the offset reaches the length. -/
def Frame.recv (frame : Frame) : Nat → List Bytes → List DataEvent
  | _, [] => []
  | offset, r :: reads =>
    ⟨frame.opCode, frame.payload.length, offset, r⟩ ::
      if offset + r.length < frame.payload.length then frame.recv (offset + r.length) reads
      else []

def Delivery.events (f : Delivery) : List DataEvent := f.frame.recv 0 f.reads

/-- The loop leaves no read undelivered that has something in it. -/
theorem recv_data (frame : Frame) (reads : List Bytes) :
    ∀ offset, offset + reads.flatten.length = frame.payload.length →
      solid ((frame.recv offset reads).map DataEvent.data) = solid reads := by
  induction reads with
  | nil => intro offset _; rfl
  | cons r reads ih =>
    intro offset hlen
    rw [List.flatten_cons, List.length_append] at hlen
    have hsplit (qs : List Bytes) : solid (r :: qs) = solid [r] ++ solid qs := solid_append [r] qs
    rw [Frame.recv, List.map_cons, hsplit reads]
    refine (hsplit _).trans (congrArg (solid [r] ++ ·) ?_)
    split
    case isTrue => exact ih (offset + r.length) (by omega)
    case isFalse hdone =>
      -- The frame is complete: what the transport still answered was empty.
      have hnil : reads.flatten = [] := List.length_eq_zero_iff.mp (by omega)
      rw [solid_eq_nil_iff.mpr hnil]
      rfl

/-! ## What becomes of the parts -/

namespace Session

/-- What the events of a run brought, in order. -/
def received (sts : List SessionStep) : List Bytes :=
  sts.filterMap fun
    | .data payload _ => some payload
    | _ => none

/-- The bytes a step hands to `_process_data`. -/
def processed? (st : SessionStep) (s : Session) : Option Bytes :=
  match st, s.rxTask with
  | .rx, .processing item => if s.running then some item.payload else none
  | _, _ => none

/-- What has come in and is not yet handed over. -/
def inFlight (s : Session) : List Bytes :=
  (match s.rxTask with
    | .processing item => [item.payload]
    | _ => []) ++ s.rxRb.map Received.payload

/-- The device runs and everything that came in has been handed over. -/
def AtRest (s : Session) : Prop := s.running = true ∧ s.inFlight = []

section parts

variable {unpack : Bytes → Option MainMessage}

theorem data_inFlight (payload : Bytes) (s : Session) :
    (s.data payload true).inFlight = s.inFlight ++ solid [payload] := by
  cases payload with
  | nil => simp [data, solid, inFlight]
  | cons b payload => simp [data, solid, inFlight, List.append_assoc]

theorem rx_inFlight {s : Session} (hrun : s.running = true)
    (hafter : (s.rx unpack).running = true) :
    (s.processed? .rx).toList ++ (s.rx unpack).inFlight = s.inFlight := by
  unfold rx at hafter ⊢
  unfold processed?
  cases htask : s.rxTask with
  | idle =>
    cases hrb : s.rxRb with
    | nil => simp [inFlight, htask, hrb]
    | cons item rest => simp [inFlight, htask, hrb]
  | processing item =>
    simp only [htask] at hafter
    simp only [hrun, if_true]
    cases hu : unpack item.payload with
    | none => simp [inFlight, htask]
    | some message =>
      simp only [hu] at hafter
      -- A branch that faults would have ended the run.
      have hfaults : message.dispatch.faults = false := by
        by_contra hf
        simp [processBranch, Bool.eq_true_of_not_eq_false hf] at hafter
      cases hlogin : message.dispatch.loginOk <;>
        simp [processBranch, hfaults, hlogin, inFlight, htask]
  | resendPowerState => simp [inFlight, htask]
  | resendMode => simp [inFlight, htask]
  | resendActiveTime => simp [inFlight, htask]

theorem ws_inFlight (networkConnected : Bool) (tick tickAgain : Int) (s : Session) :
    (s.ws networkConnected tick tickAgain).inFlight = s.inFlight := by
  unfold ws
  split <;> rfl

/-- One step: what is handed over and what is left make up what was there and came in. -/
theorem step_inFlight {st : SessionStep} {s : Session}
    (hroom : ∀ payload, st ≠ .data payload false) (hafter : (step unpack st s).running = true) :
    (s.processed? st).toList ++ (step unpack st s).inFlight =
      s.inFlight ++ solid (received [st]) := by
  by_cases hrun : s.running = true
  · rw [step, if_pos hrun] at hafter ⊢
    cases st with
    | data payload stored =>
      cases stored with
      | false => exact absurd rfl (hroom payload)
      | true => exact data_inFlight payload s
    | rx =>
      simpa [received, solid, SessionStep.apply] using rx_inFlight hrun hafter
    | ws networkConnected tick tickAgain =>
      simpa [processed?, received, solid, SessionStep.apply] using
        ws_inFlight networkConnected tick tickAgain s
    | _ => simp [processed?, received, solid, SessionStep.apply, inFlight]
  · rw [step, if_neg hrun] at hafter
    exact absurd hafter hrun

/-- A device that has stopped stays so. -/
theorem running_of_after {sts : List SessionStep} {s : Session}
    (h : (after (step unpack) s sts).running = true) : s.running = true := by
  by_contra hrun
  have hstep : ∀ st s, ¬s.running = true → ¬(step unpack st s).running = true := by
    intro st s hs
    rwa [step, if_neg hs]
  exact after_invariant hstep hrun h

/-- **`_process_data` gets the non-empty parts**, each once and in order. -/
theorem processed_append (sts : List SessionStep) :
    ∀ {s : Session}, (∀ payload, SessionStep.data payload false ∉ sts) →
      (after (step unpack) s sts).running = true →
      outputs (step unpack) processed? s sts ++ (after (step unpack) s sts).inFlight =
        s.inFlight ++ solid (received sts) := by
  induction sts with
  | nil => intro s _ _; simp [received, solid]
  | cons st sts ih =>
    intro s hroom hafter
    have hrest := ih (s := step unpack st s)
      (fun payload h => hroom payload (List.mem_cons_of_mem st h)) hafter
    have hone : (s.processed? st).toList ++ (step unpack st s).inFlight =
        s.inFlight ++ solid (received [st]) := step_inFlight
      (fun payload h => hroom payload (h ▸ List.mem_cons_self)) (running_of_after hafter)
    have hreceived : received (st :: sts) = received [st] ++ received sts := by
      unfold received
      rw [← List.filterMap_append, List.singleton_append]
    rw [outputs_cons, after_cons, List.append_assoc, hrest, ← List.append_assoc, hone, hreceived,
      solid_append, List.append_assoc]

end parts

end Session

/-! ## Frames -/

/-- The payloads of the non-empty binary frames. -/
def payloads (fs : List Delivery) : List Bytes :=
  (fs.filter fun f => f.frame.opCode = .binary && !f.frame.payload.isEmpty).map (·.frame.payload)

/-- A binary frame that came in one part, up to empty reads, or another frame without a
payload. -/
def Delivery.Whole (f : Delivery) : Prop :=
  if f.frame.opCode = .binary then (solid f.reads).length ≤ 1 else f.frame.payload = []

/-- The reads as the pieces of a whole that is kept if the frame is binary. -/
def Delivery.cut (f : Delivery) : Cut UInt8 where
  keep := f.frame.opCode = .binary
  whole := f.frame.payload
  pieces := f.reads
  flatten_pieces := f.reads_flatten

theorem Delivery.cut_clean_iff (f : Delivery) : f.cut.Clean ↔ f.Whole := by
  unfold Cut.Clean Delivery.Whole Delivery.cut
  simp only [decide_eq_true_eq]

theorem wholes_cut (fs : List Delivery) : wholes (fs.map Delivery.cut) = payloads fs := by
  unfold wholes payloads
  rw [List.filter_map, List.map_map]
  rfl

/-- The data of all events are the reads of all frames, up to empty ones. -/
theorem events_data (fs : List Delivery) :
    solid ((fs.flatMap Delivery.events).map DataEvent.data) =
      solid ((fs.map Delivery.cut).flatMap Cut.pieces) := by
  induction fs with
  | nil => rfl
  | cons f fs ih =>
    have hone := recv_data f.frame f.reads 0 (by rw [f.reads_flatten, Nat.zero_add])
    rw [List.flatMap_cons, List.map_append, solid_append, ih, Delivery.events, hone,
      List.map_cons, List.flatMap_cons, solid_append]
    rfl

namespace Session

/-- **Framing is transparent to whole binary frames only.** In a run that brings the events of
the frames in order, with room in `rx_rb` for each, and that comes to rest, the byte strings
handed to `_process_data` are the payloads of the non-empty binary frames, exactly if every
binary frame came in at most one non-empty part and no other frame had a payload. -/
theorem framing_transparent_iff (unpack : Bytes → Option MainMessage) (callback : Bool)
    (hardwareId : String) (initActiveTime : ActiveTime) (mallocLogged : Bool)
    (txOutcomes : Stream' Bool) (fs : List Delivery) (sts : List SessionStep)
    (hevents : received sts = (fs.flatMap Delivery.events).map DataEvent.data)
    (hroom : ∀ payload, SessionStep.data payload false ∉ sts)
    (hrest : (after (step unpack)
      (boot callback hardwareId initActiveTime mallocLogged txOutcomes) sts).AtRest) :
    outputs (step unpack) processed?
        (boot callback hardwareId initActiveTime mallocLogged txOutcomes) sts = payloads fs ↔
      ∀ f ∈ fs, f.Whole := by
  have hparts := processed_append sts hroom hrest.1
  have hboot : (boot callback hardwareId initActiveTime mallocLogged txOutcomes).inFlight = [] :=
    rfl
  rw [hrest.2, hboot, List.append_nil, List.nil_append, hevents, events_data] at hparts
  rw [hparts, ← wholes_cut, solid_eq_wholes_iff, List.forall_mem_map]
  exact forall₂_congr fun f _ => f.cut_clean_iff

/-! ## Three frames -/

/-- A login response in a binary frame. -/
def loginFrame : Delivery :=
  ⟨⟨.binary, loginBytes⟩, [loginBytes], by decide, by decide, by decide⟩

/-- The same bytes as the payload of a ping. -/
def pingFrame : Delivery :=
  ⟨⟨.ping, loginBytes⟩, [loginBytes], by decide, by decide, by decide⟩

/-- A binary frame one byte longer than the client's buffer. -/
def longFrame : Delivery where
  frame := ⟨.binary, List.replicate 1025 0⟩
  reads := [List.replicate 1024 0, [0]]
  reads_ne := List.cons_ne_nil _ _
  reads_flatten := by
    rw [List.flatten_cons, List.flatten_cons, List.flatten_nil, List.append_nil]
    exact List.replicate_append_replicate (n := 1024) (m := 1)
  reads_length := by
    intro r hr
    rcases List.mem_pair.mp hr with rfl | rfl
    · rw [List.length_replicate]
      exact Nat.le_refl _
    · decide

/-- One event, and `_rx_process_task` until it has sent the updates of the login. -/
def loginSteps : List SessionStep := [.data loginBytes true, .rx, .rx, .rx, .rx, .rx]

/-- The two events, and `_rx_process_task` on both. -/
def longSteps : List SessionStep :=
  longFrame.reads.map (.data · true) ++ [.rx, .rx, .rx, .rx]

/-- Two items that do not decode are handed over and forgotten. -/
theorem after_two {unpack : Bytes → Option MainMessage} {p q : Bytes} (hp : p ≠ []) (hq : q ≠ [])
    (hup : unpack p = none) (huq : unpack q = none) {s : Session}
    (hidle : s.running = true ∧ s.rxTask = .idle ∧ s.rxRb = []) :
    after (step unpack) s ([p, q].map (.data · true) ++ [.rx, .rx, .rx, .rx]) = s := by
  obtain ⟨running, handle, rxRb, rxTask, wsTask, connection, confirmed, testedOn⟩ := s
  obtain ⟨rfl, rfl, rfl⟩ := hidle
  simp [step, SessionStep.apply, data, rx, hp, hq, hup, huq]

theorem processed_two {unpack : Bytes → Option MainMessage} {p q : Bytes} (hp : p ≠ [])
    (hq : q ≠ []) (hup : unpack p = none) (huq : unpack q = none) {s : Session}
    (hidle : s.running = true ∧ s.rxTask = .idle ∧ s.rxRb = []) :
    outputs (step unpack) processed? s ([p, q].map (.data · true) ++ [.rx, .rx, .rx, .rx]) =
      [p, q] := by
  obtain ⟨running, handle, rxRb, rxTask, wsTask, connection, confirmed, testedOn⟩ := s
  obtain ⟨rfl, rfl, rfl⟩ := hidle
  simp [outputs_cons, processed?, step, SessionStep.apply, data, rx, hp, hq, hup, huq]

/-- Neither message of the server has the length of one of the parts. -/
theorem unpackTwo_eq_none {payload : Bytes} (hr : payload.length ≠ registerBytes.length)
    (hl : payload.length ≠ loginBytes.length) : unpackTwo payload = none := by
  have hregister : payload ≠ registerBytes := fun h => hr (congrArg List.length h)
  have hlogin : payload ≠ loginBytes := fun h => hl (congrArg List.length h)
  rw [unpackTwo, if_neg hregister, if_neg hlogin]

theorem zeros_ne_nil : List.replicate 1024 (0 : UInt8) ≠ [] :=
  fun h => absurd (congrArg List.length h) (by rw [List.length_replicate]; decide)

theorem unpackTwo_zeros : unpackTwo (List.replicate 1024 0) = none := by
  apply unpackTwo_eq_none <;> rw [List.length_replicate] <;> decide

theorem framing_transparent_login :
    outputs (step unpackTwo) processed? bootZero loginSteps = [loginBytes] := by
  have hevents : received loginSteps = ([loginFrame].flatMap Delivery.events).map DataEvent.data :=
    rfl
  have hroom : ∀ payload, SessionStep.data payload false ∉ loginSteps := by
    simp [loginSteps]
  have hrest : (after (step unpackTwo) bootZero loginSteps).AtRest := by
    exact ⟨by decide, by decide⟩
  have hwhole : ∀ f ∈ [loginFrame], f.Whole := by
    intro f hf
    rw [List.mem_singleton.mp hf]
    show (solid [loginBytes]).length ≤ 1
    decide
  exact (framing_transparent_iff unpackTwo true "" ⟨0, 0, 0, 0⟩ false (Stream'.const true)
    [loginFrame] loginSteps hevents hroom hrest).mpr hwhole

/-- The payload of a ping logs the device in; a long frame comes apart. -/
theorem framing_not_transparent :
    (received loginSteps = ([pingFrame].flatMap Delivery.events).map DataEvent.data ∧
      (after (step unpackTwo) bootZero loginSteps).AtRest ∧
      (after (step unpackTwo) bootZero loginSteps).handle.isLogged = true ∧
      outputs (step unpackTwo) processed? bootZero loginSteps ≠ payloads [pingFrame]) ∧
    (received longSteps = ([longFrame].flatMap Delivery.events).map DataEvent.data ∧
      (after (step unpackTwo) bootZero longSteps).AtRest ∧
      outputs (step unpackTwo) processed? bootZero longSteps ≠ payloads [longFrame]) := by
  have hevents : received longSteps =
      ([longFrame].flatMap Delivery.events).map DataEvent.data := by
    have hmore : 0 + (List.replicate 1024 (0 : UInt8)).length <
        (List.replicate 1025 (0 : UInt8)).length := by
      rw [List.length_replicate, List.length_replicate]
      decide
    have hrecv : longFrame.events.map DataEvent.data = longFrame.reads := by
      unfold Delivery.events longFrame
      rw [Frame.recv, if_pos hmore, Frame.recv, Frame.recv, ite_self]
      rfl
    rw [List.flatMap_singleton, hrecv]
    rfl
  have hidle : bootZero.running = true ∧ bootZero.rxTask = .idle ∧ bootZero.rxRb = [] :=
    ⟨rfl, rfl, rfl⟩
  have hafter : after (step unpackTwo) bootZero longSteps = bootZero :=
    after_two zeros_ne_nil (List.cons_ne_nil _ _) unpackTwo_zeros rfl hidle
  have hprocessed : outputs (step unpackTwo) processed? bootZero longSteps =
      [List.replicate 1024 0, [0]] :=
    processed_two zeros_ne_nil (List.cons_ne_nil _ _) unpackTwo_zeros rfl hidle
  refine ⟨⟨rfl, ⟨by decide, by decide⟩, by decide, by decide⟩, hevents, ?_, fun h => ?_⟩
  · rw [hafter]
    exact ⟨rfl, rfl⟩
  · -- Two items were handed over, and one frame was sent.
    rw [hprocessed] at h
    have hle := List.length_filter_le
      (fun f : Delivery => f.frame.opCode = .binary && !f.frame.payload.isEmpty) [longFrame]
    have hlength := congrArg List.length h
    rw [payloads, List.length_map] at hlength
    have htwo : 2 ≤ 1 := Nat.le_trans (Nat.le_of_eq hlength) hle
    exact absurd htwo (by decide)

end Session

end Lighting
