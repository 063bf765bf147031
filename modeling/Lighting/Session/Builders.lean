import Mathlib.Data.List.Infix
import Lighting.Lib.Scratch
import Lighting.Model.Pack

/-!
# One buffer for six builders

`_update_power_state`, `_update_mode`, `_update_meter_data`, `_update_active_time`,
`_app_ws_register` and `_app_ws_login` pack into the same `ws_tx_buffer` and then hand over its
first bytes, to `tx_rb` or to the client. They are called from five tasks, and what comes of a
hand-over is not looked at again: if `xRingbufferSend` finds no room in its two seconds, or the
client does not send, the message is gone. `messages_apart_iff` is `Scratch.items_perm_iff` for
them.
-/

set_option autoImplicit false

namespace Lighting

open CString Runs Scratch

/-- Calls of the builders and an order of their steps. `Op.pack` is the call's
`main_message__pack`, `Op.send` its `xRingbufferSend` or `app_websocket_send`, with what came
of it: enqueued or sent, or not. -/
structure BuilderCalls (ι : Type*) where
  callers : List ι
  ops : List (Op ι)
  interleaving : Interleaving callers ops

namespace BuilderCalls

variable {ι : Type*}

/-- What is enqueued or sent, in order, if `message` says what each call builds. -/
def handedOver (widen : CFloat → UInt64) (calls : BuilderCalls ι) (message : ι → ClientMessage)
    (wsTxBuffer : Bytes) : List Bytes :=
  outputs (step (mainMessagePack widen ∘ message)) (item (mainMessagePack widen ∘ message))
    wsTxBuffer calls.ops

/-- Two updates that differ in one byte. -/
theorem modes_differ (widen : CFloat → UInt64) :
    (mainMessagePack widen (.update ⟨none, .mode .auto⟩)).length =
        (mainMessagePack widen (.update ⟨none, .mode .manual⟩)).length ∧
      mainMessagePack widen (.update ⟨none, .mode .auto⟩) ≠
        mainMessagePack widen (.update ⟨none, .mode .manual⟩) := by
  have hauto : mainMessagePack widen (.update ⟨none, .mode .auto⟩) =
      [18, 6, 18, 4, 106, 2, 16, 1] := rfl
  have hmanual : mainMessagePack widen (.update ⟨none, .mode .manual⟩) =
      [18, 6, 18, 4, 106, 2, 16, 2] := rfl
  rw [hauto, hmanual]
  exact ⟨rfl, by decide⟩

/-- **Messages that do not mix.** For every set of calls and every order of their steps:
whatever the messages are, each item enqueued or sent is the packing of one call's message and
each message is enqueued or sent once, exactly if no hand-over fails and every call hands over
while it was the last to pack. -/
theorem messages_apart_iff [DecidableEq ι] (widen : CFloat → UInt64) (calls : BuilderCalls ι)
    (wsTxBuffer : Bytes) :
    (∀ message : ι → ClientMessage,
        (calls.handedOver widen message wsTxBuffer).Perm
          (calls.callers.map (mainMessagePack widen ∘ message))) ↔
      (∀ op ∈ calls.ops, op.Taken) ∧ Along owner OwnSend none calls.ops :=
  items_perm_iff (modes_differ widen).1 (modes_differ widen).2 calls.interleaving wsTxBuffer

/-- One call packs, another packs over it, and both hand over. -/
def overtaken : BuilderCalls Bool where
  callers := [false, true]
  ops := [.pack false, .pack true, .send false true, .send true true]
  interleaving := by
    refine ⟨by decide, .refl _, .refl _, ?_⟩
    intro js i taken hpre
    have hinits : ∀ l ∈ [Op.pack false, .pack true, .send false true, .send true true].inits,
        ∀ i taken, l.getLast? = some (.send i taken) → i ∈ packers l.dropLast := by
      decide
    simpa using hinits _ ((List.mem_inits _ _).mpr hpre) i taken (by simp)

/-- The schedule switches the light on while the selector is turned. -/
def switchAndTurn : Bool → ClientMessage
  | false => .update ⟨some "d", .powerState true⟩
  | true => .update ⟨some "d", .mode .manual⟩

/-- The mode is enqueued twice and the power state never. -/
theorem overtaken_mixes :
    overtaken.handedOver UInt32.toUInt64 switchAndTurn [] =
      [mainMessagePack UInt32.toUInt64 (switchAndTurn true),
        mainMessagePack UInt32.toUInt64 (switchAndTurn true)] ∧
    ¬(overtaken.handedOver UInt32.toUInt64 switchAndTurn []).Perm
      (overtaken.callers.map (mainMessagePack UInt32.toUInt64 ∘ switchAndTurn)) := by
  have hitems : overtaken.handedOver UInt32.toUInt64 switchAndTurn [] =
      [[18, 9, 18, 7, 106, 5, 10, 1, 100, 16, 2], [18, 9, 18, 7, 106, 5, 10, 1, 100, 16, 2]] := rfl
  have hpackings : overtaken.callers.map (mainMessagePack UInt32.toUInt64 ∘ switchAndTurn) =
      [[18, 9, 18, 7, 98, 5, 10, 1, 100, 16, 1], [18, 9, 18, 7, 106, 5, 10, 1, 100, 16, 2]] := rfl
  refine ⟨hitems, ?_⟩
  rw [hitems, hpackings]
  decide

end BuilderCalls

end Lighting
