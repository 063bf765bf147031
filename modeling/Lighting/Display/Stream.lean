import Lighting.Lib.Chunks
import Lighting.Lib.Runs
import Lighting.Display.Commands

/-!
# A stream of commands, cut into reads

The display sends its commands one after the other, and `uart_read_bytes` hands them over as
the bytes come in. `_nextion_read_task` looks at the head of its buffer once for each read: a
second command in a read is not seen, and the rest of a command that comes in another read is
not waited for. What it finds behind the bytes of a short read is what older reads have left.

`stream_events_iff` says when the events are those of the commands all the same: every command
has to begin a read, and with that read has to be found in the buffer.
-/

set_option autoImplicit false

namespace Lighting

open CString Chunks Runs

/-- A read that delivered something, with the handle as it is then. Whatever happened to the
handle since the last read, it has its callback. -/
structure DisplayRead extends NextionRead where
  bytes_ne : bytes ≠ []
  handle : Nextion
  callback_eq : handle.callback = true

namespace DisplayRead

/-- The memory the read task looks at. -/
def memory (r : DisplayRead) (buffer : RxBuffer) : Bytes :=
  (buffer.store r.toNextionRead).bytes ++ r.beyond

def step (r : DisplayRead) (buffer : RxBuffer) : RxBuffer :=
  (nextionReadTask r.toNextionRead buffer r.handle).1

/-- The event the read task raises. -/
def event (r : DisplayRead) (buffer : RxBuffer) : Option Event :=
  (nextionReadTask r.toNextionRead buffer r.handle).2.2

/-- The memory and the read, of a read that begins with an `@`. -/
def head? (r : DisplayRead) (buffer : RxBuffer) : Option (Bytes × DisplayRead) :=
  if r.bytes.head? = some atSign then some (r.memory buffer, r) else none

end DisplayRead

/-- Commands, and the reads their bytes come in. -/
structure Transmission where
  commands : List Command
  reads : List DisplayRead
  flatten_reads : (reads.map (·.bytes)).flatten = commands.flatMap Command.encode

namespace Transmission

/-- The events of the reads, in order. -/
def events (t : Transmission) (buffer : RxBuffer) : List Event :=
  outputs DisplayRead.step DisplayRead.event buffer t.reads

/-- The reads that begin with an `@`, each with the memory the read task looks at then. -/
def heads (t : Transmission) (buffer : RxBuffer) : List (Bytes × DisplayRead) :=
  outputs DisplayRead.step DisplayRead.head? buffer t.reads

end Transmission

/-! ## One read -/

/-- Every key but the one for sleep begins with an `@`. -/
theorem dispatch_no_at {memory : Bytes} (h : memory.head? ≠ some atSign) (stack : ActiveTime)
    (handle : Nextion) :
    nextionDispatch memory stack handle =
      if memcmpEq memory sleepKey then ({ handle with isSleeping := true }, none)
      else (handle, none) := by
  have hkey : ∀ key : Bytes, key.head? = some atSign → memcmpEq memory key = false := by
    intro key hhead
    rw [Bool.eq_false_iff]
    exact fun hfound => h (head?_of_memcmpEq hfound hhead)
  simp only [nextionDispatch, hkey manualOnKey rfl, hkey manualOffKey rfl, hkey upTimeKey rfl,
    hkey pagePrefix rfl, hkey rtcPrefix rfl, hkey syncTimeKey rfl, Bool.false_eq_true, if_false]

theorem dispatch_no_event {memory : Bytes} (h : memory.head? ≠ some atSign) (stack : ActiveTime)
    (handle : Nextion) : (nextionDispatch memory stack handle).2 = none := by
  rw [dispatch_no_at h]
  split <;> rfl

theorem DisplayRead.event_eq (r : DisplayRead) (buffer : RxBuffer) :
    r.event buffer =
      (r.head? buffer).bind fun h => (nextionDispatch h.1 h.2.stack h.2.handle).2 := by
  have hlen : ¬r.bytes.length = 0 := by simpa using r.bytes_ne
  have hevent : r.event buffer = (nextionDispatch (r.memory buffer) r.stack r.handle).2 := by
    unfold DisplayRead.event nextionReadTask
    rw [if_neg hlen]
    rfl
  rw [hevent]
  unfold DisplayRead.head?
  by_cases hhead : r.bytes.head? = some atSign
  · rw [if_pos hhead, Option.bind_some]
  · rw [if_neg hhead, Option.bind_none]
    refine dispatch_no_event ?_ r.stack r.handle
    have hmemory : (r.memory buffer).head? = r.bytes.head? := by
      cases hb : r.bytes with
      | nil => exact absurd hb r.bytes_ne
      | cons b bs => simp [DisplayRead.memory, RxBuffer.store, hb]
    rw [hmemory]
    exact hhead

/-! ## The whole stream -/

namespace Transmission

theorem events_eq (t : Transmission) (buffer : RxBuffer) :
    t.events buffer =
      (t.heads buffer).filterMap fun h => (nextionDispatch h.1 h.2.stack h.2.handle).2 := by
  unfold events heads
  rw [← outputs_bind]
  congr 1
  funext r buffer
  exact r.event_eq buffer

/-- No more reads begin with an `@` than there are commands. -/
theorem heads_length_le (t : Transmission) (buffer : RxBuffer) :
    (t.heads buffer).length ≤ t.commands.length := by
  have hcount : (t.commands.flatMap Command.encode).count atSign = t.commands.length := by
    induction t.commands with
    | nil => rfl
    | cons c cs ih =>
      rw [List.flatMap_cons, List.count_append, c.encode_count, ih, List.length_cons, Nat.add_comm]
  have hheads : ∀ (rs : List DisplayRead) (buffer : RxBuffer),
      (outputs DisplayRead.step DisplayRead.head? buffer rs).length =
        ((rs.map (·.bytes)).filter (·.head? = some atSign)).length := by
    intro rs
    induction rs with
    | nil => intro _; rfl
    | cons r rs ih =>
      intro buffer
      rw [outputs_cons, List.length_append, ih, List.map_cons, List.filter_cons]
      unfold DisplayRead.head?
      split
      · rename_i hhead
        simp [hhead, Nat.add_comm]
      · rename_i hhead
        simp [hhead]
  rw [← hcount, ← t.flatten_reads, heads, hheads]
  exact marked_length_le atSign _

/-- **When the cuts do not matter.** For every sequence of commands and every way to cut its
bytes into reads, whatever the buffer, the stack and the memory behind the buffer held: the
events raised are those of the commands, in order and each once, exactly if the reads that
begin with an `@` are as many as the commands and each finds its command in the buffer. -/
theorem stream_events_iff (t : Transmission) (buffer : RxBuffer) :
    t.events buffer = t.commands.map Command.event ↔
      List.Forall₂ (fun c h => c.Holds h.1 h.2.stack) t.commands (t.heads buffer) := by
  rw [t.events_eq, filterMap_eq_map_iff (t.heads_length_le buffer)]
  constructor
  · intro h
    exact h.imp fun c head hc => (dispatch_event_iff head.2.callback_eq _ _ c).mp hc
  · intro h
    exact h.imp fun c head hc => (dispatch_event_iff head.2.callback_eq _ _ c).mpr hc

/-- Commands that come whole, each in a read of its own, are all found. -/
theorem heads_whole {cs : List Command} :
    ∀ {rs : List DisplayRead} (buffer : RxBuffer), rs.map (·.bytes) = cs.map Command.encode →
      List.Forall₂ (fun c h => c.Holds h.1 h.2.stack) cs
        (outputs DisplayRead.step DisplayRead.head? buffer rs) := by
  induction cs with
  | nil =>
    intro rs buffer h
    rw [List.map_eq_nil_iff.mp h]
    exact .nil
  | cons c cs ih =>
    intro rs buffer h
    cases rs with
    | nil => exact absurd h (by simp)
    | cons r rs =>
      have hr : r.bytes = c.encode := (List.cons.inj h).1
      have hrs : rs.map (·.bytes) = cs.map Command.encode := (List.cons.inj h).2
      have hhead : r.head? buffer = some (r.memory buffer, r) := by
        unfold DisplayRead.head?
        rw [hr, if_pos c.encode_head]
      have hmemory : r.memory buffer =
          c.encode ++ (buffer.bytes.drop r.bytes.length ++ r.beyond) := by
        rw [← hr, ← List.append_assoc]
        rfl
      rw [outputs_cons, hhead]
      refine .cons ?_ (ih _ hrs)
      show c.Holds (r.memory buffer) r.stack
      rw [hmemory]
      exact c.holds_whole _ _

theorem whole_reads_events (t : Transmission)
    (h : t.reads.map (·.bytes) = t.commands.map Command.encode) (buffer : RxBuffer) :
    t.events buffer = t.commands.map Command.event :=
  (t.stream_events_iff buffer).mpr (heads_whole buffer h)

/-! ## Two commands in one read, and one in two -/

/-- A read into a buffer that is still zero. -/
def readOf (bytes : Bytes) (length_le : bytes.length ≤ bufSize) (bytes_ne : bytes ≠ []) :
    DisplayRead where
  bytes := bytes
  length_le := length_le
  stack := ⟨0, 0, 0, 0⟩
  beyond := []
  bytes_ne := bytes_ne
  handle := appNextionInit true ⟨0, 0, 0, 0⟩ 0
  callback_eq := rfl

def zeroBuffer : RxBuffer := ⟨List.replicate bufSize 0, length_zeros⟩

/-- The off-button pressed right after the on-button. -/
def joined : Transmission where
  commands := [.manualOn, .manualOff]
  reads := [readOf (manualOnKey ++ manualOffKey) (by decide) (by decide)]
  flatten_reads := rfl

/-- The on-button, with a pause after `@manual_`. -/
def halved : Transmission where
  commands := [.manualOn]
  reads :=
    [ readOf (manualOnKey.take 8) (by decide) (by decide),
      readOf (manualOnKey.drop 8) (by decide) (by decide) ]
  flatten_reads := rfl

/-- The off-button is lost, and so is a command that comes in two reads. -/
theorem joined_loses :
    joined.events zeroBuffer = [.nextionManualOn] ∧
      joined.events zeroBuffer ≠ joined.commands.map Command.event ∧
    halved.events zeroBuffer = [] ∧
      halved.events zeroBuffer ≠ halved.commands.map Command.event := by
  have hjoined : joined.events zeroBuffer = [.nextionManualOn] := by rfl
  have hhalved : halved.events zeroBuffer = [] := by rfl
  rw [hjoined, hhalved]
  refine ⟨rfl, ?_, rfl, ?_⟩
  · decide
  · decide

end Transmission

end Lighting
