import Mathlib.Tactic.SplitIfs
import Lighting.Lib.CString
import Lighting.Model.Common

/-!
# `app_nextion.c` — the display and its read task

The handle, the setters the other modules call, and one iteration of `_nextion_read_task`.
What is sent to the display is kept as a list of commands, `sent`; nothing in the firmware
reads it back.

The read task owns one buffer of `BUF_SIZE` bytes for its whole life. `uart_read_bytes`
overwrites its head and leaves the rest as older reads left it, which is why `RxBuffer` is
state and why `store` keeps its length. The four integers of `@up_time` are not initialised
before `sscanf`; their contents, and the memory that follows the buffer, are part of the input
of a read.
-/

set_option autoImplicit false

namespace Lighting

open CString

/-- `app_nextion_t`. -/
structure Nextion where
  callback : Bool
  currentPage : Int
  isConnected : Bool
  isOn : Bool
  activeTime : ActiveTime
  phasesData : PhasesData
  mode : ControllerMode
  modeTxt : String
  isSleeping : Bool
  sent : List String

def pageLockIndex : Int := 0
def pageHomeIndex : Int := 1
def pageManualIndex : Int := 2
def pageLoadingIndex : Int := 9

def offText : String := "TẮT"

def autoText : String := "TỰ ĐỘNG"

/-- `app_nextion_init`: `current_page` is not assigned. -/
def appNextionInit (callback : Bool) (initActiveTime : ActiveTime) (mallocPage : Int) :
    Nextion where
  callback := callback
  currentPage := mallocPage
  isConnected := false
  isOn := false
  activeTime := initActiveTime
  phasesData := .zero
  mode := .off
  modeTxt := offText
  isSleeping := false
  sent := []

def sendCommand (handle : Nextion) (command : String) : Nextion :=
  { handle with sent := handle.sent ++ [command] }

def appNextionSetPage (handle : Nextion) (pageNum : Int) : Nextion :=
  sendCommand handle ("page page" ++ toString pageNum)

def appNextionSetConsole (handle : Nextion) (message : String) : Nextion :=
  sendCommand handle ("console.txt=\"" ++ message ++ "\"")

def appNextionSetButton (handle : Nextion) (isOn : Bool) : Nextion :=
  sendCommand handle ("bt0.val=" ++ if isOn then "1" else "0")

def appNextionSetConectionState (handle : Nextion) (isConnected : Bool) : Nextion :=
  { handle with isConnected := isConnected }

def appNextionSetLoading (handle : Nextion) (percent : Nat) (console : String) : Nextion :=
  let handle := sendCommand handle ("j0.val=" ++ toString percent)
  sendCommand handle ("t2.txt=\"" ++ console ++ "\"")

def appNextionSetPhaseData (handle : Nextion) (phases : PhasesData) : Nextion :=
  appNextionSetConsole { handle with phasesData := phases } "Cập nhật thông số điện thành công"

def appNextionSetActiveTime (handle : Nextion) (activeTime : ActiveTime) : Nextion :=
  { handle with activeTime := activeTime }

def appNextionSetMode (handle : Nextion) (mode : ControllerMode) : Nextion :=
  let handle := { handle with mode := mode }
  match mode with
  | .off =>
    let handle := { handle with modeTxt := offText }
    if handle.currentPage = pageManualIndex then appNextionSetPage handle pageHomeIndex
    else handle
  | .auto =>
    let handle := { handle with modeTxt := autoText }
    if handle.currentPage = pageManualIndex then appNextionSetPage handle pageHomeIndex
    else handle
  | .manual =>
    if handle.currentPage ≠ pageLockIndex ∧ handle.currentPage ≠ pageLoadingIndex then
      appNextionSetPage handle pageManualIndex
    else handle
  | .stray _ => handle

/-! ## The read task -/

def bufSize : Nat := 1024

structure RxBuffer where
  bytes : Bytes
  length_eq : bytes.length = bufSize

theorem length_zeros : (List.replicate bufSize (0 : UInt8)).length = bufSize :=
  List.length_replicate

/-- One call of `uart_read_bytes`: the bytes it delivered (none on a timeout or an error),
and the memory the rest of the iteration reads without having written it. -/
structure NextionRead where
  bytes : Bytes
  length_le : bytes.length ≤ bufSize
  stack : ActiveTime
  beyond : Bytes

/-- The read overwrites the head of the buffer. -/
def RxBuffer.store (buffer : RxBuffer) (r : NextionRead) : RxBuffer where
  bytes := r.bytes ++ buffer.bytes.drop r.bytes.length
  length_eq := by
    have hb := buffer.length_eq
    have hr := r.length_le
    rw [List.length_append, List.length_drop]
    omega

def manualOnKey : Bytes := ascii ['@', 'm', 'a', 'n', 'u', 'a', 'l', '_', 'o', 'n', '$']
def manualOffKey : Bytes := ascii ['@', 'm', 'a', 'n', 'u', 'a', 'l', '_', 'o', 'f', 'f', '$']
def upTimeKey : Bytes := ascii ['@', 'u', 'p', '_', 't', 'i', 'm', 'e']
def pagePrefix : Bytes := ascii ['@', 'p', 'a', 'g', 'e', '_']
def rtcPrefix : Bytes := ascii ['@', 'r', 't', 'c']
def syncTimeKey : Bytes :=
  ascii ['@', 't', 'i', 'm', 'e', '_', 's', 'y', 'n', '_', 'd', 'a', 't', 'e', 't', 'i', 'm', 'e',
    '$']
def sleepKey : Bytes := [0x86, 0xff, 0xff, 0xff]

theorem manualOnKey_length_le : manualOnKey.length ≤ bufSize := by decide

/-- `"@up_time,%d,%d,%d,%d,$"`. -/
def upTimeFormat : List Directive :=
  lits ['@', 'u', 'p', '_', 't', 'i', 'm', 'e', ','] ++ .int :: lits [','] ++ .int :: lits [','] ++
    .int :: lits [','] ++ .int :: lits [',', '$']

/-- `"@page_%d"`. -/
def pageFormat : List Directive := lits ['@', 'p', 'a', 'g', 'e', '_'] ++ [.int]

/-- `"@rtc,%d,%d,%d,%d,%d,$"`. -/
def rtcFormat : List Directive :=
  lits ['@', 'r', 't', 'c', ','] ++ .int :: lits [','] ++ .int :: lits [','] ++
    .int :: lits [','] ++ .int :: lits [','] ++ .int :: lits [',', '$']

/-- The four locals after the `sscanf` of an `@up_time` command. -/
def upTimeLocals (memory : Bytes) (stack : ActiveTime) : ActiveTime :=
  let values := sscanf memory upTimeFormat
  { startHour := assigned values 0 stack.startHour
    startMinute := assigned values 1 stack.startMinute
    endHour := assigned values 2 stack.endHour
    endMinute := assigned values 3 stack.endMinute }

/-- The test that rejects a schedule: upper bounds only. -/
def upTimeRejected (t : ActiveTime) : Bool :=
  t.startHour > 23 || t.startMinute > 59 || t.endHour > 23 || t.endMinute > 59

/-- The form after the `sscanf` of an `@rtc` command. -/
def rtcForm (memory : Bytes) : DateTimeForm :=
  let values := sscanf memory rtcFormat
  { hour := assigned values 0 0
    minute := assigned values 1 0
    day := assigned values 2 0
    month := assigned values 3 0
    year := assigned values 4 0
    second := 0 }

def pageSelected (memory : Bytes) (handle : Nextion) : Nextion :=
  let page := assigned (sscanf memory pageFormat) 0 0
  if page = pageHomeIndex then
    if handle.isSleeping then
      let handle := appNextionSetPage { handle with currentPage := pageLockIndex } pageLockIndex
      { handle with isSleeping := false }
    else if handle.mode = .manual then
      appNextionSetPage { handle with currentPage := pageManualIndex } pageManualIndex
    else { handle with currentPage := page }
  else { handle with currentPage := page }

/-- `_callback`: the event, unless no callback was configured. -/
def Nextion.raise (handle : Nextion) (event : Event) : Option Event :=
  if handle.callback then some event else none

/-- The body of the loop of `_nextion_read_task` after the read, on the memory at `data`. -/
def nextionDispatch (memory : Bytes) (stack : ActiveTime) (handle : Nextion) :
    Nextion × Option Event :=
  if memcmpEq memory manualOnKey then (handle, handle.raise .nextionManualOn)
  else if memcmpEq memory manualOffKey then (handle, handle.raise .nextionManualOff)
  else if memcmpEq memory upTimeKey then
    let t := upTimeLocals memory stack
    if upTimeRejected t then (appNextionSetConsole handle "Thời gian không hợp lệ", none)
    else
      let handle := { handle with activeTime := t }
      (handle, handle.raise (.nextionSetSchedule (some handle.activeTime)))
  else if memcmpEq memory pagePrefix then (pageSelected memory handle, none)
  else if memcmpEq memory rtcPrefix then
    (handle, handle.raise (.nextionSetTime (some (rtcForm memory))))
  else if memcmpEq memory syncTimeKey then (handle, handle.raise .nextionSyncTime)
  else if memcmpEq memory sleepKey then ({ handle with isSleeping := true }, none)
  else (handle, none)

/-- One iteration of `_nextion_read_task`. -/
def nextionReadTask (r : NextionRead) (buffer : RxBuffer) (handle : Nextion) :
    RxBuffer × Nextion × Option Event :=
  if r.bytes.length = 0 then (buffer, handle, none)
  else
    let buffer := buffer.store r
    (buffer, nextionDispatch (buffer.bytes ++ r.beyond) r.stack handle)

/-! ## What the setters leave alone -/

section setters

variable (handle : Nextion)

@[simp] theorem appNextionSetMode_mode (mode : ControllerMode) :
    (appNextionSetMode handle mode).mode = mode := by
  cases mode <;> simp only [appNextionSetMode] <;> (try split) <;> rfl

@[simp] theorem appNextionSetMode_callback (mode : ControllerMode) :
    (appNextionSetMode handle mode).callback = handle.callback := by
  cases mode <;> simp only [appNextionSetMode] <;> (try split) <;> rfl

/-- A page changes what is shown and whether the display sleeps. -/
theorem pageSelected_keeps (memory : Bytes) :
    (pageSelected memory handle).mode = handle.mode ∧
      (pageSelected memory handle).callback = handle.callback ∧
        (pageSelected memory handle).activeTime = handle.activeTime := by
  unfold pageSelected
  dsimp only
  split_ifs
  · exact ⟨rfl, rfl, rfl⟩
  · exact ⟨rfl, rfl, rfl⟩
  · exact ⟨rfl, rfl, rfl⟩
  · exact ⟨rfl, rfl, rfl⟩

theorem Nextion.raise_cases (event : Event) :
    handle.raise event = none ∨ handle.raise event = some event := by
  unfold Nextion.raise
  split
  · exact Or.inr rfl
  · exact Or.inl rfl

end setters

/-! ## What the read task does

A key is told from the ones tried before it by the byte after the `@`. -/

section keys

variable {memory : Bytes} (stack : ActiveTime) (handle : Nextion)

theorem dispatch_manualOn (hkey : memcmpEq memory manualOnKey = true) :
    nextionDispatch memory stack handle = (handle, handle.raise .nextionManualOn) := by
  simp only [nextionDispatch, hkey, if_true]

theorem dispatch_manualOff (hkey : memcmpEq memory manualOffKey = true) :
    nextionDispatch memory stack handle = (handle, handle.raise .nextionManualOff) := by
  have hon := memcmpEq_excl manualOnKey (by decide) hkey
  simp only [nextionDispatch, hkey, hon, Bool.false_eq_true, if_false, if_true]

theorem dispatch_upTime (hkey : memcmpEq memory upTimeKey = true) :
    nextionDispatch memory stack handle =
      if upTimeRejected (upTimeLocals memory stack) then
        (appNextionSetConsole handle "Thời gian không hợp lệ", none)
      else
        ({ handle with activeTime := upTimeLocals memory stack },
          handle.raise (.nextionSetSchedule (some (upTimeLocals memory stack)))) := by
  have hon := memcmpEq_excl manualOnKey (by decide) hkey
  have hoff := memcmpEq_excl manualOffKey (by decide) hkey
  simp only [nextionDispatch, hkey, hon, hoff, Bool.false_eq_true, if_false, if_true]
  rfl

theorem dispatch_page (hkey : memcmpEq memory pagePrefix = true) :
    nextionDispatch memory stack handle = (pageSelected memory handle, none) := by
  have hon := memcmpEq_excl manualOnKey (by decide) hkey
  have hoff := memcmpEq_excl manualOffKey (by decide) hkey
  have hup := memcmpEq_excl upTimeKey (by decide) hkey
  simp only [nextionDispatch, hkey, hon, hoff, hup, Bool.false_eq_true, if_false, if_true]

theorem dispatch_rtc (hkey : memcmpEq memory rtcPrefix = true) :
    nextionDispatch memory stack handle =
      (handle, handle.raise (.nextionSetTime (some (rtcForm memory)))) := by
  have hon := memcmpEq_excl manualOnKey (by decide) hkey
  have hoff := memcmpEq_excl manualOffKey (by decide) hkey
  have hup := memcmpEq_excl upTimeKey (by decide) hkey
  have hpage := memcmpEq_excl pagePrefix (by decide) hkey
  simp only [nextionDispatch, hkey, hon, hoff, hup, hpage, Bool.false_eq_true, if_false, if_true]

theorem dispatch_syncTime (hkey : memcmpEq memory syncTimeKey = true) :
    nextionDispatch memory stack handle = (handle, handle.raise .nextionSyncTime) := by
  have hon := memcmpEq_excl manualOnKey (by decide) hkey
  have hoff := memcmpEq_excl manualOffKey (by decide) hkey
  have hup := memcmpEq_excl upTimeKey (by decide) hkey
  have hpage := memcmpEq_excl pagePrefix (by decide) hkey
  have hrtc := memcmpEq_excl rtcPrefix (by decide) hkey
  simp only [nextionDispatch, hkey, hon, hoff, hup, hpage, hrtc, Bool.false_eq_true, if_false,
    if_true]

end keys

theorem nextionDispatch_callback (memory : Bytes) (stack : ActiveTime) (handle : Nextion) :
    (nextionDispatch memory stack handle).1.callback = handle.callback := by
  unfold nextionDispatch
  dsimp only
  split_ifs <;> first | rfl | exact (pageSelected_keeps handle memory).2.1

/-- **What an iteration of the read task can be.** The mode shown is not touched, and an event
is one of five, raised by the command at the head of the buffer. -/
theorem nextionDispatch_cases (memory : Bytes) (stack : ActiveTime) (handle : Nextion) :
    (nextionDispatch memory stack handle).1.mode = handle.mode ∧
      ((nextionDispatch memory stack handle).2 = none ∨
        memcmpEq memory manualOnKey = true ∧
          (nextionDispatch memory stack handle).2 = some .nextionManualOn ∨
        (nextionDispatch memory stack handle).2 = some .nextionManualOff ∨
        memcmpEq memory upTimeKey = true ∧ upTimeRejected (upTimeLocals memory stack) = false ∧
          (nextionDispatch memory stack handle).2 =
            some (.nextionSetSchedule (some (upTimeLocals memory stack))) ∨
        (∃ form, (nextionDispatch memory stack handle).2 = some (.nextionSetTime (some form))) ∨
        (nextionDispatch memory stack handle).2 = some .nextionSyncTime) := by
  unfold nextionDispatch
  dsimp only
  split_ifs with hon hoff hup hrejected hpage hrtc hsync hsleep
  · exact ⟨rfl, (handle.raise_cases _).imp id fun h => Or.inl ⟨hon, h⟩⟩
  · exact ⟨rfl, (handle.raise_cases _).imp id fun h => Or.inr (Or.inl h)⟩
  · exact ⟨rfl, Or.inl rfl⟩
  · refine ⟨rfl, (Nextion.raise_cases _ _).imp id fun h => Or.inr (Or.inr (Or.inl ⟨hup, ?_, h⟩))⟩
    simpa using hrejected
  · exact ⟨(pageSelected_keeps handle memory).1, Or.inl rfl⟩
  · exact ⟨rfl, (handle.raise_cases _).imp id fun h =>
      Or.inr (Or.inr (Or.inr (Or.inl ⟨_, h⟩)))⟩
  · exact ⟨rfl, (handle.raise_cases _).imp id fun h => Or.inr (Or.inr (Or.inr (Or.inr h)))⟩
  · exact ⟨rfl, Or.inl rfl⟩
  · exact ⟨rfl, Or.inl rfl⟩

/-- A schedule is raised for the locals of an `@up_time` that is not rejected. -/
theorem dispatch_setSchedule {memory : Bytes} {stack : ActiveTime} {handle : Nextion}
    {payload : Option ActiveTime}
    (h : (nextionDispatch memory stack handle).2 = some (.nextionSetSchedule payload)) :
    memcmpEq memory upTimeKey = true ∧ upTimeRejected (upTimeLocals memory stack) = false ∧
      payload = some (upTimeLocals memory stack) := by
  have hn := (nextionDispatch_cases memory stack handle).2
  rw [h] at hn
  rcases hn with h | ⟨-, h⟩ | h | ⟨hkey, hok, h⟩ | ⟨form, h⟩ | h
  · exact absurd h (by simp)
  · exact absurd h (by simp)
  · exact absurd h (by simp)
  · exact ⟨hkey, hok, Event.nextionSetSchedule.inj (Option.some.inj h)⟩
  · exact absurd h (by simp)
  · exact absurd h (by simp)

/-- A time is raised for an `@rtc` only. -/
theorem dispatch_setTime {memory : Bytes} {stack : ActiveTime} {handle : Nextion}
    {payload : Option DateTimeForm}
    (h : (nextionDispatch memory stack handle).2 = some (.nextionSetTime payload)) :
    memcmpEq memory rtcPrefix = true := by
  unfold nextionDispatch Nextion.raise at h
  dsimp only at h
  split_ifs at h with hon _ hoff _ hup hrejected _ hpage hrtc
  all_goals simp_all

/-- Only a schedule changes the times shown. -/
theorem dispatch_activeTime {memory : Bytes} (h : memcmpEq memory upTimeKey = false)
    (stack : ActiveTime) (handle : Nextion) :
    (nextionDispatch memory stack handle).1.activeTime = handle.activeTime := by
  unfold nextionDispatch
  simp only [h, Bool.false_eq_true, if_false]
  split_ifs <;> first | rfl | exact (pageSelected_keeps handle memory).2.2

/-- The five events of the read task. -/
theorem nextionReadTask_events {r : NextionRead} {buffer : RxBuffer} {handle : Nextion}
    {e : Event} (he : (nextionReadTask r buffer handle).2.2 = some e) :
    e = .nextionManualOn ∨ e = .nextionManualOff ∨ (∃ t, e = .nextionSetSchedule (some t)) ∨
      (∃ form, e = .nextionSetTime (some form)) ∨ e = .nextionSyncTime := by
  unfold nextionReadTask at he
  split at he
  · exact absurd he (by simp)
  · have hn := (nextionDispatch_cases ((buffer.store r).bytes ++ r.beyond) r.stack handle).2
    dsimp only at he
    rw [he] at hn
    rcases hn with h | ⟨-, h⟩ | h | ⟨-, -, h⟩ | ⟨form, h⟩ | h
    · exact absurd h (by simp)
    · exact Or.inl (Option.some.inj h)
    · exact Or.inr (Or.inl (Option.some.inj h))
    · exact Or.inr (Or.inr (Or.inl ⟨_, Option.some.inj h⟩))
    · exact Or.inr (Or.inr (Or.inr (Or.inl ⟨form, Option.some.inj h⟩)))
    · exact Or.inr (Or.inr (Or.inr (Or.inr (Option.some.inj h))))

/-- The on-button is raised by its command and by nothing else. -/
theorem nextionReadTask_manualOn {r : NextionRead} {buffer : RxBuffer} {handle : Nextion}
    (hcb : handle.callback = true) :
    (nextionReadTask r buffer handle).2.2 = some .nextionManualOn ↔
      r.bytes ≠ [] ∧ memcmpEq (buffer.store r).bytes manualOnKey = true := by
  have hlen : manualOnKey.length ≤ (buffer.store r).bytes.length := by
    rw [(buffer.store r).length_eq]
    decide
  unfold nextionReadTask
  by_cases hr : r.bytes = []
  · simp [hr]
  · simp only [List.length_eq_zero_iff, hr, if_false, ne_eq, not_false_eq_true, true_and]
    rw [← memcmpEq_append hlen]
    constructor
    · intro h
      have hn := (nextionDispatch_cases ((buffer.store r).bytes ++ r.beyond) r.stack handle).2
      rw [h] at hn
      rcases hn with h | ⟨hkey, -⟩ | h | ⟨-, -, h⟩ | ⟨form, h⟩ | h
      · exact absurd h (by simp)
      · exact hkey
      · exact absurd h (by simp)
      · exact absurd h (by simp)
      · exact absurd h (by simp)
      · exact absurd h (by simp)
    · intro hkey
      rw [dispatch_manualOn r.stack handle hkey]
      simp [Nextion.raise, hcb]

/-- A schedule is raised by an `@up_time` command that is not rejected, and by nothing else. -/
theorem nextionReadTask_setSchedule {r : NextionRead} {buffer : RxBuffer} {handle : Nextion}
    (hcb : handle.callback = true) (t : ActiveTime) :
    (nextionReadTask r buffer handle).2.2 = some (.nextionSetSchedule (some t)) ↔
      r.bytes ≠ [] ∧ memcmpEq (buffer.store r).bytes upTimeKey = true ∧
        t = upTimeLocals ((buffer.store r).bytes ++ r.beyond) r.stack ∧
          upTimeRejected t = false := by
  have hlen : upTimeKey.length ≤ (buffer.store r).bytes.length := by
    rw [(buffer.store r).length_eq]
    decide
  unfold nextionReadTask
  by_cases hr : r.bytes = []
  · simp [hr]
  · simp only [List.length_eq_zero_iff, hr, if_false, ne_eq, not_false_eq_true, true_and]
    rw [← memcmpEq_append hlen]
    generalize (buffer.store r).bytes ++ r.beyond = memory
    constructor
    · intro h
      obtain ⟨hkey, hok, hpayload⟩ := dispatch_setSchedule h
      obtain rfl := Option.some.inj hpayload
      exact ⟨hkey, rfl, hok⟩
    · rintro ⟨hkey, rfl, hok⟩
      -- The keys of the two buttons differ from this one in their second byte.
      rw [dispatch_upTime r.stack handle hkey]
      simp [hok, Nextion.raise, hcb]

end Lighting
