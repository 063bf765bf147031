import Lighting.Lib.Shuffle
import Lighting.Alarms.Copies

/-!
# Two schedules at once

A schedule `A` of the server is handled in the websocket receive task, a schedule `B` of the
display in its read task, and nothing keeps the two apart. `Call` lists the module calls of the
two handlers; `serverCalls_eq` and `displayCalls_eq` say that each list alone is the handler.

Every call writes one of seven places and the places are written in different orders, so what
is left depends on the interleaving. One of the seven is not a copy of the schedule but the
local variable `storage_data` of the display's handler, and it is why more orders go wrong than
one would expect: the handler is handed a pointer to `handle->active_time`, a place the server's
handler writes, and reads it twice — into the local when it starts, and again at its end.

`one_schedule_left_iff` lists the orders that are safe. For two different schedules they are:
the server's write of the display falls between the display's own write and its first read; or
the display's later calls come before the server's; or the server is past its write of the
display before the command arrives, and its last call comes before the display's.
-/

set_option autoImplicit false

namespace Lighting

open Runs Shuffles WriteBack

inductive Call where
  | serverSetData
  | serverSaveData
  | serverAddStart
  | serverAddEnd
  | serverSetNextion
  | serverUpdateWebsocket
  | displaySetNextion
  | displayReadLocal
  | displaySetData
  | displaySaveData
  | displayAddStart
  | displayAddEnd
  | displayUpdateWebsocket
  deriving DecidableEq, Repr

/-- `WEBSOCKET_ON_SETTING_ACTIVE_TIME`, call by call. -/
def serverCalls : List Call :=
  [.serverSetData, .serverSaveData, .serverAddStart, .serverAddEnd, .serverSetNextion,
    .serverUpdateWebsocket]

/-- The `@up_time` branch of `_nextion_read_task` and `APP_NEXTION_EVENT_SET_SCHEDULE`. -/
def displayCalls : List Call :=
  [.displaySetNextion, .displayReadLocal, .displaySetData, .displaySaveData, .displayAddStart,
    .displayAddEnd, .displayUpdateWebsocket]

/-- The device, and the local variable `storage_data` of the display's handler. -/
structure Writers where
  app : App
  storageData : AppStorageData

namespace App

def setData (data : AppStorageData) (app : App) : App :=
  { app with storage := (appStorageSetData app.storage data).2 }

/-- `app_storage_save_data`, with NVS calls that succeed. -/
def saveData (app : App) : App :=
  { app with nvs := (appStorageSaveData ⟨.ok, .ok⟩ app.storage app.nvs).2 }

def addAlarm (hour minute : Int) (type : ScheduleType) (app : App) : App :=
  { app with schedule := appScheduleAddAlarm app.schedule hour minute type }

end App

/-- One call, for the schedules `A` of the server and `B` of the display. -/
def Writers.call (A B : ActiveTime) : Call → Writers → Writers
  | .serverSetData, w => { w with app := w.app.setData (.ofActiveTime A) }
  | .serverSaveData, w => { w with app := w.app.saveData }
  | .serverAddStart, w =>
    { w with app := w.app.addAlarm A.startHour A.startMinute .activeStart }
  | .serverAddEnd, w => { w with app := w.app.addAlarm A.endHour A.endMinute .activeEnd }
  | .serverSetNextion, w => { w with app := w.app.onNextion (appNextionSetActiveTime · A) }
  | .serverUpdateWebsocket, w =>
    { w with app := w.app.onWebsocket (appWebsocketUpdateActiveTime · A) }
  | .displaySetNextion, w => { w with app := w.app.onNextion ({ · with activeTime := B }) }
  | .displayReadLocal, w => { w with storageData := .ofActiveTime w.app.nextion.activeTime }
  | .displaySetData, w => { w with app := w.app.setData w.storageData }
  | .displaySaveData, w => { w with app := w.app.saveData }
  | .displayAddStart, w =>
    { w with
      app := w.app.addAlarm w.storageData.startHour w.storageData.startMinute .activeStart }
  | .displayAddEnd, w =>
    { w with app := w.app.addAlarm w.storageData.endHour w.storageData.endMinute .activeEnd }
  | .displayUpdateWebsocket, w =>
    -- The pointer is dereferenced again here.
    { w with
      app := w.app.onWebsocket (appWebsocketUpdateActiveTime · w.app.nextion.activeTime) }

/-- Every copy holds the schedule `t`. -/
structure Writers.Hold (t : ActiveTime) (w : Writers) : Prop where
  record : w.app.storage = some ⟨.ofActiveTime t⟩
  flash : w.app.nvs.read = some (.record (.ofActiveTime t))
  start : w.app.schedule.startJob.startHour = t.startHour ∧
    w.app.schedule.startJob.startMinute = t.startMinute
  finish : w.app.schedule.endJob.startHour = t.endHour ∧
    w.app.schedule.endJob.startMinute = t.endMinute
  nextion : w.app.nextion.activeTime = t
  websocket : w.app.websocket.activeTime = t

/-! ## The handlers are their calls -/

section handlers

variable (A B : ActiveTime) (app : App) (data : AppStorageData)

theorem saveRecord_eq (h : app.saveOutcomes.head = ⟨.ok, .ok⟩) :
    app.saveRecord data =
      { (app.setData data).saveData with saveOutcomes := app.saveOutcomes.tail } := by
  simp [App.saveRecord, App.setData, App.saveData, h]

/-- **The server's handler**, up to the record of the event. -/
theorem serverCalls_eq (h : app.saveOutcomes.head = ⟨.ok, .ok⟩) :
    eventCallback (.websocketOnSettingActiveTime (some A)) app =
      { (after (Writers.call A B)
          ⟨app.enter (.websocketOnSettingActiveTime (some A)), data⟩ serverCalls).app with
        saveOutcomes := app.saveOutcomes.tail } := by
  simp only [eventCallback]
  rw [saveRecord_eq (app.enter (.websocketOnSettingActiveTime (some A))) (.ofActiveTime A) h]
  rfl

/-- **The display's handler**, up to the record of the event and the text on the console. -/
theorem displayCalls_eq (h : app.saveOutcomes.head = ⟨.ok, .ok⟩) :
    eventCallback (.nextionSetSchedule (some B)) (app.onNextion ({ · with activeTime := B })) =
      { (after (Writers.call A B)
          ⟨app.enter (.nextionSetSchedule (some B)), data⟩ displayCalls).app.onNextion
            (appNextionSetConsole · "Thiết lập thành công") with
        saveOutcomes := app.saveOutcomes.tail } := by
  simp only [eventCallback]
  rw [saveRecord_eq ((app.onNextion ({ · with activeTime := B })).enter
    (.nextionSetSchedule (some B))) (.ofActiveTime B) h]
  rfl

end handlers

/-! ## The registers -/

section registers

variable {A B : ActiveTime}

theorem call_nextion {c : Call} (h : c ≠ .serverSetNextion) (h' : c ≠ .displaySetNextion)
    (w : Writers) : (w.call A B c).app.nextion = w.app.nextion := by
  cases c <;> first | rfl | exact absurd rfl h | exact absurd rfl h'

theorem call_storageData {c : Call} (h : c ≠ .displayReadLocal) (w : Writers) :
    (w.call A B c).storageData = w.storageData := by
  cases c <;> first | rfl | exact absurd rfl h

theorem call_storage {c : Call} (h : c ≠ .serverSetData) (h' : c ≠ .displaySetData)
    (w : Writers) : (w.call A B c).app.storage = w.app.storage := by
  cases c <;> first | rfl | exact absurd rfl h | exact absurd rfl h'

theorem call_nvs {c : Call} (h : c ≠ .serverSaveData) (h' : c ≠ .displaySaveData)
    (w : Writers) : (w.call A B c).app.nvs = w.app.nvs := by
  cases c <;> first | rfl | exact absurd rfl h | exact absurd rfl h'

theorem call_startJob {c : Call} (h : c ≠ .serverAddStart) (h' : c ≠ .displayAddStart)
    (w : Writers) : (w.call A B c).app.schedule.startJob = w.app.schedule.startJob := by
  cases c <;> first | rfl | exact absurd rfl h | exact absurd rfl h'

theorem call_endJob {c : Call} (h : c ≠ .serverAddEnd) (h' : c ≠ .displayAddEnd)
    (w : Writers) : (w.call A B c).app.schedule.endJob = w.app.schedule.endJob := by
  cases c <;> first | rfl | exact absurd rfl h | exact absurd rfl h'

theorem call_websocket {c : Call} (h : c ≠ .serverUpdateWebsocket)
    (h' : c ≠ .displayUpdateWebsocket) (w : Writers) :
    (w.call A B c).app.websocket = w.app.websocket := by
  cases c <;> first | rfl | exact absurd rfl h | exact absurd rfl h'

theorem update_activeTime (handle : Websocket) (t : ActiveTime) :
    (appWebsocketUpdateActiveTime handle t).activeTime = t := by
  unfold appWebsocketUpdateActiveTime
  dsimp only
  split <;> rfl

end registers

/-! ## What is left -/

section orders

variable {A B : ActiveTime} {m : List Call}

theorem calls_nodup (hm : Shuffle serverCalls displayCalls m) : m.Nodup :=
  hm.perm.nodup_iff.mpr (by decide)

theorem mem_calls (hm : Shuffle serverCalls displayCalls m) (c : Call) : c ∈ m := by
  rw [hm.perm.mem_iff]
  cases c <;> decide

theorem server_order (hm : Shuffle serverCalls displayCalls m) {x y : Call}
    (h : x ∈ earlier serverCalls y := by decide) (hy : y ∉ displayCalls := by decide) :
    x ∈ earlier m y :=
  hm.earlier_left h hy

theorem display_order (hm : Shuffle serverCalls displayCalls m) {x y : Call}
    (h : x ∈ earlier displayCalls y := by decide) (hy : y ∉ serverCalls := by decide) :
    x ∈ earlier m y :=
  hm.earlier_right h hy

/-- The schedule the display's handler copied into its local: `A` if the server's write of the
display fell between the display's own and the copy. -/
def copied (A B : ActiveTime) (m : List Call) : ActiveTime :=
  if .displaySetNextion ∈ earlier m .serverSetNextion ∧
      .serverSetNextion ∈ earlier m .displayReadLocal then A else B

/-- The schedule on the display, once both have written it. -/
def shown (A B : ActiveTime) (m : List Call) : ActiveTime :=
  if .serverSetNextion ∈ earlier m .displaySetNextion then B else A

def recorded (A B : ActiveTime) (m : List Call) : ActiveTime :=
  if .serverSetData ∈ earlier m .displaySetData then copied A B m else A

theorem shown_earlier {v : Call} (hd : .displaySetNextion ∈ earlier m v) :
    shown A B (earlier m v) = shown A B m := by
  unfold shown
  rw [earlier_earlier hd]

theorem copied_earlier {v : Call} (hl : .displayReadLocal ∈ earlier m v) :
    copied A B (earlier m v) = copied A B m := by
  unfold copied
  rw [earlier_earlier hl]
  by_cases hs : .serverSetNextion ∈ earlier m .displayReadLocal
  · rw [earlier_earlier (earlier_trans hs hl)]
  · rw [if_neg fun h => hs h.2, if_neg fun h => hs h.2]

theorem recorded_earlier {v : Call} (hd : .displaySetData ∈ earlier m v)
    (hl : .displayReadLocal ∈ earlier m .displaySetData) :
    recorded A B (earlier m v) = recorded A B m := by
  unfold recorded
  rw [earlier_earlier hd, copied_earlier (earlier_trans hl hd)]

variable {w : Writers}

theorem after_nextion (hnd : m.Nodup) (hs : .serverSetNextion ∈ m) (hd : .displaySetNextion ∈ m) :
    (after (Writers.call A B) w m).app.nextion.activeTime = shown A B m := by
  have hfinal := final_two (Writers.call A B) (f := fun w => w.app.nextion) hnd hs hd
    (by decide) (fun c hc hc' => call_nextion hc hc') w
  rw [hfinal]
  unfold shown
  split
  · rfl
  · rfl

/-- What the display's handler has in its local after it has read it. -/
theorem after_storageData (hnd : m.Nodup) (hl : .displayReadLocal ∈ m)
    (hd : .displaySetNextion ∈ earlier m .displayReadLocal) :
    (after (Writers.call A B) w m).storageData = .ofActiveTime (copied A B m) := by
  have hfinal := final_last (Writers.call A B) (f := fun w => w.storageData) hnd hl
    (fun c _ hc _ => call_storageData hc) w
  have hnd' := earlier_nodup hnd .displayReadLocal
  rw [hfinal]
  show AppStorageData.ofActiveTime _ = _
  congr 1
  unfold copied
  by_cases hs : .serverSetNextion ∈ earlier m .displayReadLocal
  · rw [after_nextion hnd' hs hd]
    unfold shown
    rw [earlier_earlier hd]
    have hsm := mem_of_mem_earlier hs
    have hdm := mem_of_mem_earlier hd
    by_cases horder : .serverSetNextion ∈ earlier m .displaySetNextion
    · rw [if_pos horder, if_neg fun h => earlier_asymm horder h.1]
    · have hds := (mem_earlier_iff hdm hsm (by decide)).mpr horder
      rw [if_neg horder, if_pos ⟨hds, hs⟩]
  · have hlast := final_last (Writers.call A B) (f := fun w => w.app.nextion) hnd' hd
      (fun c hc hne _ => call_nextion (fun h => hs (h ▸ hc)) hne) w
    rw [hlast, if_neg fun h => hs h.2]
    rfl

theorem call_isSome (c : Call) (w : Writers) (h : w.app.storage.isSome = true) :
    (w.call A B c).app.storage.isSome = true := by
  obtain ⟨handle, hst⟩ := Option.isSome_iff_exists.mp h
  have hset : ∀ data, (w.app.setData data).storage.isSome = true := fun data => by
    simp [App.setData, appStorageSetData, hst]
  cases c with
  | serverSetData => exact hset _
  | displaySetData => exact hset _
  | _ => exact h

theorem setData_storage {app : App} (h : app.storage.isSome = true) (data : AppStorageData) :
    (app.setData data).storage = some ⟨data⟩ := by
  obtain ⟨handle, hst⟩ := Option.isSome_iff_exists.mp h
  simp [App.setData, appStorageSetData, hst]

theorem saveData_read {app : App} {data : AppStorageData} (h : app.storage = some ⟨data⟩) :
    app.saveData.nvs.read = some (.record data) := by
  simp [App.saveData, appStorageSaveData, h, nvsSetBlob]

/-- The record, once both have set it. -/
theorem after_storage (hw : w.app.storage.isSome = true) (hnd : m.Nodup)
    (hs : .serverSetData ∈ m) (hd : .displaySetData ∈ m)
    (hl : .displayReadLocal ∈ earlier m .displaySetData)
    (hn : .displaySetNextion ∈ earlier m .displayReadLocal) :
    (after (Writers.call A B) w m).app.storage =
      some ⟨.ofActiveTime (recorded A B m)⟩ := by
  have hsome : ∀ l, (after (Writers.call A B) w l).app.storage.isSome = true := fun l =>
    after_invariant (fun c w h => call_isSome c w h) hw
  have hfinal := final_two (Writers.call A B) (f := fun w => w.app.storage) hnd hs hd
    (by decide) (fun c hc hc' => call_storage hc hc') w
  rw [hfinal]
  unfold recorded
  split
  · have hdata := after_storageData (A := A) (B := B) (w := w)
      (earlier_nodup hnd .displaySetData) hl (by rwa [earlier_earlier hl])
    rw [copied_earlier hl] at hdata
    rw [← hdata]
    exact setData_storage (hsome _) _
  · exact setData_storage (hsome _) _

/-! ## Both handlers finished -/

def startOf (A B : ActiveTime) (m : List Call) : ActiveTime :=
  if .serverAddStart ∈ earlier m .displayAddStart then copied A B m else A

def endOf (A B : ActiveTime) (m : List Call) : ActiveTime :=
  if .serverAddEnd ∈ earlier m .displayAddEnd then copied A B m else A

def told (A B : ActiveTime) (m : List Call) : ActiveTime :=
  if .serverUpdateWebsocket ∈ earlier m .displayUpdateWebsocket then shown A B m else A

/-- **What two handlers leave behind**, place by place. -/
structure LeftOver (A B : ActiveTime) (m : List Call) (app : App) : Prop where
  record : app.storage = some ⟨.ofActiveTime (recorded A B m)⟩
  flash : app.nvs.read = some (.record (.ofActiveTime (recorded A B m)))
  start : app.schedule.startJob.startHour = (startOf A B m).startHour ∧
    app.schedule.startJob.startMinute = (startOf A B m).startMinute
  finish : app.schedule.endJob.startHour = (endOf A B m).endHour ∧
    app.schedule.endJob.startMinute = (endOf A B m).endMinute
  nextion : app.nextion.activeTime = shown A B m
  websocket : app.websocket.activeTime = told A B m

/-- The local of the display's handler at a call it makes after the copy. -/
theorem storageData_at (hm : Shuffle serverCalls displayCalls m) {v : Call}
    (hv : .displayReadLocal ∈ earlier m v) :
    (after (Writers.call A B) w (earlier m v)).storageData = .ofActiveTime (copied A B m) := by
  have hn : .displaySetNextion ∈ earlier m .displayReadLocal := display_order hm
  rw [← copied_earlier hv]
  exact after_storageData (earlier_nodup (calls_nodup hm) v) hv (by rwa [earlier_earlier hv])

/-- Whoever saves last finds the record set by both. -/
theorem after_flash (hm : Shuffle serverCalls displayCalls m) (hw : w.app.storage.isSome = true) :
    (after (Writers.call A B) w m).app.nvs.read =
      some (.record (.ofActiveTime (recorded A B m))) := by
  have hnd := calls_nodup hm
  have hn : .displaySetNextion ∈ earlier m .displayReadLocal := display_order hm
  have hl : .displayReadLocal ∈ earlier m .displaySetData := display_order hm
  have hread : ∀ v, .serverSetData ∈ earlier m v → .displaySetData ∈ earlier m v →
      (after (Writers.call A B) w (earlier m v)).app.saveData.nvs.read =
        some (.record (.ofActiveTime (recorded A B m))) := by
    intro v hs hd
    rw [← recorded_earlier hd hl]
    refine saveData_read (after_storage hw (earlier_nodup hnd v) hs hd ?_ ?_)
    · rwa [earlier_earlier hd]
    · rwa [earlier_earlier (earlier_trans hl hd)]
  have hfinal := final_two (Writers.call A B) (f := fun w => w.app.nvs.read) hnd
    (mem_calls hm .serverSaveData) (mem_calls hm .displaySaveData) (by decide)
    (fun c hc hc' w => by rw [call_nvs hc hc']) w
  rw [hfinal]
  split
  case isTrue h =>
    exact hread .displaySaveData (earlier_trans (server_order hm) h) (display_order hm)
  case isFalse h =>
    have h' := (mem_earlier_iff (mem_calls hm .displaySaveData) (mem_calls hm .serverSaveData)
      (by decide)).mpr h
    exact hread .serverSaveData (server_order hm) (earlier_trans (display_order hm) h')

theorem after_startJob (hm : Shuffle serverCalls displayCalls m) :
    (after (Writers.call A B) w m).app.schedule.startJob.startHour = (startOf A B m).startHour ∧
      (after (Writers.call A B) w m).app.schedule.startJob.startMinute =
        (startOf A B m).startMinute := by
  have hfinal := final_two (Writers.call A B) (f := fun w => w.app.schedule.startJob)
    (calls_nodup hm) (mem_calls hm .serverAddStart) (mem_calls hm .displayAddStart) (by decide)
    (fun c hc hc' => call_startJob hc hc') w
  rw [hfinal]
  unfold startOf
  split
  · have hread : .displayReadLocal ∈ earlier m .displayAddStart := display_order hm
    have hlocal := storageData_at (A := A) (B := B) (w := w) hm hread
    simp only [Writers.call, hlocal]
    exact ⟨rfl, rfl⟩
  · exact ⟨rfl, rfl⟩

theorem after_endJob (hm : Shuffle serverCalls displayCalls m) :
    (after (Writers.call A B) w m).app.schedule.endJob.startHour = (endOf A B m).endHour ∧
      (after (Writers.call A B) w m).app.schedule.endJob.startMinute =
        (endOf A B m).endMinute := by
  have hfinal := final_two (Writers.call A B) (f := fun w => w.app.schedule.endJob)
    (calls_nodup hm) (mem_calls hm .serverAddEnd) (mem_calls hm .displayAddEnd) (by decide)
    (fun c hc hc' => call_endJob hc hc') w
  rw [hfinal]
  unfold endOf
  split
  · have hread : .displayReadLocal ∈ earlier m .displayAddEnd := display_order hm
    have hlocal := storageData_at (A := A) (B := B) (w := w) hm hread
    simp only [Writers.call, hlocal]
    exact ⟨rfl, rfl⟩
  · exact ⟨rfl, rfl⟩

/-- The session is told what the display holds, by the display's handler. -/
theorem after_websocket (hm : Shuffle serverCalls displayCalls m) :
    (after (Writers.call A B) w m).app.websocket.activeTime = told A B m := by
  have hnd := calls_nodup hm
  have hfinal := final_two (Writers.call A B) (f := fun w => w.app.websocket.activeTime) hnd
    (mem_calls hm .serverUpdateWebsocket) (mem_calls hm .displayUpdateWebsocket) (by decide)
    (fun c hc hc' w => by rw [call_websocket hc hc']) w
  rw [hfinal]
  unfold told
  split
  case isTrue h =>
    have hs : .serverSetNextion ∈ earlier m .displayUpdateWebsocket :=
      earlier_trans (server_order hm) h
    have hshown := after_nextion (A := A) (B := B) (w := w)
      (earlier_nodup hnd .displayUpdateWebsocket) hs (display_order hm)
    rw [shown_earlier (display_order hm)] at hshown
    rw [← hshown]
    exact update_activeTime _ _
  case isFalse h => exact update_activeTime _ _

theorem leftOver (hm : Shuffle serverCalls displayCalls m) (hw : w.app.storage.isSome = true) :
    LeftOver A B m (after (Writers.call A B) w m).app where
  record := after_storage hw (calls_nodup hm) (mem_calls hm _) (mem_calls hm _)
    (display_order hm) (display_order hm)
  flash := after_flash hm hw
  start := after_startJob hm
  finish := after_endJob hm
  nextion := after_nextion (calls_nodup hm) (mem_calls hm _) (mem_calls hm _)
  websocket := after_websocket hm

/-! ## When one schedule is left -/

/-- The orders that are safe for two different schedules. -/
def Safe (A B : ActiveTime) (m : List Call) : Prop :=
  (.displaySetNextion ∈ earlier m .serverSetNextion ∧
      .serverSetNextion ∈ earlier m .displayReadLocal) ∨
    (.displaySetData ∈ earlier m .serverSetData ∧
      (.displayAddStart ∈ earlier m .serverAddStart ∨
        A.startHour = B.startHour ∧ A.startMinute = B.startMinute) ∧
      (.displayAddEnd ∈ earlier m .serverAddEnd ∨
        A.endHour = B.endHour ∧ A.endMinute = B.endMinute)) ∨
    (.serverSetNextion ∈ earlier m .displaySetNextion ∧
      .serverUpdateWebsocket ∈ earlier m .displayUpdateWebsocket)

theorem ofActiveTime_inj {a b : ActiveTime} :
    AppStorageData.ofActiveTime a = AppStorageData.ofActiveTime b ↔ a = b := by
  cases a
  cases b
  simp [AppStorageData.ofActiveTime]

/-- `t` is what is left in every place. -/
def Leaves (A B : ActiveTime) (m : List Call) (t : ActiveTime) : Prop :=
  recorded A B m = t ∧
    ((startOf A B m).startHour = t.startHour ∧ (startOf A B m).startMinute = t.startMinute) ∧
    ((endOf A B m).endHour = t.endHour ∧ (endOf A B m).endMinute = t.endMinute) ∧
    shown A B m = t ∧ told A B m = t

/-- Every copy holds `t` if and only if `t` is what was left in each. -/
theorem hold_iff (h : LeftOver A B m w.app) (t : ActiveTime) : w.Hold t ↔ Leaves A B m t := by
  constructor
  · intro ht
    have hrecord := h.record.symm.trans ht.record
    simp only [Option.some.injEq, Storage.mk.injEq, ofActiveTime_inj] at hrecord
    have hstart := ht.start
    have hfinish := ht.finish
    rw [h.start.1, h.start.2] at hstart
    rw [h.finish.1, h.finish.2] at hfinish
    exact ⟨hrecord, hstart, hfinish, h.nextion.symm.trans ht.nextion,
      h.websocket.symm.trans ht.websocket⟩
  · rintro ⟨hrecord, hstart, hfinish, hnextion, hwebsocket⟩
    refine ⟨?_, ?_, ?_, ?_, h.nextion.trans hnextion, h.websocket.trans hwebsocket⟩
    · rw [h.record, hrecord]
    · rw [h.flash, hrecord]
    · rw [h.start.1, h.start.2]; exact hstart
    · rw [h.finish.1, h.finish.2]; exact hfinish

/-- The server was past the display when the command arrived: only the session can differ. -/
theorem left_of_server_first (hm : Shuffle serverCalls displayCalls m)
    (h : .serverSetNextion ∈ earlier m .displaySetNextion) :
    recorded A B m = B ∧ startOf A B m = B ∧ endOf A B m = B ∧ shown A B m = B := by
  have hcopied : copied A B m = B := if_neg fun hc => earlier_asymm h hc.1
  have hd : ∀ c, c ∈ earlier m .serverSetNextion → ∀ d, .displaySetNextion ∈ earlier m d →
      c ∈ earlier m d := fun c hc d hd => earlier_trans (earlier_trans hc h) hd
  refine ⟨?_, ?_, ?_, if_pos h⟩
  · unfold recorded
    rw [if_pos (hd _ (server_order hm) _ (display_order hm)), hcopied]
  · unfold startOf
    rw [if_pos (hd _ (server_order hm) _ (display_order hm)), hcopied]
  · unfold endOf
    rw [if_pos (hd _ (server_order hm) _ (display_order hm)), hcopied]

/-- The command was first on the display: the display and the session hold `A`. -/
theorem left_of_display_first (h : .serverSetNextion ∉ earlier m .displaySetNextion) :
    shown A B m = A ∧ told A B m = A := by
  have hshown : shown A B m = A := if_neg h
  refine ⟨hshown, ?_⟩
  unfold told
  rw [hshown, ite_self]

/-- If the server was past the display, one schedule is left exactly if its last call comes
first, too. -/
theorem leaves_iff_of_server_first (hm : Shuffle serverCalls displayCalls m)
    (h : .serverSetNextion ∈ earlier m .displaySetNextion) :
    Leaves A B m A ∨ Leaves A B m B ↔ A = B ∨ Safe A B m := by
  obtain ⟨hr, hs, he, hn⟩ := left_of_server_first (A := A) (B := B) hm h
  have hset : .serverSetData ∈ earlier m .displaySetData :=
    earlier_trans (earlier_trans (server_order hm) h) (display_order hm)
  have hsafe : Safe A B m ↔ .serverUpdateWebsocket ∈ earlier m .displayUpdateWebsocket := by
    unfold Safe
    constructor
    · rintro (⟨hd, -⟩ | ⟨hd, -⟩ | ⟨-, hws⟩)
      · exact absurd hd (earlier_asymm h)
      · exact absurd hd (earlier_asymm hset)
      · exact hws
    · intro hws
      exact Or.inr (Or.inr ⟨h, hws⟩)
  unfold Leaves
  rw [hr, hs, he, hn, hsafe]
  unfold told
  rw [hn]
  by_cases hws : .serverUpdateWebsocket ∈ earlier m .displayUpdateWebsocket
  · simp [hws]
  · simp only [hws, if_false, or_false, and_self, true_and]
    constructor
    · rintro (⟨hBA, -⟩ | hAB)
      · exact hBA.symm
      · exact hAB
    · exact Or.inr

/-- If the command was first on the display, one schedule is left exactly if it is `A`: the
local is a copy of `A`, or the server's calls come after the display's wherever the two
schedules differ. -/
theorem leaves_iff_of_display_first (hm : Shuffle serverCalls displayCalls m)
    (h : .serverSetNextion ∉ earlier m .displaySetNextion) :
    Leaves A B m A ∨ Leaves A B m B ↔ A = B ∨ Safe A B m := by
  have hall := mem_calls hm
  obtain ⟨hn, ht⟩ := left_of_display_first (A := A) (B := B) h
  have hds : .displaySetNextion ∈ earlier m .serverSetNextion :=
    (mem_earlier_iff (hall _) (hall _) (by decide)).mpr h
  unfold Leaves
  rw [hn, ht]
  by_cases hread : .serverSetNextion ∈ earlier m .displayReadLocal
  · -- The local is a copy of `A`, and everything made from it is too.
    have hcopied : copied A B m = A := if_pos ⟨hds, hread⟩
    have hsafe : Safe A B m := Or.inl ⟨hds, hread⟩
    simp [recorded, startOf, endOf, hcopied, hsafe]
  · have hcopied : copied A B m = B := if_neg fun hc => hread hc.2
    have hsafe : Safe A B m ↔
        (.displaySetData ∈ earlier m .serverSetData ∧
          (.displayAddStart ∈ earlier m .serverAddStart ∨
            A.startHour = B.startHour ∧ A.startMinute = B.startMinute) ∧
          (.displayAddEnd ∈ earlier m .serverAddEnd ∨
            A.endHour = B.endHour ∧ A.endMinute = B.endMinute)) := by
      unfold Safe
      simp [hread, h]
    rw [hsafe]
    by_cases hAB : A = B
    · subst hAB
      simp [recorded, startOf, endOf, hcopied]
    · rw [mem_earlier_iff (x := .displaySetData) (hall _) (hall .serverSetData) (by decide),
        mem_earlier_iff (x := .displayAddStart) (hall _) (hall .serverAddStart) (by decide),
        mem_earlier_iff (x := .displayAddEnd) (hall _) (hall .serverAddEnd) (by decide)]
      unfold recorded startOf endOf
      rw [hcopied]
      simp only [hAB, and_false, or_false, and_true, false_or]
      refine and_congr ?_ (and_congr ?_ ?_)
      · by_cases hs : .serverSetData ∈ earlier m .displaySetData
        · simp [hs, Ne.symm hAB]
        · simp [hs]
      · by_cases hs : .serverAddStart ∈ earlier m .displayAddStart
        · simp [hs, eq_comm]
        · simp [hs]
      · by_cases hs : .serverAddEnd ∈ earlier m .displayAddEnd
        · simp [hs, eq_comm]
        · simp [hs]

/-- **When one schedule is left.** After both handlers have finished, in whatever order their
calls were made, all copies hold `A` or all hold `B` exactly if the two are the same schedule
or the order was one of the safe ones. -/
theorem one_schedule_left_iff (A B : ActiveTime) (m : List Call)
    (hm : Shuffle serverCalls displayCalls m) (w : Writers)
    (hw : w.app.storage.isSome = true) :
    (after (Writers.call A B) w m).Hold A ∨ (after (Writers.call A B) w m).Hold B ↔
      A = B ∨ Safe A B m := by
  have hleft := leftOver (A := A) (B := B) hm hw
  rw [hold_iff hleft, hold_iff hleft]
  by_cases h : .serverSetNextion ∈ earlier m .displaySetNextion
  · exact leaves_iff_of_server_first hm h
  · exact leaves_iff_of_display_first hm h

/-- An order in which all of the display's calls come first. -/
theorem one_schedule_left_in_turn :
    let w := after (Writers.call ⟨8, 0, 17, 0⟩ ⟨9, 0, 18, 0⟩)
      ⟨appMain .clean (Cell.settled none), .zero⟩ (displayCalls ++ serverCalls)
    w.Hold ⟨8, 0, 17, 0⟩ ∨ w.Hold ⟨9, 0, 18, 0⟩ := by
  have hm : Shuffle serverCalls displayCalls (displayCalls ++ serverCalls) :=
    .right (.right (.right (.right (.right (.right (.right
      (.left (.left (.left (.left (.left (.left .nil))))))))))))
  have hsafe : Safe ⟨8, 0, 17, 0⟩ ⟨9, 0, 18, 0⟩ (displayCalls ++ serverCalls) :=
    Or.inr (Or.inl ⟨by decide, Or.inl (by decide), Or.inl (by decide)⟩)
  exact (one_schedule_left_iff ⟨8, 0, 17, 0⟩ ⟨9, 0, 18, 0⟩ _ hm
    ⟨appMain .clean (Cell.settled none), .zero⟩ rfl).mpr (Or.inr hsafe)

/-- The server's first three calls, then the whole of the display's, then the server's rest. -/
def mixedCalls : List Call :=
  serverCalls.take 3 ++ displayCalls ++ serverCalls.drop 3

/-- The start alarm is the display's and the end alarm the server's. -/
theorem mixedCalls_not_one :
    let w := after (Writers.call ⟨8, 0, 17, 0⟩ ⟨9, 0, 18, 0⟩)
      ⟨appMain .clean (Cell.settled none), .zero⟩ mixedCalls
    Shuffle serverCalls displayCalls mixedCalls ∧
      w.app.schedule.startJob.startHour = 9 ∧ w.app.schedule.endJob.startHour = 17 ∧
        ¬(w.Hold ⟨8, 0, 17, 0⟩ ∨ w.Hold ⟨9, 0, 18, 0⟩) := by
  refine ⟨?_, rfl, rfl, ?_⟩
  · exact .left (.left (.left (.right (.right (.right (.right (.right (.right (.right
      (.left (.left (.left .nil))))))))))))
  · rintro (h | h)
    · exact absurd h.start.1 (by decide)
    · exact absurd h.finish.1 (by decide)

end orders

end Lighting
