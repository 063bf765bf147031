import Mathlib.Logic.Function.Basic
import Mathlib.Tactic.SplitIfs
import Lighting.Model.Common

/-!
# `app_schedule.c` — alarms, clock synchronisation, the window test

The schedule handle with its two alarms, `_sync_time`, and one iteration of `_schedule_task`
up to the moment it has decided which trigger to raise. Raising it, and the restart check that
follows, are with `event_callback` in `Model/Main`: the decision and its delivery are separate
steps because other tasks run in between.

The clocks are not state here. Every reading of one — the system time, the RTC, how long SNTP
stays silent — is part of the input of an iteration, so a statement about all inputs is a
statement about every behaviour of the clocks. `localtime_r` normalises, which is what the
two range fields of `LocalTime` record.
-/

set_option autoImplicit false

namespace Lighting

/-- `struct tm`, as far as the firmware reads it. -/
structure Tm where
  tmSec : Int
  tmMin : Int
  tmHour : Int
  tmMday : Int
  tmMon : Int
  tmYear : Int
  deriving DecidableEq, Repr

/-- A `struct tm` filled by `localtime_r`. -/
structure LocalTime extends Tm where
  hour_range : 0 ≤ tmHour ∧ tmHour ≤ 23
  min_range : 0 ≤ tmMin ∧ tmMin ≤ 59

/-- `app_schedule_job_t`. -/
structure Job where
  type : ScheduleType
  index : Int
  startHour : Int
  startMinute : Int
  startSec : Int
  enable : Bool
  deriving DecidableEq, Repr

/-- `c_start_time`, `c_end_time`: minutes of the day in an `int`. Nothing bounds the hour of an
alarm, so the product may leave the range, and what the multiplication keeps are its low 32
bits. -/
def cTime (hour minute : Int) : Int := wrap32 (hour * 60 + minute)

def Job.minuteOfDay (job : Job) : Int := cTime job.startHour job.startMinute

/-- `app_schedule_t`. -/
structure Schedule where
  callback : Bool
  jobList : ScheduleType → Job
  isSync : Bool
  isInitSntp : Bool
  isForceSync : Bool
  nSyncTime : Int
  startJob : Job
  endJob : Job
  mode : OperatorMode

/-- What `malloc` returned for the handle and for the job list. -/
structure ScheduleMemory where
  jobList : ScheduleType → Job
  startJob : Job
  endJob : Job

/-- `app_schedule_init`: the job list is disabled, the two alarms are not assigned. -/
def appScheduleInit (callback : Bool) (mem : ScheduleMemory) : Schedule where
  callback := callback
  jobList := fun type => { mem.jobList type with enable := false }
  isSync := false
  isInitSntp := false
  isForceSync := true
  nSyncTime := 0
  startJob := mem.startJob
  endJob := mem.endJob
  mode := .off

def appScheduleAddAlarm (handle : Schedule) (hour minute : Int) (type : ScheduleType) :
    Schedule :=
  let handle := { handle with
    jobList := Function.update handle.jobList type
      { handle.jobList type with
        type := type, enable := true, startHour := hour, startMinute := minute, startSec := 0 } }
  match type with
  | .activeStart =>
    { handle with startJob := { handle.startJob with
        startHour := hour, startMinute := minute, enable := true, type := .activeStart } }
  | .activeEnd =>
    { handle with endJob := { handle.endJob with
        startHour := hour, startMinute := minute, enable := true, type := .activeEnd } }
  | .none => handle

def appScheduleSetMode (handle : Schedule) (mode : OperatorMode) : Schedule :=
  { handle with mode := mode }

def appScheduleSyncTime (handle : Schedule) : Schedule :=
  { handle with isForceSync := true, nSyncTime := 0, isSync := false }

/-- `app_schedule_set_time`; `rtcSet` is what `ds3231_set_time` answered. -/
def appScheduleSetTime (rtcSet : EspErr) (handle : Schedule) : EspErr × Schedule :=
  if rtcSet ≠ .ok then (.fail, handle) else (.ok, { handle with isSync := false })

/-- `app_gps_set_time`; it also drops a forced synchronisation. -/
def appGpsSetTime (rtcSet : EspErr) (handle : Schedule) : EspErr × Schedule :=
  if rtcSet ≠ .ok then (.fail, handle)
  else (.ok, { handle with isSync := false, isForceSync := false })

/-! ## `_sync_time` -/

/-- The year `2021` as `tm_year` counts. -/
def year2021 : Int := 2021 - 1900

/-- What one call of `_sync_time` finds: the system time, the RTC (`none` when it cannot be
read), the network, and how often SNTP still answers `SNTP_SYNC_STATUS_RESET`. -/
structure SyncEnv where
  sysTime : Tm
  rtc : Option Tm
  connected : Bool
  resets : Nat

/-- The wait for SNTP: a failure at the 61st silent reading, else synchronised. -/
def sntpWait : Nat → Schedule → EspErr × Schedule
  | 0, handle => (.ok, { handle with isSync := true, isInitSntp := false, isForceSync := false })
  | resets + 1, handle =>
    if handle.nSyncTime + 1 > 60 then (.fail, { handle with nSyncTime := 0 })
    else sntpWait resets { handle with nSyncTime := handle.nSyncTime + 1 }

/-- `_sync_time` from the network test on. -/
def syncOverNetwork (env : SyncEnv) (handle : Schedule) : EspErr × Schedule :=
  if !env.connected then
    if handle.nSyncTime + 1 > 6 then
      (.fail, { handle with nSyncTime := 0, isForceSync := false })
    else (.fail, { handle with nSyncTime := handle.nSyncTime + 1 })
  else
    let handle := { handle with isInitSntp := true, nSyncTime := 0 }
    if handle.isSync then (.ok, handle) else sntpWait env.resets handle

def syncTime (env : SyncEnv) (handle : Schedule) : EspErr × Schedule :=
  if handle.isSync && !handle.isForceSync then (.ok, handle)
  else if !handle.isForceSync then
    if env.sysTime.tmYear > year2021 then (.ok, { handle with isSync := true })
    else
      match env.rtc with
      | none => (.fail, handle)
      | some rtcinfo =>
        if rtcinfo.tmYear > year2021 then (.ok, { handle with isSync := true })
        else syncOverNetwork env handle
  else syncOverNetwork env handle

/-! ## The window test -/

/-- The two-branch test of `_schedule_task` on minutes of the day. -/
def windowType (cStartTime cEndTime cCheckTime : Int) : ScheduleType :=
  if cStartTime ≤ cEndTime then
    if cCheckTime ≥ cStartTime ∧ cCheckTime ≤ cEndTime then .activeStart else .activeEnd
  else
    if cCheckTime ≥ cStartTime ∨ cCheckTime ≤ cEndTime then .activeStart else .activeEnd

/-- Minutes since midnight of the local time. -/
def LocalTime.minuteOfDay (now : LocalTime) : Int := now.tmHour * 60 + now.tmMin

theorem LocalTime.minuteOfDay_range (now : LocalTime) :
    0 ≤ now.minuteOfDay ∧ now.minuteOfDay < 1440 := by
  have hh := now.hour_range
  have hm := now.min_range
  unfold minuteOfDay
  omega

/-- `RESTART_HOUR`, `RESTAR_MINUTE`: the daily restart falls into the first seconds of noon. -/
def restartDue (now : LocalTime) : Bool :=
  now.minuteOfDay * 60 + now.tmSec ≥ (12 * 60 + 0) * 60 &&
    now.minuteOfDay * 60 + now.tmSec ≤ (12 * 60 + 0) * 60 + 2

/-- One iteration of `_schedule_task`: what `_sync_time` finds and the local time read after
it. -/
structure Tick where
  sync : SyncEnv
  now : LocalTime

/-- An iteration with the network up and SNTP in step, on the first day of 2024. -/
def Tick.online (tmHour tmMin : Int) (hour_range : 0 ≤ tmHour ∧ tmHour ≤ 23)
    (min_range : 0 ≤ tmMin ∧ tmMin ≤ 59) : Tick :=
  let tm : Tm := ⟨0, tmMin, tmHour, 1, 0, 124⟩
  { sync := { sysTime := tm, rtc := none, connected := true, resets := 0 }
    now := { tm with hour_range := hour_range, min_range := min_range } }

/-- The body of the loop of `_schedule_task` up to the callback: the trigger it decided to
raise, if it got so far. -/
def scheduleDecide (t : Tick) (handle : Schedule) : Schedule × Option ScheduleType :=
  match syncTime t.sync handle with
  | (.ok, handle) =>
    -- A clock that has not been set; the next iteration synchronises again.
    if t.now.tmYear < year2021 then ({ handle with isSync := false }, none)
    else if handle.mode ≠ .auto then (handle, none)
    else if !handle.callback then (handle, none)
    else if !handle.startJob.enable || !handle.endJob.enable then (handle, none)
    else
      (handle, some (windowType handle.startJob.minuteOfDay handle.endJob.minuteOfDay
        t.now.minuteOfDay))
  | (_, handle) => (handle, none)

/-! ## What an iteration leaves alone -/

/-- The part of the handle the clock functions never write. -/
structure SameAlarms (a b : Schedule) : Prop where
  callback : b.callback = a.callback
  startJob : b.startJob = a.startJob
  endJob : b.endJob = a.endJob
  mode : b.mode = a.mode

theorem SameAlarms.refl (a : Schedule) : SameAlarms a a := ⟨rfl, rfl, rfl, rfl⟩

theorem appScheduleSetTime_same (rtcSet : EspErr) (handle : Schedule) :
    SameAlarms handle (appScheduleSetTime rtcSet handle).2 := by
  unfold appScheduleSetTime
  split <;> exact ⟨rfl, rfl, rfl, rfl⟩

theorem appGpsSetTime_same (rtcSet : EspErr) (handle : Schedule) :
    SameAlarms handle (appGpsSetTime rtcSet handle).2 := by
  unfold appGpsSetTime
  split <;> exact ⟨rfl, rfl, rfl, rfl⟩

theorem sntpWait_same : ∀ (resets : Nat) (handle : Schedule),
    SameAlarms handle (sntpWait resets handle).2
  | 0, _ => ⟨rfl, rfl, rfl, rfl⟩
  | resets + 1, handle => by
    unfold sntpWait
    split
    · exact ⟨rfl, rfl, rfl, rfl⟩
    · have ih := sntpWait_same resets { handle with nSyncTime := handle.nSyncTime + 1 }
      exact ⟨ih.callback, ih.startJob, ih.endJob, ih.mode⟩

theorem syncOverNetwork_same (env : SyncEnv) (handle : Schedule) :
    SameAlarms handle (syncOverNetwork env handle).2 := by
  unfold syncOverNetwork
  dsimp only
  split_ifs
  · exact ⟨rfl, rfl, rfl, rfl⟩
  · exact ⟨rfl, rfl, rfl, rfl⟩
  · exact ⟨rfl, rfl, rfl, rfl⟩
  · have h := sntpWait_same env.resets { handle with isInitSntp := true, nSyncTime := 0 }
    exact ⟨h.callback, h.startJob, h.endJob, h.mode⟩

theorem syncTime_same (env : SyncEnv) (handle : Schedule) :
    SameAlarms handle (syncTime env handle).2 := by
  unfold syncTime
  split_ifs
  · exact .refl _
  · exact ⟨rfl, rfl, rfl, rfl⟩
  · cases env.rtc with
    | none => exact .refl _
    | some rtcinfo =>
      dsimp only
      split_ifs
      · exact ⟨rfl, rfl, rfl, rfl⟩
      · exact syncOverNetwork_same env handle
  · exact syncOverNetwork_same env handle

/-- **What one decision can be.** The alarms and the mode stay; a trigger is decided only in
mode `AUTO` with both alarms enabled, and it is the one the window test gives. -/
theorem scheduleDecide_cases (t : Tick) (handle : Schedule) :
    SameAlarms handle (scheduleDecide t handle).1 ∧
      ((scheduleDecide t handle).2 = none ∨
        handle.mode = .auto ∧ handle.startJob.enable = true ∧ handle.endJob.enable = true ∧
          (scheduleDecide t handle).2 = some (windowType handle.startJob.minuteOfDay
            handle.endJob.minuteOfDay t.now.minuteOfDay)) := by
  have hs := syncTime_same t.sync handle
  unfold scheduleDecide
  generalize syncTime t.sync handle = r at hs
  obtain ⟨err, after⟩ := r
  cases err <;> simp only at hs ⊢
  case ok =>
    split_ifs with hyear hmode hcb hen
    · exact ⟨⟨hs.callback, hs.startJob, hs.endJob, hs.mode⟩, Or.inl rfl⟩
    · exact ⟨hs, Or.inl rfl⟩
    · exact ⟨hs, Or.inl rfl⟩
    · exact ⟨hs, Or.inl rfl⟩
    · refine ⟨hs, Or.inr ⟨?_, ?_, ?_, ?_⟩⟩
      · rw [← hs.mode]; simpa using hmode
      · rw [← hs.startJob]; simp_all
      · rw [← hs.endJob]; simp_all
      · rw [← hs.startJob, ← hs.endJob]
  all_goals exact ⟨hs, Or.inl trivial⟩

/-! ## The handle between the tasks -/

/-- What happens to a schedule: a call of the API by another task, or an iteration. -/
inductive ScheduleOp where
  | addAlarm (hour minute : Int) (type : ScheduleType)
  | setMode (mode : OperatorMode)
  | setTime (rtcSet : EspErr)
  | gpsSetTime (rtcSet : EspErr)
  | syncTime
  | iterate (t : Tick)

def Schedule.step : ScheduleOp → Schedule → Schedule
  | .addAlarm hour minute type, handle => appScheduleAddAlarm handle hour minute type
  | .setMode mode, handle => appScheduleSetMode handle mode
  | .setTime rtcSet, handle => (appScheduleSetTime rtcSet handle).2
  | .gpsSetTime rtcSet, handle => (appGpsSetTime rtcSet handle).2
  | .syncTime, handle => appScheduleSyncTime handle
  | .iterate t, handle => (scheduleDecide t handle).1

end Lighting
