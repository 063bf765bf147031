import Lighting.Lib.Runs
import Lighting.Model.Schedule

/-!
# The schedule acts on the alarms that were added — once they all were

`_schedule_task` tests `start.enable` and `end.enable`, which `app_schedule_init` does not
assign; it clears the `enable` fields of the job list, which nothing tests. After a call of
`app_schedule_add_alarm` for its type an alarm is the one that was asked for, and stays so. What
remains are the iterations before: a trigger needs both fields to read as true, so if both were
allocated as false there is none, and if one was not, adding the other alarm is enough for a
trigger with hours nobody asked for.
-/

set_option autoImplicit false

namespace Lighting

open Runs

/-- The schedule, and what was asked of it: the mode set last, and the hour and minute of the
last alarm of either type. -/
structure Asked where
  handle : Schedule
  mode : OperatorMode
  start : Option (Int × Int)
  finish : Option (Int × Int)

def Asked.init (mem : ScheduleMemory) : Asked := ⟨appScheduleInit true mem, .off, none, none⟩

def Asked.step (op : ScheduleOp) (a : Asked) : Asked :=
  let a := { a with handle := a.handle.step op }
  match op with
  | .addAlarm hour minute .activeStart => { a with start := some (hour, minute) }
  | .addAlarm hour minute .activeEnd => { a with finish := some (hour, minute) }
  | .setMode mode => { a with mode := mode }
  | _ => a

/-- A trigger raised now has been asked for: the mode is `AUTO`, both alarms have been added,
and the type is the one the window test gives for them, in the `int` of its minutes. -/
def AskedFor (op : ScheduleOp) (a : Asked) : Prop :=
  ∀ t type, op = .iterate t → (scheduleDecide t a.handle).2 = some type →
    a.mode = .auto ∧ ∃ hour minute hour' minute', a.start = some (hour, minute) ∧
      a.finish = some (hour', minute') ∧
        type = windowType (cTime hour minute) (cTime hour' minute') t.now.minuteOfDay

/-- A job is the alarm asked for; without one its `enable` field is still what was allocated. -/
def Job.Holds (allocated : Bool) (asked : Option (Int × Int)) (job : Job) : Prop :=
  match asked with
  | none => job.enable = allocated
  | some (hour, minute) => job.enable = true ∧ job.startHour = hour ∧ job.startMinute = minute

/-- What every reachable schedule satisfies. -/
structure Asked.Inv (mem : ScheduleMemory) (a : Asked) : Prop where
  mode : a.handle.mode = a.mode
  start : a.handle.startJob.Holds mem.startJob.enable a.start
  finish : a.handle.endJob.Holds mem.endJob.enable a.finish

variable {mem : ScheduleMemory} {a : Asked}

/-- The clock functions leave it alone. -/
theorem Asked.Inv.of_same (h : a.Inv mem) {handle : Schedule} (hs : SameAlarms a.handle handle) :
    Asked.Inv mem { a with handle := handle } where
  mode := hs.mode.trans h.mode
  start := by
    change handle.startJob.Holds _ _
    rw [hs.startJob]
    exact h.start
  finish := by
    change handle.endJob.Holds _ _
    rw [hs.endJob]
    exact h.finish

theorem asked_init (mem : ScheduleMemory) : (Asked.init mem).Inv mem := ⟨rfl, rfl, rfl⟩

theorem asked_step (h : a.Inv mem) (op : ScheduleOp) : (a.step op).Inv mem := by
  cases op with
  | addAlarm hour minute type =>
    cases type with
    | none => exact ⟨h.mode, h.start, h.finish⟩
    | activeStart => exact ⟨h.mode, ⟨rfl, rfl, rfl⟩, h.finish⟩
    | activeEnd => exact ⟨h.mode, h.start, ⟨rfl, rfl, rfl⟩⟩
  | setMode mode => exact ⟨rfl, h.start, h.finish⟩
  | setTime rtcSet => exact h.of_same (appScheduleSetTime_same rtcSet a.handle)
  | gpsSetTime rtcSet => exact h.of_same (appGpsSetTime_same rtcSet a.handle)
  | syncTime => exact h.of_same ⟨rfl, rfl, rfl, rfl⟩
  | iterate t => exact h.of_same (scheduleDecide_cases t a.handle).1

/-- An enabled job over memory that read as disabled is an alarm that was asked for. -/
theorem Job.Holds.asked {asked : Option (Int × Int)} {job : Job} (h : job.Holds false asked)
    (hen : job.enable = true) :
    ∃ hour minute, asked = some (hour, minute) ∧ job.minuteOfDay = cTime hour minute := by
  cases asked with
  | none =>
    have hoff : job.enable = false := h
    rw [hen] at hoff
    cases hoff
  | some hm =>
    obtain ⟨hour, minute⟩ := hm
    obtain ⟨-, hhour, hminute⟩ := h
    refine ⟨hour, minute, rfl, ?_⟩
    unfold Job.minuteOfDay
    rw [hhour, hminute]

/-- **One iteration.** -/
theorem askedFor_of_clean (h : a.Inv mem) (hstart : mem.startJob.enable = false)
    (hend : mem.endJob.enable = false) (op : ScheduleOp) : AskedFor op a := by
  intro t type _ htrigger
  obtain ⟨-, hnone | ⟨hauto, hen, hen', htype⟩⟩ := scheduleDecide_cases t a.handle
  · rw [hnone] at htrigger
    cases htrigger
  · have hs := h.start
    have hf := h.finish
    rw [hstart] at hs
    rw [hend] at hf
    obtain ⟨hour, minute, hasked, hat⟩ := hs.asked hen
    obtain ⟨hour', minute', hasked', hat'⟩ := hf.asked hen'
    refine ⟨h.mode.symm.trans hauto, hour, minute, hour', minute', hasked, hasked', ?_⟩
    rw [htrigger, hat, hat'] at htype
    exact Option.some.inj htype

/-- One alarm is added, the mode is `AUTO`, and an iteration finds the network up. -/
def addOne (type : ScheduleType) : List ScheduleOp :=
  [.addAlarm 0 0 type, .setMode .auto, .iterate (Tick.online 12 0 (by decide) (by decide))]

/-- A forced synchronisation over the network ends in a decision. -/
theorem scheduleDecide_online (handle : Schedule) (hsync : handle.isSync = false)
    (hforce : handle.isForceSync = true) (hcb : handle.callback = true)
    (hmode : handle.mode = .auto) (hstart : handle.startJob.enable = true)
    (hend : handle.endJob.enable = true) :
    ∃ type, (scheduleDecide (Tick.online 12 0 (by decide) (by decide)) handle).2 = some type := by
  have hok : syncTime (Tick.online 12 0 (by decide) (by decide)).sync handle =
      (.ok, { handle with
        isSync := true, isInitSntp := false, isForceSync := false, nSyncTime := 0 }) := by
    simp [syncTime, syncOverNetwork, sntpWait, Tick.online, hsync, hforce]
  unfold scheduleDecide
  rw [hok]
  simp [hcb, hmode, hstart, hend, Tick.online, year2021]

/-- An alarm that was allocated as enabled triggers as soon as the other one is there. -/
theorem addOne_not_asked (type : ScheduleType) (htype : type ≠ .none)
    (hstart : type = .activeStart ∨ mem.startJob.enable = true)
    (hend : type = .activeEnd ∨ mem.endJob.enable = true) :
    ¬Along Asked.step AskedFor (Asked.init mem) (addOne type) := by
  intro halong
  obtain ⟨-, -, hasked, -⟩ := halong
  cases type with
  | none => exact htype rfl
  | activeStart =>
    have hen : mem.endJob.enable = true := hend.resolve_left ScheduleType.noConfusion
    obtain ⟨type, htrigger⟩ := scheduleDecide_online (appScheduleSetMode
      (appScheduleAddAlarm (appScheduleInit true mem) 0 0 .activeStart) .auto) rfl rfl rfl rfl rfl
      hen
    obtain ⟨-, _, _, _, _, -, hfinish, -⟩ := hasked _ type rfl htrigger
    cases hfinish
  | activeEnd =>
    have hen : mem.startJob.enable = true := hstart.resolve_left ScheduleType.noConfusion
    obtain ⟨type, htrigger⟩ := scheduleDecide_online (appScheduleSetMode
      (appScheduleAddAlarm (appScheduleInit true mem) 0 0 .activeEnd) .auto) rfl rfl rfl rfl hen rfl
    obtain ⟨-, _, _, _, _, hasked, -⟩ := hasked _ type rfl htrigger
    cases hasked

/-- **The schedule acts only on alarms that were added**, in every run, exactly if the `enable`
fields of the two alarms were allocated as false. -/
theorem triggers_asked_iff (mem : ScheduleMemory) :
    (∀ ops, Along Asked.step AskedFor (Asked.init mem) ops) ↔
      mem.startJob.enable = false ∧ mem.endJob.enable = false := by
  constructor
  · intro h
    constructor
    · by_contra hen
      exact addOne_not_asked .activeEnd ScheduleType.noConfusion
        (Or.inr (Bool.not_eq_false _ ▸ hen)) (Or.inl rfl) (h _)
    · by_contra hen
      exact addOne_not_asked .activeStart ScheduleType.noConfusion
        (Or.inl rfl) (Or.inr (Bool.not_eq_false _ ▸ hen)) (h _)
  · rintro ⟨hstart, hend⟩ ops
    have hstep : ∀ (op : ScheduleOp) (a : Asked), a.Inv mem → (a.step op).Inv mem :=
      fun op _ h => asked_step h op
    rw [along_iff_inputs]
    intro js op _
    have hinv : (after Asked.step (Asked.init mem) js).Inv mem :=
      after_invariant hstep (asked_init mem)
    exact askedFor_of_clean hinv hstart hend op

/-- Memory in which both alarms read as enabled at midnight. -/
def staleAlarms : ScheduleMemory where
  jobList := fun _ => ⟨.none, 0, 0, 0, 0, false⟩
  startJob := ⟨.none, 0, 0, 0, 0, true⟩
  endJob := ⟨.none, 0, 0, 0, 0, true⟩

/-- Over it the first iteration in `AUTO` triggers without any alarm. -/
theorem triggers_not_asked :
    ¬Along Asked.step AskedFor (Asked.init staleAlarms)
      [.setMode .auto, .iterate (Tick.online 12 0 (by decide) (by decide))] := by
  intro h
  obtain ⟨-, hasked, -⟩ := h
  obtain ⟨-, _, _, _, _, hstart, -⟩ := hasked _ .activeEnd rfl rfl
  cases hstart

end Lighting
