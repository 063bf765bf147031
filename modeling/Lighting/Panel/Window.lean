import Lighting.Lib.Cyclic
import Lighting.Lib.Runs
import Lighting.Panel.Refinement

/-!
# The schedule in `AUTO`: a cyclic interval, and its changes

Two halves meet here. The window test of `_schedule_task` has two branches, with a conjunction
in one and a disjunction in the other; on the cycle of 1440 minutes both are the closed arc
from the start alarm to the end alarm (`windowType_iff`). And `app_controller_control_relay`
returns early when the relay is where it is wanted, so that a run of iterations reports exactly
the changes of that membership (`schedule_follows_window`).

An iteration that cannot tell the time decides nothing; `clockReading` is the minute of the
others. After the daily restart the device is not running and reads no more clock.
-/

set_option autoImplicit false

namespace Lighting

open Cyclic Runs WriteBack

/-- The minute of the day an iteration compares with the alarms, if it got a time at all. -/
def clockReading (t : Tick) (app : App) : Option Int :=
  if app.power = .running ∧ (syncTime t.sync app.schedule).1 = .ok ∧ ¬t.now.tmYear < year2021 then
    some t.now.minuteOfDay
  else none

/-- The values of the `APP_CONTROLLER_EVENT_CHANGE_POWER` notifications among some events. -/
def powerEvents (events : List Event) : List Bool :=
  events.filterMap fun
    | .controllerChangePower isOn => isOn
    | _ => none

/-- The schedule is in charge: mode `AUTO`, both alarms enabled at minutes `S` and `E`, the
callbacks set. -/
structure InCharge (S E : Int) (app : App) : Prop where
  scheduleCallback : app.schedule.callback = true
  controllerCallback : app.controller.callback = true
  mode : app.schedule.mode = .auto
  startEnable : app.schedule.startJob.enable = true
  endEnable : app.schedule.endJob.enable = true
  start : app.schedule.startJob.minuteOfDay = S
  finish : app.schedule.endJob.minuteOfDay = E

/-- The handle and both pins are at the level of a state. -/
structure Lit (isOn : Bool) (app : App) : Prop where
  relayState : app.controller.relayState = levelOf isOn
  relay1 : app.gpio app.controller.relay1Pin = some (levelOf isOn)
  relay2 : app.gpio app.controller.relay2Pin = some (levelOf isOn)

/-! ## The window test -/

/-- **The two branches are one arc.** -/
theorem windowType_iff {S E c : Int} (hS : 0 ≤ S ∧ S < 1440) (hE : 0 ≤ E ∧ E < 1440)
    (hc : 0 ≤ c ∧ c < 1440) : windowType S E c = .activeStart ↔ InArc 1440 S E c := by
  rw [inArc_iff hS hE hc]
  unfold windowType
  split
  · split
    case isTrue h => exact ⟨fun _ => h, fun _ => rfl⟩
    case isFalse h => exact ⟨fun hne => absurd hne (by simp), fun hin => absurd hin h⟩
  · split
    case isTrue h => exact ⟨fun _ => h, fun _ => rfl⟩
    case isFalse h => exact ⟨fun hne => absurd hne (by simp), fun hin => absurd hin h⟩

theorem clockReading_range {t : Tick} {app : App} {c : Int} (h : clockReading t app = some c) :
    0 ≤ c ∧ c < 1440 := by
  unfold clockReading at h
  split at h
  · obtain rfl := Option.some.inj h
    exact t.now.minuteOfDay_range
  · exact absurd h (by simp)

/-- A schedule in charge decides whenever it can tell the time. -/
theorem scheduleDecide_trigger {S E : Int} {app : App} (h : InCharge S E app)
    (hrun : app.power = .running) (t : Tick) :
    (scheduleDecide t app.schedule).2 = (clockReading t app).map (windowType S E) := by
  have hs := syncTime_same t.sync app.schedule
  unfold scheduleDecide clockReading
  generalize syncTime t.sync app.schedule = r at hs
  obtain ⟨err, handle⟩ := r
  have hmode : handle.mode = .auto := hs.mode.trans h.mode
  have hcb : handle.callback = true := hs.callback.trans h.scheduleCallback
  have hstart : handle.startJob = app.schedule.startJob := hs.startJob
  have hend : handle.endJob = app.schedule.endJob := hs.endJob
  cases err <;> simp only [hrun, true_and, reduceCtorEq, false_and, if_false, Option.map_none]
  split
  · simp
  · simp [hmode, hcb, hstart, hend, h.startEnable, h.endEnable, h.start, h.finish]

/-! ## One iteration -/

theorem controlRelay_schedule (isOn : Bool) (app : App) :
    (appControllerControlRelay isOn app).schedule = app.schedule := by
  rcases controlRelay_cases isOn app with ⟨-, h⟩ | ⟨-, -, h⟩ | ⟨-, -, h⟩ <;> rw [h] <;> rfl

/-- A request moves the relay and reports it, or finds it there and says nothing. -/
theorem controlRelay_lit {before : Bool} {app : App} (h : Lit before app)
    (hcb : app.controller.callback = true) (isOn : Bool) :
    Lit isOn (appControllerControlRelay isOn app) ∧
      powerEvents (appControllerControlRelay isOn app).trace =
        powerEvents app.trace ++ if isOn = before then [] else [isOn] := by
  rcases controlRelay_cases isOn app with ⟨hat, heq⟩ | ⟨-, hno, -⟩ | ⟨hat, -, heq⟩
  · obtain rfl := (relayAt_iff h.relayState isOn).mp hat
    simp [heq, h]
  · exact absurd (hcb.symm.trans hno) (by simp)
  · have hne : isOn ≠ before := fun hb => by
      rw [(relayAt_iff h.relayState isOn).mpr hb] at hat
      exact absurd hat (by simp)
    rw [heq, if_neg hne]
    refine ⟨⟨rfl, ?_, gpioSetLevel_self _ _ _⟩, ?_⟩
    · by_cases hpins : app.controller.relay1Pin = app.controller.relay2Pin
      · simp [onChangePower, App.enter, App.onWebsocket, setRelay, hpins]
      · simp [onChangePower, App.enter, App.onWebsocket, setRelay, gpioSetLevel_of_ne _ _ hpins]
    · simp [onChangePower, App.enter, App.onWebsocket, setRelay, powerEvents]

/-- An iteration of the schedule task, as a step. -/
def tickStep (t : Tick) (app : App) : App := app.step (.tick t)

/-- A device whose schedule task has looked at the clocks. -/
def decided (t : Tick) (app : App) : App :=
  { app with schedule := (scheduleDecide t app.schedule).1 }

/-- What an iteration does to a device whose schedule is in charge. -/
theorem tickStep_cases {S E : Int} {app : App} (h : InCharge S E app) (t : Tick) :
    clockReading t app = none ∧ (tickStep t app = app ∨ tickStep t app = decided t app) ∨
      ∃ c, clockReading t app = some c ∧ tickStep t app =
        scheduleRestart t (appControllerControlRelay (decide (windowType S E c = .activeStart))
          ((decided t app).enter (.scheduleTrigger (windowType S E c)))) := by
  unfold tickStep App.step
  by_cases hrun : app.power = .running
  · rw [if_pos hrun]
    have htr := scheduleDecide_trigger h hrun t
    simp only [Input.handle, scheduleTaskIteration]
    cases hc : clockReading t app with
    | none => rw [hc] at htr; exact Or.inl ⟨rfl, Or.inr (by rw [htr]; rfl)⟩
    | some c => rw [hc] at htr; exact Or.inr ⟨c, rfl, by rw [htr, ← scheduleTrigger_eq]; rfl⟩
  · rw [if_neg hrun]
    exact Or.inl ⟨by simp [clockReading, hrun], Or.inl rfl⟩

theorem InCharge.decided {S E : Int} {app : App} (h : InCharge S E app) (t : Tick) :
    InCharge S E (decided t app) := by
  obtain ⟨hsame, -⟩ := scheduleDecide_cases t app.schedule
  refine ⟨hsame.callback.trans h.scheduleCallback, h.controllerCallback, hsame.mode.trans h.mode,
    ?_, ?_, ?_, ?_⟩
  · exact (congrArg Job.enable hsame.startJob).trans h.startEnable
  · exact (congrArg Job.enable hsame.endJob).trans h.endEnable
  · exact (congrArg Job.minuteOfDay hsame.startJob).trans h.start
  · exact (congrArg Job.minuteOfDay hsame.endJob).trans h.finish

/-- Nothing an iteration does to the relay touches the schedule. -/
theorem InCharge.of_schedule {S E : Int} {a b : App} (h : InCharge S E a)
    (hs : b.schedule = a.schedule) (hcb : b.controller.callback = a.controller.callback) :
    InCharge S E b := by
  refine ⟨?_, hcb.trans h.controllerCallback, ?_, ?_, ?_, ?_, ?_⟩ <;> rw [hs]
  · exact h.scheduleCallback
  · exact h.mode
  · exact h.startEnable
  · exact h.endEnable
  · exact h.start
  · exact h.finish

theorem scheduleRestart_cases (t : Tick) (app : App) :
    scheduleRestart t app = app ∨ scheduleRestart t app = { app with power := .restarting } := by
  unfold scheduleRestart
  split
  · exact Or.inr rfl
  · exact Or.inl rfl

/-- **One iteration.** The relay goes where the window says, if the time could be told; a
change is reported and nothing else is. -/
theorem tickStep_follows {S E : Int} (hS : 0 ≤ S ∧ S < 1440) (hE : 0 ≤ E ∧ E < 1440)
    {before : Bool} {app : App} (h : InCharge S E app) (hl : Lit before app) (t : Tick)
    {inside : Option Bool}
    (hin : inside = (clockReading t app).map fun c => decide (InArc 1440 S E c)) :
    InCharge S E (tickStep t app) ∧ Lit (inside.getD before) (tickStep t app) ∧
      powerEvents (tickStep t app).trace =
        powerEvents app.trace ++ changes before inside.toList := by
  rcases tickStep_cases h t with ⟨hc, heq | heq⟩ | ⟨c, hc, heq⟩
  · simp [hin, hc, heq, h, hl]
  · simp only [hin, hc, heq]
    exact ⟨h.decided t, ⟨hl.relayState, hl.relay1, hl.relay2⟩, by simp [decided]⟩
  · have hdec : decide (windowType S E c = .activeStart) = decide (InArc 1440 S E c) :=
      decide_eq_decide.mpr (windowType_iff hS hE (clockReading_range hc))
    simp only [hin, hc, Option.map_some, Option.getD_some, Option.toList_some, changes_cons,
      changes_nil]
    rw [hdec] at heq
    generalize decide (InArc 1440 S E c) = isOn at heq
    generalize hentered : (decided t app).enter (.scheduleTrigger (windowType S E c)) = entered
      at heq
    have he : InCharge S E entered := by
      rw [← hentered]
      exact (h.decided t).of_schedule rfl rfl
    have hlit : Lit before entered := by
      rw [← hentered]
      exact ⟨hl.relayState, hl.relay1, hl.relay2⟩
    have htrace : powerEvents entered.trace = powerEvents app.trace := by
      simp [← hentered, App.enter, decided, powerEvents]
    have hcontrol := he.of_schedule (controlRelay_schedule isOn entered)
      (controlRelay_same isOn entered).controllerCallback
    obtain ⟨hlit', hpower⟩ := controlRelay_lit hlit he.controllerCallback isOn
    rw [htrace] at hpower
    rw [heq]
    rcases scheduleRestart_cases t (appControllerControlRelay isOn entered) with hr | hr
    · rw [hr]
      exact ⟨hcontrol, hlit', hpower⟩
    · rw [hr]
      exact ⟨hcontrol.of_schedule rfl rfl, ⟨hlit'.relayState, hlit'.relay1, hlit'.relay2⟩, hpower⟩

/-! ## The run -/

/-- Whether each of the minutes a run reads lies in the window. -/
def insideWindow (S E : Int) (app : App) (ts : List Tick) : List Bool :=
  (outputs tickStep clockReading app ts).map fun c => decide (InArc 1440 S E c)

theorem insideWindow_cons (S E : Int) (app : App) (t : Tick) (ts : List Tick) :
    insideWindow S E app (t :: ts) =
      ((clockReading t app).map fun c => decide (InArc 1440 S E c)).toList ++
        insideWindow S E (tickStep t app) ts := by
  unfold insideWindow
  rw [outputs_cons, List.map_append]
  cases clockReading t app <;> rfl

theorem getLastD_toList_append {α : Type*} (o : Option α) (l : List α) (a : α) :
    (o.toList ++ l).getLastD a = l.getLastD (o.getD a) := by
  cases o with
  | none => rfl
  | some b => exact List.getLastD_cons

theorem run_follows {S E : Int} (hS : 0 ≤ S ∧ S < 1440) (hE : 0 ≤ E ∧ E < 1440) (ts : List Tick) :
    ∀ {before : Bool} {app : App}, InCharge S E app → Lit before app →
      Lit ((insideWindow S E app ts).getLastD before) (after tickStep app ts) ∧
        powerEvents (after tickStep app ts).trace =
          powerEvents app.trace ++ changes before (insideWindow S E app ts) := by
  induction ts with
  | nil => intro before app h hl; exact ⟨hl, by simp [insideWindow]⟩
  | cons t ts ih =>
    intro before app h hl
    obtain ⟨h', hl', htrace⟩ := tickStep_follows hS hE h hl t rfl
    obtain ⟨hlend, htail⟩ := ih h' hl'
    have hlast := getLastD_toList_append
      ((clockReading t app).map fun c => decide (InArc 1440 S E c)) [] before
    rw [List.append_nil] at hlast
    rw [after_cons, insideWindow_cons, changes_append, getLastD_toList_append, hlast]
    refine ⟨hlend, ?_⟩
    rw [htail, htrace, List.append_assoc]
    rfl

/-- An iteration that reads a minute has the last word on the run. -/
theorem insideWindow_getLastD_of_reading {S E c : Int} {t : Tick} :
    ∀ {ts : List Tick} {app : App}, clockReading t (after tickStep app ts) = some c →
      ∀ before, (insideWindow S E app (ts ++ [t])).getLastD before =
        decide (InArc 1440 S E c) := by
  intro ts
  induction ts with
  | nil =>
    intro app hc before
    rw [after_nil] at hc
    simp [insideWindow, outputs_cons, hc]
  | cons u ts ih =>
    intro app hc before
    rw [List.cons_append, insideWindow_cons, getLastD_toList_append]
    exact ih hc _

/-- **The schedule is the window.** While the schedule is in charge, after every iteration that
can tell the time the relay and both pins are on exactly inside the closed arc from the start
alarm to the end alarm, and the power notifications of a run are the changes of that
membership, starting from the relay the run began with. -/
theorem schedule_follows_window (S E : Int) (hS : 0 ≤ S ∧ S < 1440) (hE : 0 ≤ E ∧ E < 1440)
    (app : App) (h : InCharge S E app) (before : Bool) (hl : Lit before app) (ts : List Tick) :
    (∀ us t c, us ++ [t] <+: ts → clockReading t (after tickStep app us) = some c →
        Lit (decide ((c - S) % 1440 ≤ (E - S) % 1440)) (after tickStep app (us ++ [t]))) ∧
      powerEvents (after tickStep app ts).trace =
        powerEvents app.trace ++ changes before (insideWindow S E app ts) := by
  refine ⟨fun us t c _ hc => ?_, (run_follows hS hE ts h hl).2⟩
  have hlit := (run_follows hS hE (us ++ [t]) h hl).1
  rwa [insideWindow_getLastD_of_reading hc] at hlit

/-- A device with a schedule from eight to five, turned to `AUTO` and switched on by hand. -/
def litByHand : App :=
  after App.step (appMain .clean (Cell.settled (some (.record ⟨8, 0, true, 17, 0, true⟩))))
    [.poll 1 0, .nextion ⟨manualOnKey, manualOnKey_length_le, ⟨0, 0, 0, 0⟩, []⟩]

/-- One iteration inside the window, one after it: the relay goes off and that is reported. -/
theorem schedule_follows_window_evening :
    let ts := [Tick.online 8 30 (by decide) (by decide), .online 18 0 (by decide) (by decide)]
    insideWindow 480 1020 litByHand ts = [true, false] ∧
      Lit false (after tickStep litByHand ts) ∧
        powerEvents (after tickStep litByHand ts).trace =
          powerEvents litByHand.trace ++ changes true (insideWindow 480 1020 litByHand ts) := by
  have h : InCharge 480 1020 litByHand := ⟨rfl, rfl, rfl, rfl, rfl, rfl, rfl⟩
  have hl : Lit true litByHand := ⟨rfl, rfl, rfl⟩
  intro ts
  have hrun := schedule_follows_window 480 1020 (by decide) (by decide) litByHand h true hl ts
  exact ⟨rfl, hrun.1 [ts.head (by decide)] _ 1080 (List.prefix_refl _) rfl, hrun.2⟩

end Lighting
