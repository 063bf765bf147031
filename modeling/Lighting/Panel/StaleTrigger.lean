import Lighting.Lib.Runs
import Lighting.Panel.Refinement

/-!
# A trigger in flight

`_schedule_task` reads the mode, picks a trigger and calls back; nothing keeps another task
from running in between, and the handler of the trigger reads no mode. Here the two halves of
an iteration are two steps, with the trigger in flight between them, and the polls, the
messages and the display come in wherever they like.

`decide_deliver` says that nothing was invented: the halves in a row are the iteration of
`Model/Main`. Two records are kept while a trigger is in flight. `changed` is the mode asked
for by the last selector change, accepted control or release since the decision. `requested`
is the relay state asked for by the last switch to `OFF` or accepted control, and it outlasts
a release: back in `AUTO`, the old decision is still older than the request.

`delivery_in_auto_iff` says exactly when the gap is harmless: when the relay is where the
trigger wants it anyway, or nothing asked for another mode than `AUTO`, and nothing for the
other relay state, last.
-/

set_option autoImplicit false

namespace Lighting

open Panel Runs WriteBack

/-- A device with a schedule task in mid-iteration. -/
structure Racing where
  app : App
  inFlight : Option (Tick × ScheduleType)
  changed : Option ControllerMode
  requested : Option Bool

inductive RaceStep where
  | decide (t : Tick)
  | deliver
  | poll (manualState autoState : Int)
  | message (m : Option MainMessage)
  | nextion (r : NextionRead)

/-- The mode an input asks for: a selector change, an accepted control, a release. -/
def modeAsked (app : App) : Input → Option ControllerMode
  | .poll manualState autoState =>
    let curMode := selectorMode manualState autoState
    if curMode ≠ app.gpioTask.mode then some curMode else none
  | .message (some message) =>
    match message.dispatch with
    | .powerControl _ => if app.controller.mode ≠ .off then some .manual else none
    | .releaseControl => some app.controller.mode
    | _ => none
  | _ => none

/-- The relay state an input asks for: a switch to `OFF`, an accepted control. -/
def relayAsked (app : App) : Input → Option Bool
  | .poll manualState autoState =>
    let curMode := selectorMode manualState autoState
    if curMode ≠ app.gpioTask.mode ∧ curMode = .off then some false else none
  | .message (some message) =>
    match message.dispatch with
    | .powerControl r => if app.controller.mode ≠ .off then some r.ispoweron else none
    | _ => none
  | _ => none

namespace Racing

/-- Another task handles an input to completion. -/
def task (i : Input) (s : Racing) : Racing where
  app := s.app.step i
  inFlight := s.inFlight
  changed := if s.app.power = .running then (modeAsked s.app i).or s.changed else s.changed
  requested :=
    if s.app.power = .running then (relayAsked s.app i).or s.requested else s.requested

/-- `_schedule_task` up to its callback. It starts an iteration only when the last one is
over. -/
def decide (t : Tick) (s : Racing) : Racing :=
  if s.inFlight.isSome ∨ s.app.power ≠ .running then s
  else
    { app := { s.app with schedule := (scheduleDecide t s.app.schedule).1 }
      inFlight := (scheduleDecide t s.app.schedule).2.map fun type => (t, type)
      changed := none
      requested := none }

/-- The callback of `_schedule_task`, and what follows it. -/
def deliver (s : Racing) : Racing :=
  match s.inFlight with
  | none => s
  | some (t, type) =>
    if s.app.power ≠ .running then s
    else
      { app := scheduleRestart t (eventCallback (.scheduleTrigger type) s.app)
        inFlight := none
        changed := none
        requested := none }

def step : RaceStep → Racing → Racing
  | .decide t, s => s.decide t
  | .deliver, s => s.deliver
  | .poll manualState autoState, s => s.task (.poll manualState autoState)
  | .message m, s => s.task (.message m)
  | .nextion r, s => s.task (.nextion r)

/-- A boot of the device, with nothing in flight. -/
def boot (env : BootEnv) (nvs : Nvs) : Racing := ⟨appMain env nvs, none, none, none⟩

/-- **The two halves are the iteration.** -/
theorem decide_deliver (t : Tick) (app : App) :
    ((Racing.mk app none none none).decide t).deliver.app = app.step (.tick t) := by
  unfold decide App.step Input.handle scheduleTaskIteration
  by_cases hrun : app.power = .running
  · simp only [hrun]
    cases htr : (scheduleDecide t app.schedule).2 with
    | none => simp [deliver]
    | some type => simp [deliver]
  · simp [hrun, deliver]

end Racing

/-! ## The mode while a trigger is in flight -/

/-- The operating mode after an act is the mode it asked for, if it asked for one. -/
theorem modeAsked_operating {p : Panel} {app : App} (h : Shows p app) (i : Input) :
    (react (i.act? app) p).operating = (modeAsked app i).getD p.operating := by
  cases i with
  | poll manualState autoState =>
    simp only [modeAsked, Input.act?]
    split
    · rfl
    · rfl
  | tick t =>
    simp only [modeAsked, Input.act?]
    cases (scheduleDecide t app.schedule).2 with
    | none => rfl
    | some type =>
      by_cases hauto : p.operating = .auto
      · simp [act_trigger_of_auto hauto]
      · simp [act_trigger_of_ne hauto]
  | message m =>
    cases m with
    | none => rfl
    | some message =>
      simp only [modeAsked, Input.act?, Option.bind_some]
      cases message.dispatch with
      | powerControl r =>
        by_cases hoff : p.selector = .off
        · simp [Dispatch.act?, act_control_of_off hoff, h.selector, hoff]
        · simp [Dispatch.act?, act_control_of_ne hoff, h.selector, hoff]
      | releaseControl => simp [Dispatch.act?, act, h.selector]
      | _ => rfl
  | nextion r =>
    simp only [modeAsked, Input.act?]
    cases (nextionReadTask r app.readBuffer app.nextion).2.2 with
    | none => rfl
    | some e => cases e <;> rfl
  | _ => rfl

/-- What asks for a relay state gets it. -/
theorem relayAsked_relay {p : Panel} {app : App} (h : Shows p app) {i : Input} {isOn : Bool}
    (hi : relayAsked app i = some isOn) : (react (i.act? app) p).relay = isOn := by
  cases i with
  | poll manualState autoState =>
    simp only [relayAsked, Input.act?] at hi ⊢
    split at hi
    case isTrue hoff =>
      obtain rfl : false = isOn := by simpa using hi
      rw [if_pos hoff.1, react_some, hoff.2]
      rfl
    case isFalse => exact absurd hi (by simp)
  | message m =>
    cases m with
    | none => exact absurd hi (by simp [relayAsked])
    | some message =>
      simp only [relayAsked, Input.act?, Option.bind_some] at hi ⊢
      cases hd : message.dispatch with
      | powerControl r =>
        simp only [hd, h.selector] at hi
        split at hi
        case isTrue hne =>
          obtain rfl : r.ispoweron = isOn := by simpa using hi
          simp [Dispatch.act?, act_control_of_ne hne]
        case isFalse => exact absurd hi (by simp)
      | _ => simp [hd] at hi
  | _ => exact absurd hi (by simp [relayAsked])

/-- While a trigger is in flight the schedule operates in the mode last asked for, and in
`AUTO` if none was. -/
structure Racing.Inv (s : Racing) : Prop where
  shows : ∃ p, Shows p s.app
  inFlight : s.inFlight.isSome = true → s.app.schedule.mode = (s.changed.getD .auto).toOperator

theorem Racing.Inv.task {s : Racing} (h : s.Inv) (i : Input) : (s.task i).Inv := by
  obtain ⟨p, hs⟩ := h.shows
  refine ⟨⟨_, step_shows hs i⟩, fun hfl => ?_⟩
  have hmode : p.operating = s.changed.getD .auto := by
    have := h.inFlight hfl
    rwa [hs.schedule, ControllerMode.toOperator_inj] at this
  have hsched : (s.task i).app.schedule.mode = _ := (step_shows hs i).schedule
  rw [hsched, ControllerMode.toOperator_inj]
  unfold App.act? Racing.task
  split
  · rw [modeAsked_operating hs, hmode]
    cases modeAsked s.app i <;> rfl
  · exact hmode

theorem Racing.Inv.decide {s : Racing} (h : s.Inv) (t : Tick) : (s.decide t).Inv := by
  unfold Racing.decide
  split
  · exact h
  · obtain ⟨p, hs⟩ := h.shows
    obtain ⟨hsame, hdec⟩ := scheduleDecide_cases t s.app.schedule
    refine ⟨⟨p, hs.of_same (withSchedule_same _ hsame.mode).toSameModes⟩, fun hfl => ?_⟩
    rcases hdec with hnone | ⟨hauto, -⟩
    · exact absurd hfl (by simp [hnone])
    · exact hsame.mode.trans hauto

theorem Racing.Inv.deliver {s : Racing} (h : s.Inv) : s.deliver.Inv := by
  unfold Racing.deliver
  split
  · exact h
  · split
    · exact h
    · obtain ⟨p, hs⟩ := h.shows
      refine ⟨⟨_, (eventCallback_shows hs (.scheduleTrigger _)).of_same
        (scheduleRestart_same _ _).toSameModes⟩, fun hfl => absurd hfl (by simp)⟩

theorem Racing.Inv.step {s : Racing} (h : s.Inv) (r : RaceStep) : (s.step r).Inv := by
  cases r with
  | decide t => exact h.decide t
  | deliver => exact h.deliver
  | poll manualState autoState => exact h.task _
  | message m => exact h.task _
  | nextion r => exact h.task _

/-! ## The relay when it is delivered -/

theorem scheduleRestart_controller (t : Tick) (app : App) :
    (scheduleRestart t app).controller = app.controller :=
  (scheduleRestart_same t app).controller

/-- A request moves the relay unless it is there already. -/
theorem controlRelay_relayState (isOn : Bool) (app : App) :
    (appControllerControlRelay isOn app).controller.relayState ≠ app.controller.relayState ↔
      app.controller.relayAt isOn = false := by
  have hmoved : app.controller.relayAt isOn = false →
      levelOf isOn ≠ app.controller.relayState := by
    intro hat heq
    rw [(relayAt_iff heq.symm isOn).mpr rfl] at hat
    exact absurd hat (by simp)
  rcases controlRelay_cases isOn app with ⟨hat, heq⟩ | ⟨hat, -, heq⟩ | ⟨hat, -, heq⟩
  · simp [heq, hat]
  · rw [heq]
    exact ⟨fun _ => hat, fun _ => hmoved hat⟩
  · rw [heq, (onChangePower_same _ _).controller]
    exact ⟨fun _ => hat, fun _ => hmoved hat⟩

/-- A step that moves the relay by delivering a trigger does so in mode `AUTO`, and it leaves
the relay where the last switch to `OFF` or accepted control since the decision put it. -/
def DeliversInAuto (r : RaceStep) (s : Racing) : Prop :=
  r = .deliver → (s.step r).app.controller.relayState ≠ s.app.controller.relayState →
    s.app.schedule.mode = .auto ∧
      ∀ isOn, s.requested = some isOn → (s.step r).app.controller.relayAt isOn = true

/-- The trigger was not overtaken: the relay is at its level; or since the decision no mode was
asked for, or `AUTO` last, and no relay state, or that of the trigger last. -/
def NotOvertaken (r : RaceStep) (s : Racing) : Prop :=
  r = .deliver → s.app.power = .running → ∀ t type, s.inFlight = some (t, type) →
    s.app.controller.relayAt (decide (type = .activeStart)) = true ∨
      (s.changed = none ∨ s.changed = some .auto) ∧
        (s.requested = none ∨ s.requested = some (decide (type = .activeStart)))

/-- A request that moves the relay leaves it at one state only. -/
theorem controlRelay_relayAt {isOn : Bool} (app : App)
    (hat : app.controller.relayAt isOn = false) (relay : Bool) :
    (appControllerControlRelay isOn app).controller.relayAt relay = true ↔ relay = isOn := by
  refine relayAt_iff ?_ relay
  rcases controlRelay_cases isOn app with ⟨hat', -⟩ | ⟨-, -, heq⟩ | ⟨-, -, heq⟩
  · exact absurd (hat.symm.trans hat') (by simp)
  · rw [heq]; rfl
  · rw [heq, (onChangePower_same _ _).controller]; rfl

theorem deliversInAuto_iff {s : Racing} (h : s.Inv) (r : RaceStep) :
    DeliversInAuto r s ↔ NotOvertaken r s := by
  cases r with
  | deliver =>
    simp only [DeliversInAuto, NotOvertaken, forall_const, Racing.step, Racing.deliver]
    cases hfl : s.inFlight with
    | none => simp
    | some tr =>
      obtain ⟨t, type⟩ := tr
      by_cases hrun : s.app.power = .running
      · have hmode := h.inFlight (by simp [hfl])
        have hauto : s.app.schedule.mode = .auto ↔ s.changed = none ∨ s.changed = some .auto := by
          rw [hmode, ControllerMode.toOperator_eq_auto]
          cases s.changed <;> simp
        have hmoves := controlRelay_relayState (decide (type = .activeStart))
          (s.app.enter (.scheduleTrigger type))
        simp only [hrun, ne_eq, not_true_eq_false, if_false, scheduleRestart_controller,
          scheduleTrigger_eq, hauto]
        -- Once the relay is not at the trigger's level, the trigger moves it to that level.
        have hasked (hat : s.app.controller.relayAt (decide (type = .activeStart)) = false) :
            (∀ isOn, s.requested = some isOn →
                (appControllerControlRelay (decide (type = .activeStart))
                  (s.app.enter (.scheduleTrigger type))).controller.relayAt isOn = true) ↔
              s.requested = none ∨ s.requested = some (decide (type = .activeStart)) := by
          have hleft := controlRelay_relayAt (s.app.enter (.scheduleTrigger type)) hat
          simp only [hleft]
          cases s.requested <;> simp
        constructor
        · intro hsafe _ t' type' heq
          obtain ⟨rfl, rfl⟩ : t = t' ∧ type = type' := by simpa using heq
          cases hat : s.app.controller.relayAt (decide (type = .activeStart)) with
          | true => exact Or.inl rfl
          | false =>
            obtain ⟨hchanged, hrequested⟩ := hsafe (hmoves.mpr hat)
            exact Or.inr ⟨hchanged, (hasked hat).mp hrequested⟩
        · intro hover hne
          have hat := hmoves.mp hne
          rcases hover trivial t type rfl with hat' | ⟨hchanged, hrequested⟩
          · exact absurd (hat.symm.trans hat') (by simp)
          · exact ⟨hchanged, (hasked hat).mpr hrequested⟩
      · simp [hrun]
  | _ => simp [DeliversInAuto, NotOvertaken]

/-- **When a trigger in flight is harmless.** Along a run from a boot, every delivery that
moves the relay finds the schedule in mode `AUTO` and undoes no request, exactly if no delivery
was overtaken. -/
theorem delivery_in_auto_iff (env : BootEnv) (nvs : Nvs) (rs : List RaceStep) :
    Along Racing.step DeliversInAuto (Racing.boot env nvs) rs ↔
      Along Racing.step NotOvertaken (Racing.boot env nvs) rs := by
  have h0 : Racing.Inv (Racing.boot env nvs) :=
    ⟨⟨_, (appMain_shows env nvs).1⟩, fun hfl => absurd hfl (by simp [Racing.boot])⟩
  exact along_congr (fun r s h => Racing.Inv.step h r) (fun r s h => deliversInAuto_iff h r) h0

/-- The flash with a schedule from eight to five. -/
def officeHours : Nvs := Cell.settled (some (.record ⟨8, 0, true, 17, 0, true⟩))

/-- In `AUTO` the task decides to switch on; the selector goes to `OFF`; the decision arrives. -/
def overtakenRun : List RaceStep :=
  [.poll 1 0, .decide (.online 8 30 (by decide) (by decide)), .poll 1 1, .deliver]

/-- The relay comes on with the selector, and the schedule, at `OFF`. -/
theorem overtakenRun_not_in_auto :
    (after Racing.step (Racing.boot .clean officeHours)
        overtakenRun).app.controller.relayState = 1 ∧
      (after Racing.step (Racing.boot .clean officeHours) overtakenRun).app.schedule.mode = .off ∧
      ¬Along Racing.step DeliversInAuto (Racing.boot .clean officeHours) overtakenRun := by
  refine ⟨rfl, rfl, ?_⟩
  rintro ⟨-, -, -, hdeliver, -⟩
  obtain ⟨hmode, -⟩ := hdeliver rfl (by decide)
  exact absurd hmode (by decide)

end Lighting
