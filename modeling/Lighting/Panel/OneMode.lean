import Lighting.Lib.Runs
import Lighting.Panel.Refinement

/-!
# One operating mode in four copies

The controller keeps the position of the selector; the schedule, the display and the session
each keep the mode the device operates in. A server control moves the last three to `MANUAL`
and leaves the first alone, so what the three hold cannot be read off the controller.

`Held` adds the bit that is missing: whether the server has taken the panel over. It is set by
an accepted control and cleared by a change of the selector or a release, and
`modes_agree` says that it is all there is to know — the three copies are equal, and are
`MANUAL` or the position of the selector by that bit, after any run.

The schedule keeps the mode in its own enumeration; the cast is `toOperator`.
-/

set_option autoImplicit false

namespace Lighting

open Panel Runs WriteBack

/-- A device, and whether a control of the server is in force. -/
structure Held where
  app : App
  overridden : Bool

/-- The bit after an input. A control is accepted unless the selector is `OFF`. -/
def overriddenAfter (app : App) (overridden : Bool) : Input → Bool
  | .poll manualState autoState =>
    if selectorMode manualState autoState ≠ app.gpioTask.mode then false else overridden
  | .message (some message) =>
    match message.dispatch with
    | .powerControl _ => if app.controller.mode ≠ .off then true else overridden
    | .releaseControl => false
    | _ => overridden
  | _ => overridden

def Held.step (i : Input) (s : Held) : Held where
  app := s.app.step i
  overridden :=
    if s.app.power = .running then overriddenAfter s.app s.overridden i else s.overridden

/-- The callbacks `app_main` configures, and all four modes `OFF`. -/
structure StartsOff (app : App) : Prop where
  controllerCallback : app.controller.callback = true
  websocketCallback : app.websocket.callback = true
  nextionCallback : app.nextion.callback = true
  controller : app.controller.mode = .off
  schedule : app.schedule.mode = .off
  nextion : app.nextion.mode = .off
  websocket : app.websocket.mode = .off

/-- The bit follows the acts of the panel. -/
theorem overriddenAfter_eq {p : Panel} {app : App} (h : Shows p app) (overridden : Bool)
    (i : Input) :
    overriddenAfter app overridden i =
      (i.act? app).elim overridden fun a => overrideAfter a p overridden := by
  cases i with
  | poll manualState autoState =>
    simp only [overriddenAfter, Input.act?]
    split
    · rfl
    · rfl
  | tick t =>
    simp only [overriddenAfter, Input.act?]
    cases (scheduleDecide t app.schedule).2 <;> rfl
  | message m =>
    cases m with
    | none => rfl
    | some message =>
      simp only [overriddenAfter, Input.act?, Option.bind_some]
      cases message.dispatch with
      | powerControl r =>
        simp only [Dispatch.act?, Option.elim_some, overrideAfter, h.selector, ne_eq, ite_not]
      | _ => rfl
  | nextion r =>
    simp only [overriddenAfter, Input.act?]
    cases (nextionReadTask r app.readBuffer app.nextion).2.2 with
    | none => rfl
    | some e => cases e <;> rfl
  | _ => rfl

/-- One step of the device keeps the panel and the bit together. -/
theorem step_inForce {p : Panel} {s : Held} (h : Shows p s.app) (hf : InForce s.overridden p)
    (i : Input) : InForce (s.step i).overridden (react (s.app.act? i) p) := by
  unfold Held.step App.act?
  split
  · rw [overriddenAfter_eq h]
    cases i.act? s.app with
    | none => exact hf
    | some a => exact act_inForce hf a
  · exact hf

/-- **One operating mode.** Whatever is handled after a start with all modes `OFF`, the
schedule, the display and the session hold the same mode; it is `MANUAL` while a control of the
server is in force, else the position of the selector. -/
theorem modes_agree (app : App) (h : StartsOff app) (is : List Input) :
    let s := after Held.step ⟨app, false⟩ is
    s.app.schedule.mode = s.app.nextion.mode.toOperator ∧
      s.app.websocket.mode = s.app.nextion.mode ∧
      s.app.nextion.mode = if s.overridden then .manual else s.app.controller.mode := by
  let Inv : Held → Prop := fun s => ∃ p, Shows p s.app ∧ InForce s.overridden p
  have hstep : ∀ i s, Inv s → Inv (s.step i) := by
    rintro i s ⟨p, hs, hf⟩
    exact ⟨_, step_shows hs i, step_inForce hs hf i⟩
  have hstart : Shows ⟨.off, .off, false⟩ app :=
    ⟨h.controllerCallback, h.websocketCallback, h.nextionCallback, h.controller, h.schedule,
      h.nextion, h.websocket⟩
  have h0 : Inv ⟨app, false⟩ := ⟨_, hstart, rfl⟩
  obtain ⟨p, hs, hf⟩ : Inv (after Held.step ⟨app, false⟩ is) := after_invariant hstep h0
  refine ⟨?_, hs.websocket.trans hs.nextion.symm, ?_⟩
  · rw [hs.schedule, hs.nextion]
  · rw [hs.nextion, hs.selector]
    exact hf

/-- A boot whose `malloc` reads as `OFF`, a control while the selector is on `AUTO`, and what
the three modules then hold. -/
theorem modes_agree_after_control :
    let s := after Held.step ⟨appMain .clean (Cell.settled none), false⟩
      [.poll 1 0, .message (some (.powerControl true))]
    s.overridden = true ∧ s.app.controller.mode = .auto ∧
      (s.app.schedule.mode = s.app.nextion.mode.toOperator ∧
        s.app.websocket.mode = s.app.nextion.mode ∧
        s.app.nextion.mode = if s.overridden then .manual else s.app.controller.mode) :=
  ⟨rfl, rfl, modes_agree (appMain .clean (Cell.settled none))
    ⟨rfl, rfl, rfl, rfl, rfl, rfl, rfl⟩ [.poll 1 0, .message (some (.powerControl true))]⟩

end Lighting
