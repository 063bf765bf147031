import Lighting.Lib.Runs
import Lighting.Panel.Refinement

/-!
# Is `OFF` safe?

Turning the selector to `OFF` switches the relay off, and while it stays there the server is
refused and the schedule decides nothing. The one thing left is the on-button of the display:
`event_callback` tests the mode before it obeys the server and does not test it before it
obeys the button, and the test inside `app_controller_control_relay` is commented out.

`off_is_safe_iff` is exact about that. In a run from a boot, the relay is off in every state
with a handled change to `OFF` if and only if no on-button was handled in such a state.

The code keeps no record that the selector was ever moved: after a boot `mode` is whatever
`malloc` returned. `Watched` adds the one bit the statement needs.
-/

set_option autoImplicit false

namespace Lighting

open Panel Runs CString WriteBack

/-- A device, and whether a change of the selector has been handled since the boot. -/
structure Watched where
  app : App
  moved : Bool

/-- The poll finds the selector in another position than the last poll did. -/
def selectorMoves (app : App) : Input → Bool
  | .poll manualState autoState =>
    decide (app.power = .running) && decide (selectorMode manualState autoState ≠ app.gpioTask.mode)
  | _ => false

def Watched.step (i : Input) (w : Watched) : Watched :=
  ⟨w.app.step i, w.moved || selectorMoves w.app i⟩

/-- A change of the selector has been handled and its position is `OFF`. -/
def Watched.Off (w : Watched) : Prop := w.moved = true ∧ w.app.controller.mode = .off

/-- The relay is off: the handle says so and neither pin was last driven to 1. -/
def App.RelayOff (app : App) : Prop :=
  app.controller.relayState = 0 ∧ app.gpio app.controller.relay1Pin ≠ some 1 ∧
    app.gpio app.controller.relay2Pin ≠ some 1

/-- An on-button handled in position `OFF`: a read of the display whose buffer starts with
`@manual_on$`. -/
def OnButtonWhileOff (i : Input) (w : Watched) : Prop :=
  w.app.power = .running ∧ w.Off ∧
    ∃ r, i = .nextion r ∧ r.bytes ≠ [] ∧
      memcmpEq (w.app.readBuffer.store r).bytes manualOnKey = true

/-! ## The acts behind the inputs -/

/-- The messages of the server are never one of the other acts. -/
theorem Dispatch.act?_cases (d : Dispatch) :
    d.act? = none ∨ (∃ isOn, d.act? = some (.control isOn)) ∨ d.act? = some .release := by
  cases d with
  | powerControl r => exact Or.inr (Or.inl ⟨_, rfl⟩)
  | releaseControl => exact Or.inr (Or.inr rfl)
  | _ => exact Or.inl rfl

theorem Event.button?_cases (e : Event) :
    e.button? = none ∨ e = .nextionManualOn ∧ e.button? = some (.manual true) ∨
      e.button? = some (.manual false) := by
  cases e with
  | nextionManualOn => exact Or.inr (Or.inl ⟨rfl, rfl⟩)
  | nextionManualOff => exact Or.inr (Or.inr rfl)
  | _ => exact Or.inl rfl

theorem selectorMoves_iff (app : App) (i : Input) :
    selectorMoves app i = true ↔ ∃ position, app.act? i = some (.turn position) := by
  unfold App.act?
  by_cases hrun : app.power = .running
  · cases i with
    | poll manualState autoState => simp [selectorMoves, Input.act?, hrun]
    | tick t => simp [selectorMoves, Input.act?]
    | message m =>
      cases m with
      | none => simp [selectorMoves, Input.act?]
      | some message =>
        rcases message.dispatch.act?_cases with h | ⟨isOn, h⟩ | h <;>
          simp [selectorMoves, Input.act?, h]
    | nextion r =>
      cases he : (nextionReadTask r app.readBuffer app.nextion).2.2 with
      | none => simp [selectorMoves, Input.act?, he]
      | some e =>
        rcases e.button?_cases with h | ⟨-, h⟩ | h <;> simp [selectorMoves, Input.act?, he, h]
    | _ => simp [selectorMoves, Input.act?]
  · cases i <;> simp [selectorMoves, hrun]

theorem act?_onButton {p : Panel} {app : App} (h : Shows p app) (i : Input) :
    app.act? i = some (.manual true) ↔
      app.power = .running ∧ ∃ r, i = .nextion r ∧ r.bytes ≠ [] ∧
        memcmpEq (app.readBuffer.store r).bytes manualOnKey = true := by
  unfold App.act?
  by_cases hrun : app.power = .running
  · cases i with
    | poll manualState autoState => simp [Input.act?]
    | tick t => simp [Input.act?]
    | message m =>
      cases m with
      | none => simp [Input.act?]
      | some message =>
        rcases message.dispatch.act?_cases with h | ⟨isOn, h⟩ | h <;> simp [Input.act?, h]
    | nextion r =>
      have hon := @nextionReadTask_manualOn r app.readBuffer _ h.nextionCallback
      simp only [hrun, if_true, Input.act?, true_and, Input.nextion.injEq, exists_eq_left', ← hon]
      cases he : (nextionReadTask r app.readBuffer app.nextion).2.2 with
      | none => simp
      | some e =>
        rcases e.button?_cases with hb | ⟨rfl, hb⟩ | hb
        · simp [hb]
          rintro rfl
          exact absurd hb (by simp [Event.button?])
        · simp [hb]
        · simp [hb]
          rintro rfl
          exact absurd hb (by simp [Event.button?])
    | _ => simp [Input.act?]
  · simp [hrun]

theorem relayOff_iff {relay : Bool} {app : App} (h : Drives relay app) :
    app.RelayOff ↔ relay = false := by
  constructor
  · rintro ⟨hstate, -, -⟩
    cases relay with
    | false => rfl
    | true => exact absurd (h.relayState.symm.trans hstate) (by simp)
  · rintro rfl
    have hpin : ∀ level, Carries level false → level ≠ some 1 := by
      rintro level (rfl | ⟨rfl, -⟩) <;> simp
    exact ⟨h.relayState, hpin _ h.relay1, hpin _ h.relay2⟩

/-! ## `OFF` over a run -/

/-- What a device in position `OFF` owes. -/
def Watched.Good (w : Watched) : Prop := w.Off → w.app.RelayOff

theorem good_iff {p : Panel} {w : Watched} (h : Shows p w.app) (hd : Drives p.relay w.app) :
    w.Good ↔ (w.moved = true → Dark p) := by
  unfold Watched.Good Watched.Off Dark
  rw [relayOff_iff hd, h.selector, and_imp]

theorem onButtonWhileOff_iff {p : Panel} {w : Watched} (h : Shows p w.app) (i : Input) :
    OnButtonWhileOff i w ↔
      w.moved = true ∧ w.app.act? i = some (.manual true) ∧ p.selector = .off := by
  unfold OnButtonWhileOff Watched.Off
  rw [act?_onButton h, h.selector]
  tauto

/-- A panel whose selector is not being turned stays dark unless the on-button is pressed. -/
theorem step_good_iff {p : Panel} {w : Watched} (h : Shows p w.app) (hd : Drives p.relay w.app)
    (hidle : Idle p) (hgood : w.Good) (i : Input) :
    (w.step i).Good ↔ ¬OnButtonWhileOff i w := by
  rw [good_iff (step_shows h i) (step_drives h hd i), onButtonWhileOff_iff h]
  rw [good_iff h hd] at hgood
  cases hact : w.app.act? i with
  | none =>
    have hstill : selectorMoves w.app i = false := by
      rw [Bool.eq_false_iff, ne_eq, selectorMoves_iff, hact]
      simp
    simpa [Watched.step, hstill] using hgood
  | some a =>
    by_cases hturn : ∃ position, a = .turn position
    · obtain ⟨position, rfl⟩ := hturn
      have hdark : Dark (act (.turn position) p) := by simp +contextual [act, Dark]
      simp [hdark]
    · have hstill : selectorMoves w.app i = false := by
        rw [Bool.eq_false_iff, ne_eq, selectorMoves_iff, hact]
        simpa using hturn
      by_cases hmoved : w.moved = true
      · simpa [Watched.step, hstill, hmoved] using act_dark hidle (hgood hmoved) a
      · simp [Watched.step, hstill, hmoved]

/-- **`OFF` is safe up to the on-button.** In a run from a boot the relay is off in every state
in which a change to `OFF` has been handled and stands, exactly if no on-button was handled in
such a state. -/
theorem off_is_safe_iff (env : BootEnv) (nvs : Nvs) (is : List Input) :
    Always Watched.step Watched.Good ⟨appMain env nvs, false⟩ is ↔
      Along Watched.step (fun i w => ¬OnButtonWhileOff i w) ⟨appMain env nvs, false⟩ is := by
  let Inv : Watched → Prop := fun w => ∃ p, Shows p w.app ∧ Drives p.relay w.app ∧ Idle p
  have hinv : ∀ i w, Inv w → Inv (w.step i) := by
    rintro i w ⟨p, h, hd, hidle⟩
    refine ⟨react (w.app.act? i) p, step_shows h i, step_drives h hd i, ?_⟩
    cases w.app.act? i with
    | none => exact hidle
    | some a => exact act_idle hidle a
  obtain ⟨hshows, hdrives⟩ := appMain_shows env nvs
  refine always_iff_along hinv ?_ ⟨_, hshows, hdrives, fun _ => rfl⟩ ?_
  · rintro i w ⟨p, h, hd, hidle⟩ hgood
    exact step_good_iff h hd hidle hgood i
  · rintro ⟨hmoved, -⟩
    exact absurd hmoved (by simp)

/-- The selector turned to `AUTO` and back to `OFF`, then the on-button. -/
def onButtonRun : List Input :=
  [.poll 1 0, .poll 1 1, .nextion ⟨manualOnKey, manualOnKey_length_le, ⟨0, 0, 0, 0⟩, []⟩]

/-- The change to `OFF` is the last one handled, and the relay is on. -/
theorem onButtonRun_not_safe :
    (after Watched.step ⟨appMain .clean (Cell.settled none), false⟩ onButtonRun).Off ∧
      (after Watched.step ⟨appMain .clean (Cell.settled none), false⟩
        onButtonRun).app.controller.relayState = 1 ∧
      ¬Always Watched.step Watched.Good ⟨appMain .clean (Cell.settled none), false⟩
        onButtonRun := by
  have hoff : (after Watched.step ⟨appMain .clean (Cell.settled none), false⟩ onButtonRun).Off :=
    ⟨by rfl, by rfl⟩
  have hon : (after Watched.step ⟨appMain .clean (Cell.settled none), false⟩
      onButtonRun).app.controller.relayState = 1 := by rfl
  refine ⟨hoff, hon, fun h => ?_⟩
  have hstate := (h.last hoff).1
  rw [hon] at hstate
  exact absurd hstate (by decide)

end Lighting
