import Lighting.Lib.Cyclic
import Lighting.Lib.Runs
import Lighting.Panel.Refinement

/-!
# The position of the selector, and what the controller says it is

`_gpio_task` keeps the mode it decoded last in a local variable that starts at `OFF`, and
writes the handle only when a poll decodes another one. So the two agree from the first change
on. Until then the handle holds what `malloc` returned, and a device that is switched on with
the selector at `OFF` stays there as long as nobody turns it.

`selector_reported_iff` is the exact condition: the memory read as `OFF`, or the first poll
found the selector in another position. The events are right in every case, since they are
raised from the local variable.
-/

set_option autoImplicit false

namespace Lighting

open Cyclic Runs

/-- The levels of the two selector pins at a poll. -/
structure Levels where
  manualState : Int
  autoState : Int

def Levels.mode (l : Levels) : ControllerMode := selectorMode l.manualState l.autoState

/-- One iteration of `_gpio_task`. -/
def App.poll (l : Levels) (app : App) : App := gpioTaskPoll l.manualState l.autoState app

def Event.mode? : Event → Option ControllerMode
  | .controllerChangeMode mode => some mode
  | _ => none

/-- The modes of all `APP_CONTROLLER_EVENT_CHANGE_MODE` raised so far. -/
def App.modeChanges (app : App) : List ControllerMode := app.trace.filterMap Event.mode?

/-- After every poll the controller reports the position of that poll, the events raised are
the changes of position so far, and a release would raise this very position. -/
def SelectorReported (app : App) (ls : List Levels) : Prop :=
  ∀ js l, js ++ [l] <+: ls →
    let polled := after App.poll app (js ++ [l])
    appControllerGetMode (some polled.controller) = l.mode ∧
      polled.modeChanges = app.modeChanges ++ changes .off ((js ++ [l]).map Levels.mode) ∧
        (appControllerForceManual true polled).modeChanges = polled.modeChanges ++ [l.mode]

/-! ## What a change of mode raises -/

theorem modeChanges_enter (app : App) (e : Event) :
    (app.enter e).modeChanges = app.modeChanges ++ e.mode?.toList := by
  unfold App.modeChanges App.enter
  rw [List.filterMap_append, List.filterMap_cons, List.filterMap_nil]
  cases e.mode? with
  | none => rfl
  | some mode => rfl

/-- Moving the relay raises no change of mode and leaves the local variables of the task. -/
theorem controlRelay_silent (isOn : Bool) (app : App) :
    (appControllerControlRelay isOn app).modeChanges = app.modeChanges ∧
      (appControllerControlRelay isOn app).gpioTask = app.gpioTask := by
  rcases controlRelay_cases isOn app with ⟨-, h⟩ | ⟨-, -, h⟩ | ⟨-, -, h⟩
  · rw [h]
    exact ⟨rfl, rfl⟩
  · rw [h]
    exact ⟨rfl, rfl⟩
  · rw [h]
    refine ⟨?_, rfl⟩
    have hraise := modeChanges_enter (setRelay isOn app) (.controllerChangePower (some isOn))
    exact hraise.trans (List.append_nil _)

theorem onChangeMode_spec (mode : ControllerMode) (app : App) :
    (onChangeMode mode app).modeChanges = app.modeChanges ++ [mode] ∧
      (onChangeMode mode app).gpioTask = app.gpioTask ∧
      (onChangeMode mode app).controller.mode = app.controller.mode ∧
      (onChangeMode mode app).controller.callback = app.controller.callback := by
  have hraise : (announceMode mode app).modeChanges = app.modeChanges ++ [mode] :=
    modeChanges_enter app (.controllerChangeMode mode)
  rw [onChangeMode_eq]
  by_cases hoff : mode = .off
  · rw [if_pos hoff]
    obtain ⟨hmodes, htask⟩ := controlRelay_silent false (announceMode mode app)
    have hsame := controlRelay_same false (announceMode mode app)
    exact ⟨hmodes.trans hraise, htask, hsame.selector, hsame.controllerCallback⟩
  · rw [if_neg hoff]
    exact ⟨hraise, rfl, rfl, rfl⟩

theorem forceManual_modeChanges {app : App} (hcb : app.controller.callback = true) :
    (appControllerForceManual true app).modeChanges =
      app.modeChanges ++ [app.controller.mode] := by
  unfold appControllerForceManual
  simp only [Bool.true_eq_false, if_false, hcb, if_true]
  exact (onChangeMode_spec _ _).1

/-! ## One poll -/

/-- What a poll does to the two copies of the mode, and what it raises. -/
structure PolledOnce (mode : ControllerMode) (a b : App) : Prop where
  callback : b.controller.callback = true
  task : b.gpioTask.mode = mode
  handle : b.controller.mode = if mode ≠ a.gpioTask.mode then mode else a.controller.mode
  modeChanges : b.modeChanges =
    a.modeChanges ++ if mode ≠ a.gpioTask.mode then [mode] else []

theorem poll_spec {app : App} (hcb : app.controller.callback = true) (l : Levels) :
    PolledOnce l.mode app (app.poll l) := by
  have hpoll : app.poll l = gpioTaskBlink
      (if l.mode ≠ app.gpioTask.mode then gpioTaskChangeMode l.mode app else app) := rfl
  rw [hpoll]
  by_cases hne : l.mode ≠ app.gpioTask.mode
  · -- The event is raised when both copies are written.
    let written : App := { app with
      gpioTask := { app.gpioTask with mode := l.mode }
      controller := { app.controller with mode := l.mode } }
    have hturn : gpioTaskChangeMode l.mode app = onChangeMode l.mode written := if_pos hcb
    obtain ⟨hmodes, htask, hmode, hcb'⟩ := onChangeMode_spec l.mode written
    rw [if_pos hne, hturn]
    refine ⟨hcb'.trans hcb, congrArg GpioTask.mode htask, ?_, ?_⟩
    · rw [if_pos hne]
      exact hmode
    · rw [if_pos hne]
      exact hmodes
  · rw [if_neg hne]
    refine ⟨hcb, (not_not.mp hne).symm, ?_, ?_⟩
    · rw [if_neg hne]
      rfl
    · rw [if_neg hne, List.append_nil]
      rfl

/-! ## A run of polls -/

/-- After a run of polls the two copies agree, or nothing has changed since its start. -/
structure Polled (modes : List ControllerMode) (a b : App) : Prop where
  callback : b.controller.callback = true
  task : b.gpioTask.mode = modes.getLastD a.gpioTask.mode
  handle : b.controller.mode = b.gpioTask.mode ∨
    changes a.gpioTask.mode modes = [] ∧ b.gpioTask.mode = a.gpioTask.mode ∧
      b.controller.mode = a.controller.mode
  modeChanges : b.modeChanges = a.modeChanges ++ changes a.gpioTask.mode modes

theorem polls_spec {app : App} (hcb : app.controller.callback = true) (ls : List Levels) :
    Polled (ls.map Levels.mode) app (after App.poll app ls) := by
  induction ls generalizing app with
  | nil => exact ⟨hcb, rfl, Or.inr ⟨rfl, rfl, rfl⟩, (List.append_nil _).symm⟩
  | cons l ls ih =>
    obtain ⟨hcb', htask, hhandle, hraised⟩ := poll_spec hcb l
    obtain ⟨hcbs, htasks, hhandles, hraiseds⟩ := ih hcb'
    rw [after_cons, List.map_cons]
    refine ⟨hcbs, ?_, ?_, ?_⟩
    · rw [htasks, htask, List.getLastD_cons]
    · rcases hhandles with hagree | ⟨hnone, hsame, hkept⟩
      · exact Or.inl hagree
      · by_cases hne : l.mode ≠ app.gpioTask.mode
        · -- The change of this poll is the last one, and it wrote the handle.
          rw [if_pos hne] at hhandle
          exact Or.inl (by rw [hkept, hsame, hhandle, htask])
        · rw [if_neg hne] at hhandle
          rw [not_not] at hne
          rw [htask, hne] at hnone
          refine Or.inr ⟨?_, hsame.trans (htask.trans hne), hkept.trans hhandle⟩
          rw [changes_cons, if_pos hne, hne]
          exact hnone
    · rw [hraiseds, hraised, htask, List.append_assoc, changes_cons]
      congr 1
      by_cases heq : l.mode = app.gpioTask.mode
      · rw [if_neg (not_not.mpr heq), if_pos heq, heq]
        rfl
      · rw [if_pos heq, if_neg heq]
        rfl

/-- **The controller reports the selector's real position**, from the first poll on and through
every run of polls, exactly if the handle was read as `OFF` before or the first poll finds
another position. -/
theorem selector_reported_iff (env : BootEnv) (nvs : Nvs) (l : Levels) (ls : List Levels) :
    SelectorReported (appMain env nvs) (l :: ls) ↔ env.mallocMode = .off ∨ l.mode ≠ .off := by
  constructor
  · intro h
    by_contra hnot
    rw [not_or, not_not] at hnot
    obtain ⟨hmalloc, hoff⟩ := hnot
    -- The first poll changes nothing, so the handle is still the one that was allocated.
    obtain ⟨-, -, hhandle, -⟩ := @poll_spec (appMain env nvs) rfl l
    rw [hoff] at hhandle
    obtain ⟨hreport, -⟩ := h [] l (by simp)
    apply hmalloc
    calc env.mallocMode = ((appMain env nvs).poll l).controller.mode := hhandle.symm
      _ = l.mode := hreport
      _ = .off := hoff
  · intro hgood js k hpre polled
    have hrun : Polled _ (appMain env nvs) polled := polls_spec rfl (js ++ [k])
    have hlast : polled.gpioTask.mode = k.mode := by
      rw [hrun.task, List.map_append, List.map_singleton, List.getLastD_concat]
    have hmode : polled.controller.mode = k.mode := by
      rw [← hlast]
      rcases hrun.handle with hagree | ⟨hnone, hsame, hkept⟩
      · exact hagree
      · rcases hgood with hmalloc | hturned
        · rw [hsame, hkept]
          exact hmalloc
        · -- The first poll was a change.
          obtain ⟨rest, hrest⟩ : ∃ rest, js ++ [k] = l :: rest := by
            cases js with
            | nil =>
              obtain ⟨rfl, -⟩ := List.cons_prefix_cons.mp hpre
              exact ⟨[], rfl⟩
            | cons j js =>
              obtain ⟨rfl, -⟩ := List.cons_prefix_cons.mp hpre
              exact ⟨js ++ [k], rfl⟩
          have hstart : (appMain env nvs).gpioTask.mode = .off := rfl
          rw [hrest, List.map_cons, changes_cons, hstart, if_neg hturned] at hnone
          exact absurd hnone (List.cons_ne_nil _ _)
    refine ⟨hmode, hrun.modeChanges, ?_⟩
    rw [forceManual_modeChanges hrun.callback, hmode]

/-- A device that is switched on with the selector at `OFF`, where the memory of the handle
read as `MANUAL`. -/
theorem selector_not_reported :
    appControllerGetMode (some
        ((appMain { BootEnv.clean with mallocMode := .manual } (.settled none)).poll
          ⟨1, 1⟩).controller) = .manual ∧
      ¬SelectorReported (appMain { BootEnv.clean with mallocMode := .manual } (.settled none))
        [⟨1, 1⟩] := by
  refine ⟨rfl, fun h => ?_⟩
  obtain ⟨hreport, -⟩ := h [] ⟨1, 1⟩ (List.prefix_refl _)
  exact absurd hreport (by decide)

end Lighting
