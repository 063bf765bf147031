import Mathlib.Tactic.IntervalCases
import Lighting.Lib.Handover
import Lighting.Model.Gps

/-!
# What the events of the receiver carry

The two tasks of `app_gps.c` hand the record `date_time_form` over under the flag
`is_sync_rtc_gps`. The flag is raised before the record is filled and lowered after it was
used, whatever has come in between; so it is the order of the turns that decides whether a fix
is delivered as it is, or torn, or twice, or not at all. `published_once_iff` is
`Handover.faithful_iff` for these tasks.
-/

set_option autoImplicit false

namespace Lighting

open CString Runs Handover

/-- The fixes were delivered one after the other, each once, and with the flag down there is
none that was not. -/
structure Published (fixes : Nat → GpsFix) (s : GpsShared) : Prop where
  setTimes : s.setTimes = (List.range s.setTimes.length).map fun k => (fixes k).form
  setTimes_le : s.setTimes.length ≤ s.published
  none_left : s.isSyncRtcGps = false → s.setTimes.length = s.published

/-- `_GPS_process_task` calls back while the record holds the first fix not delivered: the
publication of that one is over and none has begun since, or the one after it has begun and
nothing of the record has been assigned yet. It lowers the flag while no fix has been
published since it called back. -/
def CallsInTurn (turn : GpsTurn) (s : GpsShared) : Prop :=
  turn = .process →
    (s.processTask = .calling →
      (s.gpsTask = [] ∧ s.setTimes.length + 1 = s.published) ∨
        (s.gpsTask.length = 7 ∧ s.setTimes.length + 2 = s.published)) ∧
    (s.processTask = .clearing → s.setTimes.length = s.published)

/-! ## The tasks hand over a record -/

def GpsTurn.turn : GpsTurn → Turn
  | .gps => .writer
  | .process => .reader

def ProcessTask.stage : ProcessTask → Stage
  | .testing => .testing
  | .calling => .taking
  | .clearing => .lowering

def GpsShared.state (s : GpsShared) : State DateTimeForm where
  flag := s.isSyncRtcGps
  record := s.dateTimeForm
  rest := s.gpsTask.map FormWrite.run
  stage := s.processTask.stage
  begun := s.published
  given := s.setTimes

/-- The assignments of a publication, as what they do to the record. -/
def formUpdates (fix : GpsFix) : List (DateTimeForm → DateTimeForm) :=
  (formWrites fix).map FormWrite.run

theorem state_step (fixes : Nat → GpsFix) (turn : GpsTurn) (s : GpsShared) :
    (s.step fixes turn).state = step formUpdates fixes turn.turn s.state := by
  cases turn with
  | gps =>
    cases hrest : s.gpsTask with
    | nil =>
      have hstep : s.step fixes .gps =
          { s with
            isSyncRtcGps := true
            gpsTask := formWrites (fixes s.published)
            published := s.published + 1 } := by
        simp only [GpsShared.step, hrest]
      have hstate : s.state.rest = [] := by simp [GpsShared.state, hrest]
      show _ = step formUpdates fixes .writer s.state
      rw [hstep, step_begin hstate]
      rfl
    | cons w rest =>
      have hstep : s.step fixes .gps =
          { s with dateTimeForm := w.run s.dateTimeForm, gpsTask := rest } := by
        simp only [GpsShared.step, hrest]
      have hstate : s.state.rest = w.run :: rest.map FormWrite.run := by
        simp [GpsShared.state, hrest]
      show _ = step formUpdates fixes .writer s.state
      rw [hstep, step_write hstate]
      rfl
  | process =>
    cases hstage : s.processTask with
    | testing =>
      cases hflag : s.isSyncRtcGps <;>
        simp [GpsShared.step, hstage, hflag, GpsTurn.turn, step, GpsShared.state,
          ProcessTask.stage]
    | calling =>
      simp [GpsShared.step, hstage, GpsTurn.turn, step, GpsShared.state, ProcessTask.stage]
    | clearing =>
      simp [GpsShared.step, hstage, GpsTurn.turn, step, GpsShared.state, ProcessTask.stage]

theorem published_iff (fixes : Nat → GpsFix) (s : GpsShared) :
    Published fixes s ↔ Faithful GpsFix.form fixes s.state :=
  ⟨fun h => ⟨h.setTimes, h.setTimes_le, h.none_left⟩,
    fun h => ⟨h.given, h.given_le, h.none_left⟩⟩

theorem callsInTurn_iff (turn : GpsTurn) (s : GpsShared) :
    CallsInTurn turn s ↔ InTurn 7 turn.turn s.state := by
  have hstage : (s.processTask = .calling ↔ s.state.stage = .taking) ∧
      (s.processTask = .clearing ↔ s.state.stage = .lowering) := by
    cases hp : s.processTask <;> simp [GpsShared.state, hp, ProcessTask.stage]
  have hrest : (s.gpsTask = [] ↔ s.state.rest = []) ∧
      s.gpsTask.length = s.state.rest.length := by
    simp [GpsShared.state]
  have hturn : turn = .process ↔ turn.turn = .reader := by cases turn <;> simp [GpsTurn.turn]
  unfold CallsInTurn InTurn
  rw [hstage.1, hstage.2, hrest.1, hrest.2, hturn]
  rfl

/-! ## The record and its parts -/

theorem formUpdates_writing : Writing formUpdates GpsFix.form 7 :=
  ⟨by decide, fun _ => rfl, fun _ _ => rfl⟩

/-- The time of day is assigned up to the second; the second comes last. -/
theorem torn_second (fix : GpsFix) (form : DateTimeForm)
    (ws : List (DateTimeForm → DateTimeForm)) (hne : ws ≠ []) (hpre : ws <+: formUpdates fix)
    (hall : ws ≠ formUpdates fix) : (written ws form).second = 0 := by
  have hlen : ws.length < 7 := by
    rcases Nat.lt_or_ge ws.length 7 with h | h
    · exact h
    · exact absurd (hpre.eq_of_length_le h) hall
  have htake : ws = (formUpdates fix).take ws.length := List.prefix_iff_eq_take.mp hpre
  have hpos : 0 < ws.length := List.length_pos_iff.mpr hne
  rw [htake]
  generalize ws.length = n at hlen hpos
  interval_cases n <;> rfl

/-- Two fixes, a second apart. -/
def noon : GpsFix where
  form := ⟨19, 0, 1, 1, 2024, 1⟩
  converted :=
    ⟨ascii ['1', '2', '0', '0', '0', '1'], ascii ['0', '1', '0', '1', '2', '4'], by decide⟩

def noonAgain : GpsFix where
  form := ⟨19, 0, 1, 1, 2024, 2⟩
  converted :=
    ⟨ascii ['1', '2', '0', '0', '0', '2'], ascii ['0', '1', '0', '1', '2', '4'], by decide⟩

theorem noon_telling : Telling formUpdates GpsFix.form blankForm noon noonAgain where
  ne := by decide
  blank := by decide
  torn fix form ws hne hpre hall heq := by
    have hsecond := torn_second fix form ws hne hpre hall
    rw [heq] at hsecond
    exact absurd hsecond (by decide)

/-! ## Runs -/

/-- Every turn of a task is one of the writer or of the reader. -/
def GpsTurn.act (turn : GpsTurn) (_ : GpsShared) : Option Turn := some turn.turn

theorem state_perform (fixes : Nat → GpsFix) (turn : GpsTurn) (s : GpsShared) :
    (s.step fixes turn).state = perform (step formUpdates fixes) (turn.act s) s.state :=
  state_step fixes turn s

theorem outputs_act (fixes : Nat → GpsFix) (s : GpsShared) (turns : List GpsTurn) :
    outputs (GpsShared.step fixes) GpsTurn.act s turns = turns.map GpsTurn.turn :=
  outputs_some _ _ s turns

theorem published_always (fixes : Nat → GpsFix) (turns : List GpsTurn) :
    Always (GpsShared.step fixes) (Published fixes) GpsShared.start turns ↔
      Always (step formUpdates fixes) (Faithful GpsFix.form fixes) (Handover.start blankForm)
        (turns.map GpsTurn.turn) := by
  have hsim :=
    always_simulates (state_perform fixes) (Faithful GpsFix.form fixes) GpsShared.start turns
  rw [outputs_act] at hsim
  rw [show Published fixes = fun s => Faithful GpsFix.form fixes s.state from
    funext fun s => propext (published_iff fixes s)]
  exact hsim

theorem callsInTurn_along (fixes : Nat → GpsFix) (turns : List GpsTurn) :
    Along (GpsShared.step fixes) CallsInTurn GpsShared.start turns ↔
      Along (step formUpdates fixes) (InTurn 7) (Handover.start blankForm)
        (turns.map GpsTurn.turn) := by
  have hsim := along_simulates (state_perform fixes) (InTurn 7) GpsShared.start turns
  rw [outputs_act] at hsim
  simp only [GpsTurn.act, Option.mem_def, Option.some.injEq, forall_eq', ← callsInTurn_iff] at hsim
  exact hsim

/-- **What the events carry.** For every order of the turns of the two tasks: whatever the
fixes are, they are delivered one after the other and each once, exactly if every callback and
every lowering of the flag is in turn. It does not depend on the fixes. -/
theorem published_once_iff (fixes₀ : Nat → GpsFix) (turns : List GpsTurn) :
    (∀ fixes, Always (GpsShared.step fixes) (Published fixes) GpsShared.start turns) ↔
      Along (GpsShared.step fixes₀) CallsInTurn GpsShared.start turns := by
  rw [callsInTurn_along, ← faithful_iff formUpdates_writing noon_telling fixes₀]
  exact forall_congr' fun fixes => published_always fixes turns

/-- `_gps_task` raises the flag; `_GPS_process_task` tests it and calls back. -/
def callsAtOnce : List GpsTurn := [.gps, .process, .process]

/-- The first event of a fix made at noon carries the year 0. -/
theorem callsAtOnce_not_published :
    (after (GpsShared.step fun _ => noon) GpsShared.start callsAtOnce).setTimes = [blankForm] ∧
      ¬∀ fixes, Always (GpsShared.step fixes) (Published fixes) GpsShared.start callsAtOnce := by
  have hset : (after (GpsShared.step fun _ => noon) GpsShared.start callsAtOnce).setTimes =
      [blankForm] := rfl
  refine ⟨hset, ?_⟩
  intro hall
  have hgiven := (hall fun _ => noon).last.setTimes
  rw [hset] at hgiven
  exact absurd hgiven (by decide)

end Lighting
