import Lighting.Lib.Pacer
import Lighting.Lib.Runs
import Lighting.Model.Websocket

/-!
# How often the device asks to register and to log in

`_app_ws_register` and `_app_ws_login` are limiters over `esp_tick_get`, with one difference
from `Pacer.step`: the record of the last request is a `long` of 32 bits, and the timeout is
added to it in 32 bits. Up to a request at `2^31` ms less the timeout, some 24 days into a run,
the sum is the right one. From then on it is far in the past, and every call sends.

`requests_paced_iff` is the exact condition on the calls, for both stages at once.
-/

set_option autoImplicit false

namespace Lighting

open Runs Pacer

/-- The two limiters of `_websocket_task`. -/
inductive Stage where
  | register
  | login
  deriving DecidableEq, Repr

namespace Stage

def call : Stage → Int → Int → Websocket → EspErr × Websocket × Option ClientMessage
  | register => appWsRegister
  | login => appWsLogin

def timeout : Stage → Int
  | register => registerTimeoutMs
  | login => loginTimeoutMs

def lastTick : Stage → Websocket → Int
  | register => Websocket.lastRegTick
  | login => Websocket.lastLoginTick

/-- There is something to ask for: no device id, or no login. -/
def Waiting : Stage → Websocket → Prop
  | register, handle => handle.deviceId.any (fun deviceid => deviceid ≠ "") = false
  | login, handle => handle.isLogged = false

/-- The session, with the clock and the true time of the last request beside it. -/
structure Session where
  handle : Websocket
  limiter : Limiter

/-- The call sends a request. -/
def sends (stage : Stage) (c : Pacer.Call) (s : Session) : Bool :=
  (stage.call (c.tick s.limiter) (c.record s.limiter) s.handle).2.2.isSome

def step (stage : Stage) (c : Pacer.Call) (s : Session) : Session where
  handle := (stage.call (c.tick s.limiter) (c.record s.limiter) s.handle).2.1
  limiter := s.limiter.called c (stage.sends c s)

/-- After an earlier request, a call sends one if and only if the timeout has passed. -/
def Paced (stage : Stage) (c : Pacer.Call) (s : Session) : Prop :=
  ∀ r, s.limiter.request = some r →
    (stage.sends c s = true ↔ r + stage.timeout ≤ c.tick s.limiter)

/-- A call that comes after a request whose timeout does not end below `2^31` comes after that
timeout. -/
def NotLate (stage : Stage) (c : Pacer.Call) (l : Limiter) : Prop :=
  ∀ r, l.request = some r → 2 ^ 31 ≤ r + stage.timeout → r + stage.timeout ≤ c.tick l

theorem timeout_eq (stage : Stage) : stage.timeout = 30000 := by
  cases stage with
  | register => rfl
  | login => rfl

/-- **What a call does** while there is something to ask for. -/
theorem call_spec {stage : Stage} {handle : Websocket} (h : stage.Waiting handle)
    (tick tickAgain : Int) :
    let r := stage.call tick tickAgain handle
    r.2.2.isSome = paced tick (stage.lastTick handle) stage.timeout ∧ stage.Waiting r.2.1 ∧
      stage.lastTick r.2.1 =
        if r.2.2.isSome then wrap32 tickAgain else stage.lastTick handle := by
  cases stage with
  | register =>
    have hid : handle.deviceId.any (fun deviceid => deviceid ≠ "") = false := h
    dsimp only [call, lastTick, timeout]
    unfold appWsRegister
    rw [hid]
    cases hpaced : paced tick handle.lastRegTick registerTimeoutMs with
    | true => exact ⟨rfl, h, rfl⟩
    | false => exact ⟨rfl, h, rfl⟩
  | login =>
    have hlogged : handle.isLogged = false := h
    dsimp only [call, lastTick, timeout]
    unfold appWsLogin
    rw [hlogged]
    cases hpaced : paced tick handle.lastLoginTick loginTimeoutMs with
    | true => exact ⟨rfl, rfl, rfl⟩
    | false => exact ⟨rfl, h, rfl⟩

/-! ## The sum of 32 bits -/

/-- Below `2^31` the sum is right. -/
theorem wrap32_add_of_lt {r t : Int} (hr : 0 ≤ r) (ht : 0 ≤ t) (h : r + t < 2 ^ 31) :
    wrap32 (wrap32 r + t) = r + t := by
  unfold wrap32
  omega

/-- From there on it is in the past of the request. -/
theorem wrap32_add_le {r t : Int} (ht : t ≤ 2 ^ 31) (h : 2 ^ 31 ≤ r + t) :
    wrap32 (wrap32 r + t) ≤ r := by
  unfold wrap32
  omega

theorem paced_iff {tick last timeout : Int} :
    paced tick last timeout = true ↔ wrap32 (last + timeout) ≤ tick := by
  simp [paced]

/-! ## The two limiters in lockstep -/

/-- The handle holds the low 32 bits of the last request. -/
structure Records (stage : Stage) (s : Session) (l : Limiter) : Prop where
  waiting : stage.Waiting s.handle
  limiter : s.limiter = l
  past : l.Past
  last : stage.lastTick s.handle = l.request.elim (-stage.timeout) wrap32

variable {stage : Stage} {s : Session} {l : Limiter}

theorem Records.tick_nonneg (h : Records stage s l) (c : Pacer.Call) : 0 ≤ c.tick l :=
  Int.add_nonneg h.past.now (Int.natCast_nonneg _)

/-- The first call sends. -/
theorem Records.sends_first (h : Records stage s l) (hnone : l.request = none) (c : Pacer.Call) :
    stage.sends c s = true := by
  have htick := h.tick_nonneg c
  unfold sends
  rw [(call_spec h.waiting _ _).1, h.last, h.limiter, hnone, paced_iff, timeout_eq]
  exact htick

/-- A later call compares with the 32-bit sum. -/
theorem Records.sends_again (h : Records stage s l) {r : Int} (hr : l.request = some r)
    (c : Pacer.Call) :
    stage.sends c s = true ↔ wrap32 (wrap32 r + stage.timeout) ≤ c.tick l := by
  unfold sends
  rw [(call_spec h.waiting _ _).1, h.last, h.limiter, hr, paced_iff, Option.elim_some]

theorem paced_iff_notLate (h : Records stage s l) (c : Pacer.Call) :
    stage.Paced c s ↔ stage.NotLate c l := by
  unfold Paced NotLate
  rw [h.limiter]
  refine forall₂_congr fun r hr => ?_
  rw [h.sends_again hr]
  obtain ⟨hpos, hpast⟩ := h.past.request r hr
  have htick : l.now ≤ c.tick l := Int.le_add_of_nonneg_right (Int.natCast_nonneg _)
  have ht := stage.timeout_eq
  by_cases hlate : 2 ^ 31 ≤ r + stage.timeout
  · have hsum := wrap32_add_le (t := stage.timeout) (by omega) hlate
    constructor
    · intro h _
      exact h.mp (by omega)
    · intro h
      exact ⟨fun _ => h hlate, fun _ => by omega⟩
  · rw [wrap32_add_of_lt hpos (by omega) (by omega)]
    exact ⟨fun _ h => absurd h hlate, fun _ => Iff.rfl⟩

/-- As long as the calls are paced, the code is the limiter. -/
theorem Records.step (h : Records stage s l) {c : Pacer.Call} (hpaced : stage.Paced c s) :
    Records stage (stage.step c s) (Pacer.step stage.timeout c l) := by
  have hsends : stage.sends c s = l.due stage.timeout c := by
    unfold Limiter.due
    cases hr : l.request with
    | none => exact h.sends_first hr c
    | some r =>
      rw [Bool.eq_iff_iff, hpaced r (h.limiter ▸ hr), h.limiter]
      simp
  obtain ⟨-, hwaiting, hlast⟩ := call_spec h.waiting (c.tick s.limiter) (c.record s.limiter)
  refine ⟨hwaiting, ?_, h.past.called c _, ?_⟩
  · change s.limiter.called c (stage.sends c s) = l.called c (l.due stage.timeout c)
    rw [hsends, h.limiter]
  · refine hlast.trans ?_
    change (if stage.sends c s = true then _ else _) = _
    rw [hsends, Pacer.step, Limiter.called, h.limiter]
    cases l.due stage.timeout c with
    | true => rfl
    | false => exact h.last

end Stage

/-- A session that has just been connected for the first time. -/
def freshSession (callback : Bool) (hardwareId : String) (initActiveTime : ActiveTime)
    (mallocLogged : Bool) (txOutcomes : Stream' Bool) : Stage.Session where
  handle := (appWebsocketInit callback hardwareId initActiveTime mallocLogged
    txOutcomes).connected
  limiter := ⟨0, none⟩

/-- **Register and login requests are paced**, over every sequence of calls and readings of the
clock, exactly if no call comes too early after a request whose timeout ends at `2^31` ms or
later. -/
theorem requests_paced_iff (stage : Stage) (callback : Bool) (hardwareId : String)
    (initActiveTime : ActiveTime) (mallocLogged : Bool) (txOutcomes : Stream' Bool)
    (calls : List Pacer.Call) :
    Along stage.step stage.Paced
        (freshSession callback hardwareId initActiveTime mallocLogged txOutcomes) calls ↔
      Along (Pacer.step stage.timeout) stage.NotLate ⟨0, none⟩ calls := by
  have hstart : stage.Records
      (freshSession callback hardwareId initActiveTime mallocLogged txOutcomes) ⟨0, none⟩ := by
    cases stage with
    | register => exact ⟨rfl, rfl, ⟨Int.le_refl 0, by simp⟩, rfl⟩
    | login => exact ⟨rfl, rfl, ⟨Int.le_refl 0, by simp⟩, rfl⟩
  have hnext : ∀ c s l, stage.Records s l → stage.Paced c s →
      stage.Records (stage.step c s) (Pacer.step stage.timeout c l) :=
    fun _ _ _ h hpaced => h.step hpaced
  have hiff : ∀ c s l, stage.Records s l → (stage.Paced c s ↔ stage.NotLate c l) :=
    fun c _ _ h => Stage.paced_iff_notLate h c
  exact along_lockstep hiff hnext hstart

/-- A login request at `2^31` ms, and another one a millisecond later. -/
theorem requests_not_paced :
    ¬Along Stage.login.step Stage.login.Paced
      (freshSession true "" ⟨8, 0, 17, 0⟩ false (Stream'.const true)) [⟨2 ^ 31, 0⟩, ⟨1, 0⟩] := by
  intro h
  obtain ⟨-, hpaced, -⟩ := h
  have hiff := hpaced (2 ^ 31) rfl
  exact absurd (hiff.mp (by decide)) (by decide)

end Lighting
