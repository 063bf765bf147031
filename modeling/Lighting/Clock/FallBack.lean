import Lighting.Lib.Runs
import Lighting.Model.Schedule

/-!
# When clock synchronisation falls back to the RTC

A call of `_sync_time` that is not forced looks at the system time and at the RTC before it
looks at the network, so a valid RTC is enough for it. A forced call skips both and can only be
answered by SNTP; the force has to go first. It goes when SNTP answers, when the receiver sets
the clock, and after seven calls in a row without a network. It does not go when there is a
network and SNTP stays silent: that path resets the count of the seven and keeps the force.

So the bound of eight calls holds exactly if the force goes in one of these ways in time
(`falls_back_iff`), and a time server that never answers holds the schedule off for good.
-/

set_option autoImplicit false

namespace Lighting

open Runs

/-- SNTP completes within its wait. -/
def SyncEnv.Answers (env : SyncEnv) : Prop := env.connected = true ∧ env.resets ≤ 60

/-- The RTC can be read and holds a year after 2021. -/
def SyncEnv.RtcValid (env : SyncEnv) : Prop :=
  ∃ rtcinfo, env.rtc = some rtcinfo ∧ rtcinfo.tmYear > year2021

/-- What the call of `_sync_time` finds, if the operation is one. -/
def ScheduleOp.call? : ScheduleOp → Option SyncEnv
  | .iterate t => some t.sync
  | _ => none

/-- What the calls of `_sync_time` find, in order. -/
def syncCalls (w : List ScheduleOp) : List SyncEnv := w.filterMap ScheduleOp.call?

/-- The call of `_sync_time`, if there is one, returns `ESP_FAIL`. -/
def SyncFails (op : ScheduleOp) (handle : Schedule) : Prop :=
  ∀ env, op.call? = some env → (syncTime env handle).1 = .fail

/-- The receiver sets the clock, and there is a call after that. -/
def GpsSetsBeforeCall (w : List ScheduleOp) : Prop :=
  ∃ u v, w = u ++ .gpsSetTime .ok :: v ∧ syncCalls v ≠ []

/-! ## One call -/

section call

variable {handle : Schedule} {env : SyncEnv}

/-- The wait for SNTP ends by the 61st silent reading. -/
theorem sntpWait_of_le {resets : Nat} (h : handle.nSyncTime + resets ≤ 60) :
    (sntpWait resets handle).1 = .ok ∧ (sntpWait resets handle).2.isForceSync = false := by
  induction resets generalizing handle with
  | zero => exact ⟨rfl, rfl⟩
  | succ resets ih =>
    push_cast at h
    unfold sntpWait
    rw [if_neg (by omega)]
    apply ih
    change handle.nSyncTime + 1 + resets ≤ 60
    omega

theorem sntpWait_of_lt {resets : Nat} (hn : handle.nSyncTime ≤ 60)
    (h : 60 < handle.nSyncTime + resets) :
    sntpWait resets handle = (.fail, { handle with nSyncTime := 0 }) := by
  induction resets generalizing handle with
  | zero =>
    push_cast at h
    omega
  | succ resets ih =>
    push_cast at h
    unfold sntpWait
    by_cases hlast : handle.nSyncTime + 1 > 60
    · rw [if_pos hlast]
    · rw [if_neg hlast]
      apply ih
      · change handle.nSyncTime + 1 ≤ 60
        omega
      · change 60 < handle.nSyncTime + 1 + resets
        omega

/-- A call that is not forced is content with a valid RTC. -/
theorem syncTime_of_not_force (hforce : handle.isForceSync = false) (hrtc : env.RtcValid) :
    (syncTime env handle).1 = .ok := by
  obtain ⟨rtcinfo, hread, hyear⟩ := hrtc
  unfold syncTime
  rw [hforce, hread]
  cases handle.isSync with
  | true => rfl
  | false =>
    by_cases hsys : env.sysTime.tmYear > year2021
    · simp [hsys]
    · simp [hsys, hyear]

/-- A forced call without a network: the seventh in a row drops the force. -/
theorem syncTime_disconnected (hforce : handle.isForceSync = true)
    (hconn : env.connected = false) :
    syncTime env handle = (.fail,
      if handle.nSyncTime + 1 > 6 then { handle with nSyncTime := 0, isForceSync := false }
      else { handle with nSyncTime := handle.nSyncTime + 1 }) := by
  unfold syncTime syncOverNetwork
  rw [hforce, hconn]
  simp only [Bool.not_true, Bool.and_false, Bool.false_eq_true, if_false, Bool.not_false, if_true]
  split
  · rfl
  · rfl

/-- A forced call that SNTP answers. -/
theorem syncTime_answered (hforce : handle.isForceSync = true) (hsync : handle.isSync = false)
    (hans : env.Answers) :
    (syncTime env handle).1 = .ok ∧ (syncTime env handle).2.isForceSync = false := by
  obtain ⟨hconn, hresets⟩ := hans
  unfold syncTime syncOverNetwork
  rw [hforce, hconn]
  simp only [Bool.not_true, Bool.and_false, Bool.false_eq_true, if_false, hsync]
  apply sntpWait_of_le
  change (0 : Int) + env.resets ≤ 60
  omega

/-- A forced call over a network on which SNTP stays silent keeps the force. -/
theorem syncTime_silent (hforce : handle.isForceSync = true) (hsync : handle.isSync = false)
    (hconn : env.connected = true) (hsilent : ¬env.Answers) :
    syncTime env handle = (.fail, { handle with isInitSntp := true, nSyncTime := 0 }) := by
  have hlong : 60 < env.resets := by
    by_contra hle
    exact hsilent ⟨hconn, by omega⟩
  unfold syncTime syncOverNetwork
  rw [hforce, hconn]
  simp only [Bool.not_true, Bool.and_false, Bool.false_eq_true, if_false, hsync]
  apply sntpWait_of_lt
  · change (0 : Int) ≤ 60
    decide
  · change 60 < (0 : Int) + env.resets
    omega

/-- Only a request forces. -/
theorem sntpWait_not_force (hforce : handle.isForceSync = false) (resets : Nat) :
    (sntpWait resets handle).2.isForceSync = false := by
  induction resets generalizing handle with
  | zero => rfl
  | succ resets ih =>
    unfold sntpWait
    split
    · exact hforce
    · exact ih hforce

theorem syncTime_not_force (hforce : handle.isForceSync = false) (env : SyncEnv) :
    (syncTime env handle).2.isForceSync = false := by
  have hnet : (syncOverNetwork env handle).2.isForceSync = false := by
    unfold syncOverNetwork
    dsimp only
    split_ifs
    · rfl
    · exact hforce
    · exact hforce
    · exact @sntpWait_not_force { handle with isInitSntp := true, nSyncTime := 0 } hforce _
  unfold syncTime
  split_ifs
  · exact hforce
  · exact hforce
  · cases env.rtc with
    | none => exact hforce
    | some rtcinfo =>
      dsimp only
      split_ifs
      · exact hforce
      · exact hnet
  · exact hnet

end call

/-! ## The operations -/

/-- A forced synchronisation is pending, with its count of calls without a network. -/
structure Forcing (handle : Schedule) : Prop where
  force : handle.isForceSync = true
  sync : handle.isSync = false
  count : 0 ≤ handle.nSyncTime ∧ handle.nSyncTime ≤ 6

theorem count_zero : (0 : Int) ≤ 0 ∧ (0 : Int) ≤ 6 := by decide

/-- A silent network resets the count. -/
theorem Forcing.silent {handle : Schedule} (h : Forcing handle) :
    Forcing { handle with isInitSntp := true, nSyncTime := 0 } :=
  ⟨h.force, h.sync, count_zero⟩

/-- A missing one counts. -/
theorem Forcing.down {handle : Schedule} (h : Forcing handle) (hmore : ¬handle.nSyncTime + 1 > 6) :
    Forcing { handle with nSyncTime := handle.nSyncTime + 1 } := by
  have hcount := h.count
  exact ⟨h.force, h.sync, by constructor <;> dsimp only <;> omega⟩

/-- What every reachable handle satisfies. -/
def ForceInv (handle : Schedule) : Prop := handle.isForceSync = true → Forcing handle

section op

variable {handle : Schedule} {op : ScheduleOp} {env : SyncEnv}

/-- An iteration whose call fails does nothing else. -/
theorem step_of_fail {after : Schedule} (hop : op.call? = some env)
    (hcall : syncTime env handle = (.fail, after)) : handle.step op = after := by
  cases op with
  | iterate t =>
    obtain rfl := Option.some.inj hop
    change (scheduleDecide t handle).1 = after
    unfold scheduleDecide
    rw [hcall]
  | _ => cases hop

/-- An operation that is neither a call nor a request drops the force or leaves it alone. -/
theorem step_other (handle : Schedule) (hop : op.call? = none) (hreq : op ≠ .syncTime) :
    op = .gpsSetTime .ok ∧ (handle.step op).isForceSync = false ∨
      op ≠ .gpsSetTime .ok ∧ (handle.step op).isForceSync = handle.isForceSync ∧
        (handle.step op).nSyncTime = handle.nSyncTime ∧
          (handle.isSync = false → (handle.step op).isSync = false) := by
  cases op with
  | addAlarm hour minute type =>
    cases type with
    | none => exact Or.inr ⟨ScheduleOp.noConfusion, rfl, rfl, id⟩
    | activeStart => exact Or.inr ⟨ScheduleOp.noConfusion, rfl, rfl, id⟩
    | activeEnd => exact Or.inr ⟨ScheduleOp.noConfusion, rfl, rfl, id⟩
  | setMode mode => exact Or.inr ⟨ScheduleOp.noConfusion, rfl, rfl, id⟩
  | setTime rtcSet =>
    refine Or.inr ⟨ScheduleOp.noConfusion, ?_⟩
    by_cases hok : rtcSet = .ok
    · rw [hok]
      exact ⟨rfl, rfl, fun _ => rfl⟩
    · have hsame : handle.step (.setTime rtcSet) = handle := by
        simp [Schedule.step, appScheduleSetTime, hok]
      rw [hsame]
      exact ⟨rfl, rfl, id⟩
  | gpsSetTime rtcSet =>
    by_cases hok : rtcSet = .ok
    · rw [hok]
      exact Or.inl ⟨rfl, rfl⟩
    · have hsame : handle.step (.gpsSetTime rtcSet) = handle := by
        simp [Schedule.step, appGpsSetTime, hok]
      rw [hsame]
      exact Or.inr ⟨fun h => hok (ScheduleOp.gpsSetTime.inj h), rfl, rfl, id⟩
  | syncTime => exact absurd rfl hreq
  | iterate t => cases hop

/-- **A forced call**: answered, over a silent network, or without one. -/
theorem syncTime_forcing (h : Forcing handle) (env : SyncEnv) :
    env.Answers ∧ (syncTime env handle).1 = .ok ∧ (syncTime env handle).2.isForceSync = false ∨
      ¬env.Answers ∧ env.connected = true ∧
        syncTime env handle = (.fail, { handle with isInitSntp := true, nSyncTime := 0 }) ∨
      env.connected = false ∧ syncTime env handle = (.fail,
        if handle.nSyncTime + 1 > 6 then { handle with nSyncTime := 0, isForceSync := false }
        else { handle with nSyncTime := handle.nSyncTime + 1 }) := by
  cases hconn : env.connected with
  | false => exact Or.inr (Or.inr ⟨rfl, syncTime_disconnected h.force hconn⟩)
  | true =>
    by_cases hans : env.Answers
    · exact Or.inl ⟨hans, syncTime_answered h.force h.sync hans⟩
    · exact Or.inr (Or.inl ⟨hans, rfl, syncTime_silent h.force h.sync hconn hans⟩)

/-- An iteration keeps what its call left, or asks for another synchronisation. -/
theorem scheduleDecide_sync (t : Tick) (handle : Schedule) :
    (scheduleDecide t handle).1 = (syncTime t.sync handle).2 ∨
      (scheduleDecide t handle).1 = { (syncTime t.sync handle).2 with isSync := false } := by
  unfold scheduleDecide
  generalize syncTime t.sync handle = r
  obtain ⟨err, after⟩ := r
  cases err with
  | ok =>
    dsimp only
    split_ifs
    · exact Or.inr rfl
    · exact Or.inl rfl
    · exact Or.inl rfl
    · exact Or.inl rfl
    · exact Or.inl rfl
  | _ => exact Or.inl rfl

theorem ForceInv.of_not_force (hforce : handle.isForceSync = false) : ForceInv handle := by
  intro h
  rw [hforce] at h
  cases h

/-- Asking for another synchronisation does no harm. -/
theorem ForceInv.unsync (h : ForceInv handle) : ForceInv { handle with isSync := false } :=
  fun hforce => ⟨hforce, rfl, (h hforce).count⟩

theorem syncTime_inv (h : ForceInv handle) (env : SyncEnv) : ForceInv (syncTime env handle).2 := by
  cases hforce : handle.isForceSync with
  | false => exact .of_not_force (syncTime_not_force hforce env)
  | true =>
    rcases syncTime_forcing (h hforce) env with ⟨-, -, hdrop⟩ | ⟨-, -, hcall⟩ | ⟨-, hcall⟩
    · exact .of_not_force hdrop
    · rw [hcall]
      exact fun _ => (h hforce).silent
    · rw [hcall]
      by_cases hlast : handle.nSyncTime + 1 > 6
      · rw [if_pos hlast]
        exact .of_not_force rfl
      · rw [if_neg hlast]
        exact fun _ => (h hforce).down hlast

theorem step_inv (op : ScheduleOp) (h : ForceInv handle) : ForceInv (handle.step op) := by
  cases hop : op.call? with
  | some env =>
    cases op with
    | iterate t =>
      change ForceInv (scheduleDecide t handle).1
      rcases scheduleDecide_sync t handle with heq | heq
      · rw [heq]
        exact syncTime_inv h t.sync
      · rw [heq]
        exact (syncTime_inv h t.sync).unsync
    | _ => cases hop
  | none =>
    by_cases hreq : op = .syncTime
    · rw [hreq]
      exact fun _ => ⟨rfl, rfl, count_zero⟩
    · rcases step_other handle hop hreq with ⟨-, hdrop⟩ | ⟨-, hforce, hcount, hsync⟩
      · exact .of_not_force hdrop
      · intro hstep
        have hf := h (hforce.symm.trans hstep)
        exact ⟨hstep, hsync hf.sync, hcount ▸ hf.count⟩

theorem reachable_inv (callback : Bool) (mem : ScheduleMemory) (ops : List ScheduleOp) :
    ForceInv (after Schedule.step (appScheduleInit callback mem) ops) :=
  after_invariant (fun op _ => step_inv op) fun _ => ⟨rfl, rfl, count_zero⟩

end op

/-! ## A stretch of calls -/

section stretch

variable {handle : Schedule} {op : ScheduleOp} {env : SyncEnv} {w : List ScheduleOp}

theorem syncCalls_cons_none (hop : op.call? = none) : syncCalls (op :: w) = syncCalls w :=
  List.filterMap_cons_none hop

theorem syncCalls_cons_some (hop : op.call? = some env) :
    syncCalls (op :: w) = env :: syncCalls w :=
  List.filterMap_cons_some hop

/-- An operation that is no call has nothing to fail. -/
theorem along_of_other (hop : op.call? = none)
    (hrest : Along Schedule.step SyncFails (handle.step op) w) :
    Along Schedule.step SyncFails handle (op :: w) := by
  refine ⟨fun env hcall => ?_, hrest⟩
  rw [hop] at hcall
  cases hcall

/-- A call that fails, and what comes after it. -/
theorem along_of_fail {next : Schedule} (hop : op.call? = some env)
    (hcall : syncTime env handle = (.fail, next))
    (hrest : Along Schedule.step SyncFails next w) :
    Along Schedule.step SyncFails handle (op :: w) := by
  refine ⟨fun e he => ?_, ?_⟩
  · rw [← Option.some.inj (hop.symm.trans he), hcall]
  · rw [step_of_fail hop hcall]
    exact hrest

/-- Without a call nothing fails. -/
theorem along_of_no_call (hcalls : syncCalls w = []) : Along Schedule.step SyncFails handle w := by
  induction w generalizing handle with
  | nil => trivial
  | cons op w ih =>
    cases hop : op.call? with
    | none =>
      rw [syncCalls_cons_none hop] at hcalls
      exact along_of_other hop (ih hcalls)
    | some env =>
      rw [syncCalls_cons_some hop] at hcalls
      cases hcalls

theorem mem_syncCalls_cons (op : ScheduleOp) (h : env ∈ syncCalls w) :
    env ∈ syncCalls (op :: w) := by
  obtain ⟨o, ho, hcall⟩ := List.mem_filterMap.mp h
  exact List.mem_filterMap.mpr ⟨o, List.mem_cons_of_mem op ho, hcall⟩

/-- No request starts a synchronisation, and the RTC is valid at every call. -/
structure Steady (w : List ScheduleOp) : Prop where
  request : ScheduleOp.syncTime ∉ w
  rtc : ∀ env ∈ syncCalls w, env.RtcValid

theorem Steady.tail (h : Steady (op :: w)) : Steady w where
  request := fun hmem => h.request (List.mem_cons_of_mem _ hmem)
  rtc := fun env hmem => h.rtc env (mem_syncCalls_cons op hmem)

theorem Steady.head (h : Steady (op :: w)) (hop : op.call? = some env) : env.RtcValid := by
  apply h.rtc
  rw [syncCalls_cons_some hop]
  exact List.mem_cons_self

theorem Steady.ne_request (h : Steady (op :: w)) : op ≠ .syncTime :=
  fun heq => h.request (heq ▸ List.mem_cons_self)

/-- Once the force is gone the next call succeeds. -/
theorem not_along_of_not_force (hforce : handle.isForceSync = false) (hw : Steady w)
    (hcalls : 0 < (syncCalls w).length) : ¬Along Schedule.step SyncFails handle w := by
  induction w generalizing handle with
  | nil => exact absurd hcalls (Nat.lt_irrefl 0)
  | cons op w ih =>
    intro halong
    obtain ⟨hfail, hrest⟩ := halong
    cases hop : op.call? with
    | none =>
      rw [syncCalls_cons_none hop] at hcalls
      refine ih ?_ hw.tail hcalls hrest
      rcases step_other handle hop hw.ne_request with ⟨-, hdrop⟩ | ⟨-, hsame, -⟩
      · exact hdrop
      · rw [hsame]
        exact hforce
    | some env =>
      have hok := syncTime_of_not_force hforce (hw.head hop)
      rw [hfail env hop] at hok
      cases hok

/-- Operations that give a forced synchronisation no help: no request starts it again, SNTP
answers no call, and the receiver sets the clock before none. -/
structure Unhelped (w : List ScheduleOp) : Prop where
  request : ScheduleOp.syncTime ∉ w
  answers : ∀ env ∈ syncCalls w, ¬env.Answers
  gps : ¬GpsSetsBeforeCall w

theorem Unhelped.tail (h : Unhelped (op :: w)) : Unhelped w where
  request := fun hmem => h.request (List.mem_cons_of_mem _ hmem)
  answers := fun env hmem => h.answers env (mem_syncCalls_cons op hmem)
  gps := by
    rintro ⟨u, v, hw, hv⟩
    exact h.gps ⟨op :: u, v, by rw [hw, List.cons_append], hv⟩

theorem Unhelped.not_answers (h : Unhelped (op :: w)) (hop : op.call? = some env) :
    ¬env.Answers := by
  apply h.answers
  rw [syncCalls_cons_some hop]
  exact List.mem_cons_self

theorem Forcing.of_same {a b : Schedule} (h : Forcing a) (hforce : b.isForceSync = a.isForceSync)
    (hcount : b.nSyncTime = a.nSyncTime) (hsync : a.isSync = false → b.isSync = false) :
    Forcing b :=
  ⟨hforce.trans h.force, hsync h.sync, hcount ▸ h.count⟩

/-- Without help an operation that is no call leaves the force, or comes after the last call. -/
theorem Forcing.other (h : Forcing handle) (hw : Unhelped (op :: w)) (hop : op.call? = none) :
    syncCalls w = [] ∨
      Forcing (handle.step op) ∧ (handle.step op).nSyncTime = handle.nSyncTime := by
  have hreq : op ≠ .syncTime := fun heq => hw.request (heq ▸ List.mem_cons_self)
  rcases step_other handle hop hreq with ⟨hset, -⟩ | ⟨-, hforce, hn, hsync⟩
  · left
    by_contra hcalls
    exact hw.gps ⟨[], w, by rw [hset, List.nil_append], hcalls⟩
  · exact Or.inr ⟨h.of_same hforce hn hsync, hn⟩

/-- A count too low for the seven calls it would take: every call fails. -/
theorem along_of_count (h : Forcing handle) (hw : Unhelped w)
    (hcount : handle.nSyncTime + (syncCalls w).length ≤ 7) :
    Along Schedule.step SyncFails handle w := by
  induction w generalizing handle with
  | nil => trivial
  | cons op w ih =>
    cases hop : op.call? with
    | none =>
      rw [syncCalls_cons_none hop] at hcount
      apply along_of_other hop
      rcases h.other hw hop with hcalls | ⟨hforce, hn⟩
      · exact along_of_no_call hcalls
      · exact ih hforce hw.tail (by rw [hn]; exact hcount)
    | some env =>
      rw [syncCalls_cons_some hop, List.length_cons] at hcount
      push_cast at hcount
      have hlow := h.count
      rcases syncTime_forcing h env with ⟨hyes, -⟩ | ⟨-, -, hcall⟩ | ⟨-, hcall⟩
      · exact absurd hyes (hw.not_answers hop)
      · apply along_of_fail hop hcall
        apply ih h.silent hw.tail
        change (0 : Int) + (syncCalls w).length ≤ 7
        omega
      · apply along_of_fail hop hcall
        by_cases hdrop : handle.nSyncTime + 1 > 6
        · -- The force goes with the last call of the stretch.
          apply along_of_no_call
          apply List.eq_nil_of_length_eq_zero
          omega
        · rw [if_neg hdrop]
          apply ih (h.down hdrop) hw.tail
          change handle.nSyncTime + 1 + (syncCalls w).length ≤ 7
          omega

/-- A silent network among the calls that would have dropped the force: every call fails, as
long as there are not seven more. -/
theorem along_of_silent (h : Forcing handle) (hw : Unhelped w)
    (hlen : (syncCalls w).length ≤ 8)
    (hconn : ∃ env ∈ (syncCalls w).take (7 - handle.nSyncTime).toNat, env.connected = true) :
    Along Schedule.step SyncFails handle w := by
  induction w generalizing handle with
  | nil => trivial
  | cons op w ih =>
    cases hop : op.call? with
    | none =>
      rw [syncCalls_cons_none hop] at hlen hconn
      apply along_of_other hop
      rcases h.other hw hop with hcalls | ⟨hforce, hn⟩
      · exact along_of_no_call hcalls
      · exact ih hforce hw.tail hlen (by rw [hn]; exact hconn)
    | some env =>
      rw [syncCalls_cons_some hop] at hlen hconn
      rw [List.length_cons] at hlen
      obtain ⟨hlow, hhigh⟩ := h.count
      rcases syncTime_forcing h env with ⟨hyes, -⟩ | ⟨-, -, hcall⟩ | ⟨hdown, hcall⟩
      · exact absurd hyes (hw.not_answers hop)
      · apply along_of_fail hop hcall
        apply along_of_count h.silent hw.tail
        change (0 : Int) + (syncCalls w).length ≤ 7
        omega
      · apply along_of_fail hop hcall
        -- The network that is up comes later, so this is not the seventh call yet.
        obtain ⟨k, hk⟩ : ∃ k, (7 - handle.nSyncTime).toNat = k + 1 :=
          ⟨(6 - handle.nSyncTime).toNat, by omega⟩
        rw [hk, List.take_succ_cons] at hconn
        obtain ⟨up, hmem, hup⟩ := hconn
        have hlater : up ∈ (syncCalls w).take k := by
          rcases List.mem_cons.mp hmem with rfl | hmem
          · rw [hdown] at hup
            cases hup
          · exact hmem
        have hpos : 0 < k := by
          rcases Nat.eq_zero_or_pos k with rfl | hpos
          · cases hlater
          · exact hpos
        have hmore : ¬handle.nSyncTime + 1 > 6 := by omega
        rw [if_neg hmore]
        refine ih (h.down hmore) hw.tail (by omega) ⟨up, ?_, hup⟩
        change up ∈ (syncCalls w).take (7 - (handle.nSyncTime + 1)).toNat
        have hcount : (7 - (handle.nSyncTime + 1)).toNat = k := by omega
        rw [hcount]
        exact hlater

/-- The calls that drop the force, and one more. -/
theorem not_along_of_down (h : Forcing handle) (hw : Steady w)
    (hlen : 7 - handle.nSyncTime < (syncCalls w).length)
    (hdown : ∀ env ∈ (syncCalls w).take (7 - handle.nSyncTime).toNat, env.connected = false) :
    ¬Along Schedule.step SyncFails handle w := by
  induction w generalizing handle with
  | nil =>
    have hhigh := h.count.2
    change 7 - handle.nSyncTime < 0 at hlen
    omega
  | cons op w ih =>
    intro halong
    obtain ⟨hfail, hrest⟩ := halong
    obtain ⟨hlow, hhigh⟩ := h.count
    cases hop : op.call? with
    | none =>
      rw [syncCalls_cons_none hop] at hlen hdown
      rcases step_other handle hop hw.ne_request with ⟨-, hdrop⟩ | ⟨-, hforce, hn, hsync⟩
      · exact not_along_of_not_force hdrop hw.tail (by omega) hrest
      · refine ih (h.of_same hforce hn hsync) hw.tail ?_ ?_ hrest
        · rw [hn]
          exact hlen
        · rw [hn]
          exact hdown
    | some env =>
      rw [syncCalls_cons_some hop] at hlen hdown
      rw [List.length_cons] at hlen
      push_cast at hlen
      obtain ⟨k, hk⟩ : ∃ k, (7 - handle.nSyncTime).toNat = k + 1 :=
        ⟨(6 - handle.nSyncTime).toNat, by omega⟩
      rw [hk, List.take_succ_cons] at hdown
      rw [step_of_fail hop (syncTime_disconnected h.force (hdown env List.mem_cons_self))] at hrest
      by_cases hlast : handle.nSyncTime + 1 > 6
      · rw [if_pos hlast] at hrest
        exact not_along_of_not_force rfl hw.tail (by omega) hrest
      · rw [if_neg hlast] at hrest
        refine ih (h.down hlast) hw.tail ?_ (fun e he => ?_) hrest
        · change 7 - (handle.nSyncTime + 1) < _
          omega
        · change e ∈ (syncCalls w).take (7 - (handle.nSyncTime + 1)).toNat at he
          have hcount : (7 - (handle.nSyncTime + 1)).toNat = k := by omega
          rw [hcount] at he
          exact hdown e (List.mem_cons_of_mem _ he)

/-- A call that SNTP answers does not fail in any state. -/
theorem not_along_of_answers (h : ForceInv handle) (hw : Steady w)
    (hans : ∃ env ∈ syncCalls w, env.Answers) : ¬Along Schedule.step SyncFails handle w := by
  induction w generalizing handle with
  | nil =>
    obtain ⟨env, hmem, -⟩ := hans
    cases hmem
  | cons op w ih =>
    intro halong
    obtain ⟨hfail, hrest⟩ := halong
    cases hop : op.call? with
    | none =>
      rw [syncCalls_cons_none hop] at hans
      exact ih (step_inv op h) hw.tail hans hrest
    | some env =>
      rw [syncCalls_cons_some hop] at hans
      obtain ⟨e, hmem, hyes⟩ := hans
      rcases List.mem_cons.mp hmem with rfl | hmem
      · have hok : (syncTime e handle).1 = .ok := by
          cases hforce : handle.isForceSync with
          | false => exact syncTime_of_not_force hforce (hw.head hop)
          | true => exact (syncTime_answered hforce (h hforce).sync hyes).1
        rw [hfail e hop] at hok
        cases hok
      · exact ih (step_inv op h) hw.tail ⟨e, hmem, hyes⟩ hrest

/-- The receiver drops the force too. -/
theorem not_along_of_gps (hw : Steady w) (hgps : GpsSetsBeforeCall w) :
    ¬Along Schedule.step SyncFails handle w := by
  induction w generalizing handle with
  | nil =>
    obtain ⟨u, v, hnil, -⟩ := hgps
    exact absurd hnil.symm (by simp)
  | cons op w ih =>
    intro halong
    obtain ⟨u, v, hsplit, hv⟩ := hgps
    cases u with
    | nil =>
      obtain ⟨rfl, rfl⟩ := List.cons.inj hsplit
      exact not_along_of_not_force rfl hw.tail (List.length_pos_iff.mpr hv) halong.2
    | cons o u =>
      obtain ⟨rfl, rfl⟩ := List.cons.inj hsplit
      exact ih hw.tail ⟨u, v, rfl, hv⟩ halong.2

end stretch

/-- **When eight calls in a row are enough.** From any reachable state, over outcomes with a
valid RTC and without a request in between, one of eight calls succeeds exactly if the
synchronisation is not forced, SNTP answers one of the calls, the receiver sets the clock
before one of them, or the calls that are left of the seven find no network. -/
theorem falls_back_iff (callback : Bool) (mem : ScheduleMemory) (ops w : List ScheduleOp)
    (hreq : ScheduleOp.syncTime ∉ w) (hlen : (syncCalls w).length = 8)
    (hrtc : ∀ env ∈ syncCalls w, env.RtcValid) :
    let handle := after Schedule.step (appScheduleInit callback mem) ops
    ¬Along Schedule.step SyncFails handle w ↔
      handle.isForceSync = false ∨ (∃ env ∈ syncCalls w, env.Answers) ∨ GpsSetsBeforeCall w ∨
        ∀ env ∈ (syncCalls w).take (7 - handle.nSyncTime).toNat, env.connected = false := by
  intro handle
  have hinv : ForceInv handle := reachable_inv callback mem ops
  constructor
  · intro hok
    by_contra hnone
    simp only [not_or] at hnone
    obtain ⟨hforce, hans, hgps, hdown⟩ := hnone
    apply hok
    have hf : Forcing handle := hinv (eq_true_of_ne_false hforce)
    have hw : Unhelped w := ⟨hreq, fun env hmem hyes => hans ⟨env, hmem, hyes⟩, hgps⟩
    apply along_of_silent hf hw (Nat.le_of_eq hlen)
    by_contra hup
    apply hdown
    intro env hmem
    exact eq_false_of_ne_true fun hconn => hup ⟨env, hmem, hconn⟩
  · intro hcond
    have hw : Steady w := ⟨hreq, hrtc⟩
    cases hforce : handle.isForceSync with
    | false => exact not_along_of_not_force hforce hw (by omega)
    | true =>
      have hf := hinv hforce
      rcases hcond with hdrop | hans | hgps | hdown
      · rw [hforce] at hdrop
        cases hdrop
      · exact not_along_of_answers hinv hw hans
      · exact not_along_of_gps hw hgps
      · have hlow := hf.count.1
        refine not_along_of_down hf hw ?_ hdown
        rw [hlen]
        push_cast
        omega

/-- What the first day of 2024 looks like after a power cut: the system time is 1970, the RTC
is right. -/
def powerCut (connected : Bool) (resets : Nat) : SyncEnv where
  sysTime := ⟨0, 0, 0, 1, 0, 70⟩
  rtc := some ⟨0, 15, 6, 1, 0, 124⟩
  connected := connected
  resets := resets

def powerCutTick (connected : Bool) (resets : Nat) : ScheduleOp :=
  .iterate { Tick.online 6 15 (by decide) (by decide) with sync := powerCut connected resets }

def blankMemory : ScheduleMemory where
  jobList := fun _ => ⟨.none, 0, 0, 0, 0, false⟩
  startJob := ⟨.none, 0, 0, 0, 0, false⟩
  endJob := ⟨.none, 0, 0, 0, 0, false⟩

theorem syncCalls_replicate (connected : Bool) (resets n : Nat) :
    syncCalls (List.replicate n (powerCutTick connected resets)) =
      List.replicate n (powerCut connected resets) :=
  List.filterMap_replicate_of_some rfl

theorem powerCut_valid (connected : Bool) (resets n : Nat) :
    ∀ env ∈ List.replicate n (powerCut connected resets), env.RtcValid := by
  intro env hmem
  rw [List.eq_of_mem_replicate hmem]
  exact ⟨_, rfl, by decide⟩

/-- After a boot without a network one of eight calls succeeds. -/
theorem falls_back_offline :
    ¬Along Schedule.step SyncFails
      (after Schedule.step (appScheduleInit true blankMemory) [])
      (List.replicate 8 (powerCutTick false 0)) := by
  refine (falls_back_iff true blankMemory [] (List.replicate 8 (powerCutTick false 0)) ?_ ?_
    ?_).mpr (Or.inr (Or.inr (Or.inr ?_)))
  · intro hmem
    cases List.eq_of_mem_replicate hmem
  · rw [syncCalls_replicate, List.length_replicate]
  · rw [syncCalls_replicate]
    exact powerCut_valid false 0 8
  · intro env hmem
    rw [syncCalls_replicate] at hmem
    rw [List.eq_of_mem_replicate (List.mem_of_mem_take hmem)]
    rfl

/-- A time server that stays silent holds the schedule off for any number of calls. -/
theorem silent_server_fails {handle : Schedule} (h : Forcing handle) (n : Nat) :
    Along Schedule.step SyncFails handle (List.replicate n (powerCutTick true 61)) := by
  induction n generalizing handle with
  | zero => trivial
  | succ n ih =>
    have hcall : syncTime (powerCut true 61) handle = (.fail, _) :=
      syncTime_silent h.force h.sync rfl fun hans => absurd hans.2 (by decide)
    have hop : (powerCutTick true 61).call? = some (powerCut true 61) := rfl
    exact along_of_fail hop hcall (ih h.silent)

/-- So after a boot none of eight calls succeeds, over a valid RTC. -/
theorem silent_server_not_falls_back :
    (syncCalls (List.replicate 8 (powerCutTick true 61))).length = 8 ∧
      (∀ env ∈ syncCalls (List.replicate 8 (powerCutTick true 61)), env.RtcValid) ∧
        Along Schedule.step SyncFails (appScheduleInit true blankMemory)
          (List.replicate 8 (powerCutTick true 61)) := by
  rw [syncCalls_replicate]
  exact ⟨List.length_replicate, powerCut_valid true 61 8,
    silent_server_fails ⟨rfl, rfl, count_zero⟩ 8⟩

end Lighting
