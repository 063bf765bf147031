import Lighting.Lib.Permit
import Lighting.Session.Parties

/-!
# A session is logged in by its own login — except by a late one

`is_logged` is cleared by `websocket_event_handler` whenever a connection comes up or goes
down, and set by `_rx_process_task` when it gets to a successful login response in `rx_rb`.
Nothing empties `rx_rb` in between, so the response may be one of an earlier connection; and
`_websocket_task` tests the flag in one call and hands the message over in another.

The flag is a permission the server grants. `step_permit` says which act on the permission a
step of the parties is, and the general facts about permissions do the rest.
-/

set_option autoImplicit false

namespace Lighting

open Runs CString

namespace Session

/-! ## What a step does to the login -/

/-- The successful login response the step acts on. -/
def loginItem? (unpack : Bytes → Option MainMessage) (st : SessionStep) (s : Session) :
    Option Received :=
  match st, s.rxTask with
  | .rx, .processing item =>
    if s.running ∧ (unpack item.payload).any (·.dispatch.loginOk) then some item else none
  | _, _ => none

/-- The update message the step hands to `app_websocket_send`. -/
def sends? (st : SessionStep) (s : Session) : Option UpdateMessage :=
  match st, s.wsTask with
  | .ws .., .send message => if s.running then some message else none
  | _, _ => none

/-- Never logged in while not connected. -/
def LoggedOnline (s : Session) : Prop :=
  s.handle.isLogged = true → s.handle.websocketConnected = true

/-- An update message that leaves on a connection leaves after the connection's own login. -/
def SendsConfirmed (st : SessionStep) (s : Session) : Prop :=
  ∀ message ∈ s.sends? st, s.handle.websocketConnected = true → s.confirmed = true

/-- A login response is acted on while a connection is up. -/
def LoginsOnline (unpack : Bytes → Option MainMessage) (st : SessionStep) (s : Session) : Prop :=
  ∀ item ∈ s.loginItem? unpack st, s.handle.websocketConnected = true

/-- A login response is acted on before the next connection comes up. -/
def LoginsOwn (unpack : Bytes → Option MainMessage) (st : SessionStep) (s : Session) : Prop :=
  ∀ item ∈ s.loginItem? unpack st, item.connection = s.connection

/-- No connection came up between the test of `is_logged` and the send. -/
def SendsTested (st : SessionStep) (s : Session) : Prop :=
  ∀ message ∈ s.sends? st, s.handle.websocketConnected = true → s.testedOn = s.connection

instance (unpack : Bytes → Option MainMessage) (st : SessionStep) (s : Session) :
    Decidable (s.LoginsOwn unpack st) :=
  inferInstanceAs (Decidable (∀ item ∈ s.loginItem? unpack st, item.connection = s.connection))

instance (st : SessionStep) (s : Session) : Decidable (s.SendsTested st) :=
  inferInstanceAs (Decidable (∀ message ∈ s.sends? st,
    s.handle.websocketConnected = true → s.testedOn = s.connection))

instance (st : SessionStep) (s : Session) : Decidable (s.SendsConfirmed st) :=
  inferInstanceAs (Decidable (∀ message ∈ s.sends? st,
    s.handle.websocketConnected = true → s.confirmed = true))

/-! ## The flag is a permission -/

open Permits (Permit)

/-- The session as a permission that a login response grants. -/
def permit (s : Session) : Permit where
  isOpen := s.handle.websocketConnected
  epoch := s.connection
  granted := s.handle.isLogged
  own := s.confirmed
  checked := s.testedOn

/-- What a step amounts to. -/
def act? (unpack : Bytes → Option MainMessage) (st : SessionStep) (s : Session) :
    Option Permits.Act :=
  if s.running then
    match st with
    | .connected => some .opens
    | .disconnected => some .closes
    | .rx => (s.loginItem? unpack .rx).map fun item => .grant item.connection
    | .ws .. =>
      match s.wsTask with
      | .login => some .check
      | .send _ => some .use
      | _ => none
    | _ => none
  else none

section refinement

variable (unpack : Bytes → Option MainMessage) (s : Session)

theorem data_permit (payload : Bytes) (stored : Bool) :
    (s.data payload stored).permit = s.permit := by
  unfold data
  split
  · rfl
  · split <;> rfl

/-- The branches other than the login leave both flags. -/
theorem process_flags (handle : Websocket) {d : Dispatch} (hd : d.loginOk = false) :
    (handle.process d).isLogged = handle.isLogged ∧
      (handle.process d).websocketConnected = handle.websocketConnected := by
  rcases process_other hd handle with h | ⟨deviceid, h⟩ <;> rw [h] <;> exact ⟨rfl, rfl⟩

theorem loginOk_not_faults {d : Dispatch} (hd : d.loginOk = true) : d.faults = false := by
  cases d with
  | loginResponse r =>
    obtain ⟨statuscode⟩ := r
    cases statuscode with
    | none => exact absurd hd (by simp [Dispatch.loginOk])
    | some _ => rfl
  | _ => exact absurd hd (by simp [Dispatch.loginOk])

theorem processBranch_permit (item : Received) (d : Dispatch) :
    (s.processBranch item d).permit =
      if d.loginOk then Permits.act (.grant item.connection) s.permit else s.permit := by
  unfold processBranch
  by_cases hd : d.loginOk = true
  · simp only [loginOk_not_faults hd, hd, if_true, Bool.false_eq_true, if_false]
    rfl
  · have hd' : d.loginOk = false := Bool.eq_false_iff.mpr hd
    by_cases hf : d.faults = true
    · simp [hf, hd', permit]
    · obtain ⟨hlogged, hconnected⟩ := process_flags s.handle hd'
      simp [hf, hd', permit, hlogged, hconnected]

theorem rx_permit (hrun : s.running = true) :
    (s.rx unpack).permit = perform Permits.act (s.act? unpack .rx) s.permit := by
  unfold rx act? loginItem?
  simp only [hrun, if_true, true_and]
  cases s.rxTask with
  | idle => cases s.rxRb <;> rfl
  | processing item =>
    cases hu : unpack item.payload with
    | none => simp [hu, perform, permit]
    | some message =>
      simp only [hu, processBranch_permit, Option.any_some]
      split <;> rfl
  | resendPowerState => rfl
  | resendMode => rfl
  | resendActiveTime => rfl

/-- The calls of `_websocket_task` write neither flag; the login test is the check. -/
theorem ws_permit (networkConnected : Bool) (tick tickAgain : Int) (hrun : s.running = true) :
    (s.ws networkConnected tick tickAgain).permit =
      perform Permits.act (s.act? unpack (.ws networkConnected tick tickAgain)) s.permit := by
  unfold ws act?
  simp only [hrun, if_true]
  cases s.wsTask with
  | prepare =>
    simp only [appWsPrepare]
    split_ifs <;> rfl
  | register =>
    simp only [appWsRegister]
    split_ifs <;> rfl
  | login =>
    by_cases hlogged : s.handle.isLogged = true
    · simp [appWsLogin, hlogged, permit, perform, Permits.act]
    · have hlogged' : s.handle.isLogged = false := Bool.eq_false_iff.mpr hlogged
      simp only [appWsLogin, hlogged', permit, perform, Permits.act]
      split_ifs <;> simp_all
  | receive => rfl
  | send message => rfl

/-- **A session is a permission.** A step does to the flags what its act does. -/
theorem step_permit (st : SessionStep) :
    (step unpack st s).permit = perform Permits.act (s.act? unpack st) s.permit := by
  by_cases hrun : s.running = true
  · rw [step, if_pos hrun]
    cases st with
    | connected => simp only [act?, hrun, if_true]; rfl
    | disconnected => simp only [act?, hrun, if_true]; rfl
    | data payload stored =>
      simp only [act?, hrun, if_true]
      exact data_permit s payload stored
    | rx => exact rx_permit unpack s hrun
    | ws networkConnected tick tickAgain =>
      exact ws_permit unpack s networkConnected tick tickAgain hrun
    | update body =>
      simp [act?, hrun, SessionStep.apply, permit, perform]
  · have hact : s.act? unpack st = none := if_neg hrun
    rw [step, if_neg hrun, hact]
    rfl

/-- Only `_websocket_task` uses the flag, and only by sending. -/
theorem act?_use {st : SessionStep} :
    s.act? unpack st = some .use ↔ ∃ message, s.sends? st = some message := by
  by_cases hrun : s.running = true
  · cases st with
    | ws networkConnected tick tickAgain =>
      simp only [act?, sends?, hrun, if_true]
      cases s.wsTask <;> simp
    | rx => simp [act?, sends?, hrun]
    | _ => simp [act?, sends?, hrun]
  · have hact : s.act? unpack st = none := if_neg hrun
    rw [hact]
    cases st with
    | ws networkConnected tick tickAgain =>
      simp only [sends?]
      cases s.wsTask <;> simp [hrun]
    | _ => simp [sends?]

/-- Only a successful login response is a grant. -/
theorem act?_grant {st : SessionStep} {epoch : Nat} :
    s.act? unpack st = some (.grant epoch) ↔
      ∃ item, s.loginItem? unpack st = some item ∧ item.connection = epoch := by
  by_cases hrun : s.running = true
  · cases st with
    | ws networkConnected tick tickAgain =>
      simp only [act?, hrun, if_true, loginItem?]
      cases s.wsTask <;> simp
    | rx => simp [act?, hrun]
    | _ => simp [act?, loginItem?, hrun]
  · have hact : s.act? unpack st = none := if_neg hrun
    rw [hact]
    cases st with
    | rx =>
      simp only [loginItem?]
      cases s.rxTask <;> simp [hrun]
    | _ => simp [loginItem?]

theorem sendsConfirmed_iff (st : SessionStep) :
    s.SendsConfirmed st ↔ ∀ a ∈ s.act? unpack st, Permits.UsesOwn a s.permit := by
  constructor
  · rintro h a ha rfl
    obtain ⟨message, hm⟩ := (act?_use unpack s).mp ha
    exact h message hm
  · intro h message hm
    exact h .use ((act?_use unpack s).mpr ⟨message, hm⟩) rfl

theorem sendsTested_iff (st : SessionStep) :
    s.SendsTested st ↔ ∀ a ∈ s.act? unpack st, Permits.UsesChecked a s.permit := by
  constructor
  · rintro h a ha rfl
    obtain ⟨message, hm⟩ := (act?_use unpack s).mp ha
    exact h message hm
  · intro h message hm
    exact h .use ((act?_use unpack s).mpr ⟨message, hm⟩) rfl

theorem loginsOnline_iff (st : SessionStep) :
    s.LoginsOnline unpack st ↔ ∀ a ∈ s.act? unpack st, Permits.GrantsOpen a s.permit := by
  constructor
  · rintro h a ha epoch rfl
    obtain ⟨item, hitem, -⟩ := (act?_grant unpack s).mp ha
    exact h item hitem
  · intro h item hitem
    exact h _ ((act?_grant unpack s).mpr ⟨item, hitem, rfl⟩) _ rfl

theorem loginsOwn_iff (st : SessionStep) :
    s.LoginsOwn unpack st ↔ ∀ a ∈ s.act? unpack st, Permits.GrantsOwn a s.permit := by
  constructor
  · rintro h a ha epoch rfl
    obtain ⟨item, hitem, heq⟩ := (act?_grant unpack s).mp ha
    exact heq ▸ h item hitem
  · intro h item hitem
    exact h _ ((act?_grant unpack s).mpr ⟨item, hitem, rfl⟩) _ rfl

end refinement

/-! ## Runs -/

section runs

variable (unpack : Bytes → Option MainMessage) (s : Session) (sts : List SessionStep)

/-- The permission's acts along a run. -/
def acts : List Permits.Act := outputs (step unpack) (act? unpack) s sts

/-- A property of the steps that is one of their acts, along a run. -/
theorem along_iff {P : SessionStep → Session → Prop} {Q : Permits.Act → Permit → Prop}
    (hPQ : ∀ st s, P st s ↔ ∀ a ∈ act? unpack st s, Q a s.permit) :
    Along (step unpack) P s sts ↔ Along Permits.act Q s.permit (acts unpack s sts) := by
  have hsame : P = fun st s => ∀ a ∈ act? unpack st s, Q a s.permit := by
    funext st s
    exact propext (hPQ st s)
  rw [hsame]
  exact along_simulates (fun st s => step_permit unpack s st) Q s sts

theorem always_iff :
    Always (step unpack) LoggedOnline s sts ↔
      Always Permits.act Permits.Sound s.permit (acts unpack s sts) :=
  always_simulates (fun st s => step_permit unpack s st) Permits.Sound s sts

end runs

/-- **A session is logged in by its own login when no response is late.**

The flag is up only while a connection is, exactly if it was down when the handle was allocated
and every successful login response is acted on while a connection is up.

Every update message that leaves on a connection leaves after the connection's own login, if
every successful login response is acted on before the next connection comes up, and none comes
up between the test of the flag and the send. -/
theorem logged_by_own_login (unpack : Bytes → Option MainMessage) (callback : Bool)
    (hardwareId : String) (initActiveTime : ActiveTime) (mallocLogged : Bool)
    (txOutcomes : Stream' Bool) (sts : List SessionStep) :
    let s := boot callback hardwareId initActiveTime mallocLogged txOutcomes
    (Always (step unpack) LoggedOnline s sts ↔
      mallocLogged = false ∧
        Along (step unpack) (fun st s => s.LoginsOnline unpack st) s sts) ∧
    (Along (step unpack) (fun st s => s.LoginsOwn unpack st) s sts →
      Along (step unpack) (fun st s => s.SendsTested st) s sts →
      Along (step unpack) (fun st s => s.SendsConfirmed st) s sts) := by
  intro s
  refine ⟨?_, fun hown htested => ?_⟩
  · rw [always_iff, along_iff unpack s sts (fun st s => loginsOnline_iff unpack s st)]
    by_cases hmalloc : mallocLogged = true
    · -- The flag is up before anything has happened.
      subst hmalloc
      constructor
      · intro h
        exact absurd (h [] List.nil_prefix rfl) Bool.false_ne_true
      · rintro ⟨h, -⟩
        exact absurd h (by decide)
    · have hmalloc' : mallocLogged = false := Bool.eq_false_iff.mpr hmalloc
      have hsound : Permits.Sound s.permit := fun h => absurd h hmalloc
      rw [Permits.always_sound_iff hsound]
      exact (and_iff_right hmalloc').symm
  · rw [along_iff unpack s sts (fun st s => loginsOwn_iff unpack s st)] at hown
    rw [along_iff unpack s sts (fun st s => sendsTested_iff unpack s st)] at htested
    rw [along_iff unpack s sts (fun st s => sendsConfirmed_iff unpack s st)]
    have howned : Permits.Owned s.permit := by
      refine ⟨fun h => absurd h Bool.false_ne_true, ?_, Nat.le_refl 0, ?_⟩
      · exact fun h => absurd h (Nat.lt_irrefl 0)
      · exact fun h => absurd h (Nat.lt_irrefl 0)
    exact Permits.uses_own howned hown htested

/-! ## A response in time, and a late one -/

/-- One round of `_websocket_task` up to the call that does not answer `ESP_OK`. -/
def round (n : Nat) : List SessionStep := List.replicate n (.ws true 1000 1000)

/-- Connected, registered, and the login response received. -/
def loginReceived : List SessionStep :=
  round 1 ++ [.connected] ++ round 2 ++ [.data registerBytes true, .rx, .rx] ++ round 3 ++
    [.data loginBytes true]

/-- The response is acted on, and `_websocket_task` is about to send. -/
def ownRun : List SessionStep := loginReceived ++ [.rx, .rx, .rx] ++ round 4

/-- The power state leaves on the connection that has logged in. -/
theorem logged_by_own_login_sent :
    (after (step unpackTwo) bootZero ownRun).wsTask = .send ⟨some "d", .powerState false⟩ ∧
      Along (step unpackTwo) (fun st s => s.SendsConfirmed st) bootZero
        (ownRun ++ [.ws true 1000 1000]) := by
  have hown : Along (step unpackTwo) (fun st s => s.LoginsOwn unpackTwo st) bootZero
      (ownRun ++ [.ws true 1000 1000]) := by decide
  have htested : Along (step unpackTwo) (fun st s => s.SendsTested st) bootZero
      (ownRun ++ [.ws true 1000 1000]) := by decide
  have hlogin := logged_by_own_login unpackTwo true "" ⟨0, 0, 0, 0⟩ false (Stream'.const true)
    (ownRun ++ [.ws true 1000 1000])
  exact ⟨by decide, hlogin.2 hown htested⟩

/-- The connection is lost before `_rx_process_task` gets to the response. -/
def lostRun : List SessionStep := loginReceived ++ [.disconnected, .rx, .rx]

/-- The connection is lost and the next one is up before `_rx_process_task` gets to the
response; then `_websocket_task` goes through to a send. -/
def lateRun : List SessionStep :=
  loginReceived ++ [.disconnected, .connected, .rx, .rx, .rx] ++ round 4

/-- The connection is lost and the next one is up between the test of the flag and the send. -/
def straddlingRun : List SessionStep := ownRun ++ [.disconnected, .connected]

/-- The flag is up while the connection is down; the power state leaves on a connection that
has not logged in, after a late response and after a late send. -/
theorem late_login_not_own :
    ¬Always (step unpackTwo) LoggedOnline bootZero lostRun ∧
      ¬Along (step unpackTwo) (fun st s => s.SendsConfirmed st) bootZero
        (lateRun ++ [.ws true 1000 1000]) ∧
      ¬Along (step unpackTwo) (fun st s => s.SendsConfirmed st) bootZero
        (straddlingRun ++ [.ws true 1000 1000]) := by
  refine ⟨fun h => ?_, by decide, by decide⟩
  exact absurd (h.last (by decide)) (by decide)

end Session

end Lighting
