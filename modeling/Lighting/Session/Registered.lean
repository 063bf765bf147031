import Lighting.Session.Calls

/-!
# Whom the updates are sent for

An update carries the device id the handle holds when it is built, and is built if `is_logged`
is set or a login has just been answered. Neither looks at the other: `app_websocket_init`
leaves `is_logged` as `malloc` returned it, and a login response is believed whether or not
there is a device id.

`Audit` adds to the handle what has come so far. `updates_founded_iff` says of every run of
calls when all messages put on `tx_rb` carry the id of a registered device that has logged in.
-/

set_option autoImplicit false

namespace Lighting

open Runs

/-! ## What a call puts on `tx_rb` -/

/-- The messages a call puts on `tx_rb`; none is ever taken off by one. -/
def HandleCall.puts (c : HandleCall) (handle : Websocket) : List UpdateMessage :=
  (c.apply handle).txRb.drop handle.txRb.length

/-- The bodies a call builds messages of. -/
def HandleCall.bodies (c : HandleCall) (handle : Websocket) : List UpdateBody :=
  match c with
  | .update body => if handle.isLogged then [body] else []
  | .process d =>
    if d.loginOk then
      [.powerState handle.powerState, .mode handle.mode, .activeTime handle.activeTime]
    else []
  | _ => []

/-- Those of a list of bodies `tx_rb` has room for. -/
def taken : Stream' Bool → List UpdateBody → List UpdateBody
  | _, [] => []
  | outcomes, body :: bodies =>
    if outcomes.head then body :: taken outcomes.tail bodies else taken outcomes.tail bodies

/-- Builders one after the other. -/
theorem enqueue_all (bodies : List UpdateBody) (handle : Websocket) :
    (bodies.foldl Websocket.enqueue handle).txRb =
      handle.txRb ++ (taken handle.txOutcomes bodies).map (UpdateMessage.mk handle.deviceId) := by
  induction bodies generalizing handle with
  | nil => simp [taken]
  | cons body bodies ih =>
    rw [List.foldl_cons, ih, taken]
    unfold Websocket.enqueue
    dsimp only
    split <;> simp

/-- **What a call puts on `tx_rb`**: the messages of its bodies there is room for, with the
device id the handle holds. -/
theorem puts_eq (c : HandleCall) (handle : Websocket) :
    c.puts handle =
      (taken handle.txOutcomes (c.bodies handle)).map (UpdateMessage.mk handle.deviceId) := by
  have hbuilds : (c.apply handle).txRb =
      handle.txRb ++
        (taken handle.txOutcomes (c.bodies handle)).map (UpdateMessage.mk handle.deviceId) := by
    cases c with
    | connected | disconnected => simp [HandleCall.apply, HandleCall.bodies, taken,
        Websocket.connected, Websocket.disconnected]
    | update body =>
      have hnote : (handle.note body).txRb = handle.txRb ∧
          (handle.note body).txOutcomes = handle.txOutcomes ∧
            (handle.note body).deviceId = handle.deviceId := by
        cases body <;> exact ⟨rfl, rfl, rfl⟩
      simp only [HandleCall.apply, HandleCall.bodies, update_eq]
      split
      · have hone := enqueue_all [body] (handle.note body)
        rw [hnote.1, hnote.2.1, hnote.2.2] at hone
        exact hone
      · simp [taken, hnote.1]
    | process d =>
      by_cases hd : d.loginOk = true
      · have hthree := enqueue_all [.powerState handle.powerState, .mode handle.mode,
          .activeTime handle.activeTime] handle.logged
        simp only [HandleCall.apply, HandleCall.bodies, process_loginOk hd, hd, if_true]
        exact hthree
      · have hsame : (handle.process d).txRb = handle.txRb := by
          rcases process_other (Bool.eq_false_iff.mpr hd) handle with h | ⟨deviceid, h⟩
          · rw [h]
          · rw [h]
            rfl
        simp [HandleCall.apply, HandleCall.bodies, hd, taken, hsame]
  rw [HandleCall.puts, hbuilds, List.drop_left]

/-! ## What has come so far -/

/-- `registered` is the id of the last register response with code 0, `loggedIn` says whether
a login response with code 0 has come, `written` whether anything has assigned `is_logged`: a
connection event or such a response. None of the three is the code's. -/
structure Audit where
  handle : Websocket
  registered : Option String
  loggedIn : Bool
  written : Bool

/-- The device id of a register response with code 0. -/
def Dispatch.registerOk? : Dispatch → Option String
  | .registerResponse r => if r.statuscode.any (·.code = 0) then some r.deviceid else none
  | _ => none

def HandleCall.registerOk? : HandleCall → Option String
  | .process d => d.registerOk?
  | _ => none

def HandleCall.loginOk : HandleCall → Bool
  | .process d => d.loginOk
  | _ => false

/-- The calls that assign `is_logged`. -/
def HandleCall.writesLogged : HandleCall → Bool
  | .connected => true
  | .disconnected => true
  | .process d => d.loginOk
  | .update _ => false

namespace Audit

def step (c : HandleCall) (a : Audit) : Audit where
  handle := c.apply a.handle
  registered := c.registerOk?.or a.registered
  loggedIn := a.loggedIn || c.loginOk
  written := a.written || c.writesLogged

def start (callback : Bool) (hardwareId : String) (initActiveTime : ActiveTime)
    (mallocLogged : Bool) (txOutcomes : Stream' Bool) : Audit where
  handle := appWebsocketInit callback hardwareId initActiveTime mallocLogged txOutcomes
  registered := none
  loggedIn := false
  written := false

/-- The last register response with code 0 had a device id in it. -/
def HasId (a : Audit) : Prop := ∃ deviceid, a.registered = some deviceid ∧ deviceid ≠ ""

/-- Every message the call puts on `tx_rb` is built after a register response and a login
response, both with code 0, and carries the non-empty id of the last such register
response. -/
def Founded (c : HandleCall) (a : Audit) : Prop :=
  ∀ m ∈ c.puts a.handle, (step c a).loggedIn = true ∧ (step c a).HasId ∧
    m.deviceId = (step c a).registered

/-- `tx_rb` takes a message of the call only when the last register response with code 0 had a
device id in it, and of an update only when something has assigned `is_logged`. -/
def AfterRegister (c : HandleCall) (a : Audit) : Prop :=
  taken a.handle.txOutcomes (c.bodies a.handle) ≠ [] →
    a.HasId ∧ ∀ body, c = .update body → a.written = true

/-- The handle holds the id of the last register response, and once something has assigned
`is_logged`, it is set only after a login. -/
structure Inv (a : Audit) : Prop where
  deviceId : a.handle.deviceId = a.registered
  logged : a.written = true → a.handle.isLogged = true → a.loggedIn = true
  written : a.loggedIn = true → a.written = true

/-! ## One call -/

theorem apply_deviceId (c : HandleCall) (handle : Websocket) :
    (c.apply handle).deviceId = c.registerOk?.or handle.deviceId := by
  cases c with
  | connected | disconnected => rfl
  | update body =>
    show (handle.update body).deviceId = handle.deviceId
    rw [update_eq]
    split <;> cases body <;> rfl
  | process d =>
    cases d with
    | registerResponse r =>
      simp only [HandleCall.apply, Websocket.process, HandleCall.registerOk?,
        Dispatch.registerOk?]
      split <;> rfl
    | loginResponse r =>
      simp only [HandleCall.apply, Websocket.process]
      split <;> rfl
    | _ => rfl

theorem apply_isLogged (c : HandleCall) (handle : Websocket) :
    (c.apply handle).isLogged =
      if c.writesLogged then c.loginOk else handle.isLogged := by
  cases c with
  | connected | disconnected => rfl
  | update body => exact update_isLogged handle body
  | process d =>
    by_cases hd : d.loginOk = true
    · simp only [HandleCall.apply, HandleCall.writesLogged, HandleCall.loginOk,
        process_loginOk hd, hd, if_true]
      rfl
    · have hsame : (handle.process d).isLogged = handle.isLogged := by
        rcases process_other (Bool.eq_false_iff.mpr hd) handle with h | ⟨deviceid, h⟩
        · rw [h]
        · rw [h]
          rfl
      simp [HandleCall.apply, HandleCall.writesLogged, hd, hsame]

theorem loginOk_writes {c : HandleCall} (h : c.loginOk = true) : c.writesLogged = true := by
  cases c with
  | process d => exact h
  | _ => exact absurd h Bool.false_ne_true

theorem Inv.step {a : Audit} (h : a.Inv) (c : HandleCall) : (a.step c).Inv := by
  constructor
  · show (c.apply a.handle).deviceId = c.registerOk?.or a.registered
    rw [apply_deviceId, h.deviceId]
  · intro hwritten hlogged
    simp only [Audit.step, apply_isLogged, Bool.or_eq_true] at hwritten hlogged ⊢
    by_cases hw : c.writesLogged = true
    · rw [if_pos hw] at hlogged
      exact .inr hlogged
    · rw [if_neg hw] at hlogged
      exact .inl (h.logged (hwritten.resolve_right hw) hlogged)
  · intro hin
    simp only [Audit.step, Bool.or_eq_true] at hin ⊢
    exact hin.imp h.written loginOk_writes

/-- A call that builds a message is an update of a handle that is logged in, or a login. -/
theorem builds_iff {c : HandleCall} {handle : Websocket} (h : c.bodies handle ≠ []) :
    (∃ body, c = .update body ∧ handle.isLogged = true) ∨ c.loginOk = true := by
  cases c with
  | update body =>
    by_cases hlogged : handle.isLogged = true
    · exact .inl ⟨body, rfl, hlogged⟩
    · exact absurd (if_neg hlogged) h
  | process d =>
    by_cases hd : d.loginOk = true
    · exact .inr hd
    · exact absurd (if_neg hd) h
  | _ => exact absurd rfl h

/-- Such a call is no register response. -/
theorem builds_registered {c : HandleCall} {a : Audit} (h : c.bodies a.handle ≠ []) :
    (a.step c).registered = a.registered := by
  have hnone : c.registerOk? = none := by
    rcases builds_iff h with ⟨body, rfl, -⟩ | hlogin
    · rfl
    · cases c with
      | process d =>
        cases d with
        | loginResponse r => rfl
        | _ => exact absurd hlogin Bool.false_ne_true
      | _ => exact absurd hlogin Bool.false_ne_true
  show c.registerOk?.or a.registered = a.registered
  rw [hnone, Option.none_or]

theorem founded_iff {a : Audit} (h : a.Inv) (c : HandleCall) :
    Founded c a ↔ AfterRegister c a := by
  unfold Founded AfterRegister
  rw [puts_eq]
  generalize htaken : taken a.handle.txOutcomes (c.bodies a.handle) = bodies
  cases bodies with
  | nil => simp
  | cons first rest =>
    have hbuilds : c.bodies a.handle ≠ [] := by
      intro hnil
      rw [hnil, taken] at htaken
      exact absurd htaken (List.cons_ne_nil _ _).symm
    have hregistered := builds_registered hbuilds
    have hid : (a.step c).HasId ↔ a.HasId := by rw [HasId, hregistered, HasId]
    -- Between the call and the login response there is nothing but `malloc`.
    have hlogin : (a.step c).loggedIn = true ↔ ∀ body, c = .update body → a.written = true := by
      show (a.loggedIn || c.loginOk) = true ↔ _
      rcases builds_iff hbuilds with ⟨body, rfl, hlogged⟩ | hlogin
      · have hno : HandleCall.loginOk (.update body) = false := rfl
        rw [hno, Bool.or_false]
        exact ⟨fun hin _ _ => h.written hin, fun hw => h.logged (hw body rfl) hlogged⟩
      · rw [hlogin, Bool.or_true]
        refine ⟨fun _ body hc => ?_, fun _ => rfl⟩
        subst hc
        exact absurd hlogin Bool.false_ne_true
    rw [hid, hlogin, hregistered]
    constructor
    · intro hall _
      obtain ⟨hwritten, hhas, -⟩ := hall _ (List.mem_map_of_mem List.mem_cons_self)
      exact ⟨hhas, hwritten⟩
    · intro hafter m hm
      obtain ⟨hhas, hwritten⟩ := hafter (List.cons_ne_nil _ _)
      obtain ⟨body, -, rfl⟩ := List.mem_map.mp hm
      exact ⟨hwritten, hhas, h.deviceId⟩

/-! ## Runs -/

theorem start_inv (callback : Bool) (hardwareId : String) (initActiveTime : ActiveTime)
    (mallocLogged : Bool) (txOutcomes : Stream' Bool) :
    (start callback hardwareId initActiveTime mallocLogged txOutcomes).Inv :=
  ⟨rfl, fun h => absurd h Bool.false_ne_true, fun h => absurd h Bool.false_ne_true⟩

/-- **Whom the updates are sent for.** In every run of calls from `app_websocket_init`,
whatever `malloc` returned: all messages put on `tx_rb` are founded, exactly if each of them
comes after a register response with a device id, and no update is taken while `is_logged` is
what `malloc` returned. -/
theorem updates_founded_iff (callback : Bool) (hardwareId : String) (initActiveTime : ActiveTime)
    (mallocLogged : Bool) (txOutcomes : Stream' Bool) (cs : List HandleCall) :
    Along step Founded (start callback hardwareId initActiveTime mallocLogged txOutcomes) cs ↔
      Along step AfterRegister
        (start callback hardwareId initActiveTime mallocLogged txOutcomes) cs :=
  along_congr (fun c _ h => Inv.step h c) (fun c _ h => founded_iff h c)
    (start_inv callback hardwareId initActiveTime mallocLogged txOutcomes)

/-- The light is switched before there is a connection. -/
def earlyUpdate : List HandleCall := [.update (.powerState true)]

/-- A login response nobody has registered for. -/
def loginOnly : List HandleCall := [.connected, .process (.loginResponse ⟨some ⟨"", 0⟩⟩)]

/-- In memory that reads as one the first update goes out without a device id; in memory that
reads as zero three updates do, after a login response with no registration. -/
theorem earlyUpdate_not_founded :
    ¬Along step Founded (start true "" ⟨0, 0, 0, 0⟩ true (Stream'.const true)) earlyUpdate ∧
    ¬Along step Founded (start true "" ⟨0, 0, 0, 0⟩ false (Stream'.const true)) loginOnly := by
  constructor
  · rintro ⟨hfounded, -⟩
    have hm : UpdateMessage.mk none (.powerState true) ∈
        HandleCall.puts (.update (.powerState true))
          (start true "" ⟨0, 0, 0, 0⟩ true (Stream'.const true)).handle := by
      decide
    exact absurd (hfounded _ hm).1 (by decide)
  · rintro ⟨-, hfounded, -⟩
    have hm : UpdateMessage.mk none (.mode .off) ∈
        HandleCall.puts (.process (.loginResponse ⟨some ⟨"", 0⟩⟩))
          (step .connected (start true "" ⟨0, 0, 0, 0⟩ false (Stream'.const true))).handle := by
      decide
    obtain ⟨-, ⟨deviceid, hsome, -⟩, -⟩ := hfounded _ hm
    have hnone : none = some deviceid := hsome
    exact absurd hnone (Option.some_ne_none deviceid).symm

end Audit

end Lighting
