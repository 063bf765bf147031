import Lighting.Lib.CString
import Lighting.Session.Calls

/-!
# The parties of a session

The client's task, `_rx_process_task`, `_websocket_task` and the other modules, on one handle.
They take their steps in any order. An event is handled in one step, which is how
the client's task runs the handler; each call of `_websocket_task` is one step, with the
receive and the send of `_app_ws_sending_data` apart; `_rx_process_task` takes an item, acts on
it, and after a login sends the three updates one by one. The updates of the other modules come
at any time. `unpack` is the generated decoder and is left open.

Three fields are not the code's. `connection` counts the connections; `confirmed` says whether
a login response of the current one has been acted on; `testedOn` is the connection on which
`_websocket_task` last saw the flag set.
-/

set_option autoImplicit false

namespace Lighting

open Runs CString

/-- An item of `rx_rb`, with the connection it came in on. -/
structure Received where
  connection : Nat
  payload : Bytes
  deriving DecidableEq, Repr

/-- Where `_rx_process_task` is. -/
inductive RxTask where
  | idle
  | processing (item : Received)
  | resendPowerState
  | resendMode
  | resendActiveTime
  deriving DecidableEq, Repr

/-- Where `_websocket_task` is: the call it makes next. -/
inductive WsTask where
  | prepare
  | register
  | login
  | receive
  | send (message : UpdateMessage)
  deriving DecidableEq, Repr

structure Session where
  running : Bool
  handle : Websocket
  rxRb : List Received
  rxTask : RxTask
  wsTask : WsTask
  connection : Nat
  confirmed : Bool
  testedOn : Nat

namespace Session

/-- The tasks have just been created. -/
def start (handle : Websocket) : Session where
  running := true
  handle := handle
  rxRb := []
  rxTask := .idle
  wsTask := .prepare
  connection := 0
  confirmed := false
  testedOn := 0

/-- `websocket_event_handler`. The payload of a `WEBSOCKET_EVENT_DATA` is put into `rx_rb` if
there is room for it within ten seconds. -/
def data (payload : Bytes) (stored : Bool) (s : Session) : Session :=
  if payload.length ≤ 0 then s
  else if stored then { s with rxRb := s.rxRb ++ [⟨s.connection, payload⟩] }
  else s

/-- `_process_data`, one branch. What the branch causes elsewhere comes back as updates. -/
def processBranch (item : Received) (d : Dispatch) (s : Session) : Session :=
  if d.faults then { s with running := false }
  else if d.loginOk then
    { s with
      handle := s.handle.logged
      rxTask := .resendPowerState
      confirmed := s.confirmed || item.connection = s.connection }
  else { s with handle := s.handle.process d, rxTask := .idle }

def rx (unpack : Bytes → Option MainMessage) (s : Session) : Session :=
  match s.rxTask with
  | .idle =>
    match s.rxRb with
    | [] => s
    | item :: rest => { s with rxRb := rest, rxTask := .processing item }
  | .processing item =>
    match unpack item.payload with
    | none => { s with rxTask := .idle }
    | some message => s.processBranch item message.dispatch
  | .resendPowerState =>
    { s with
      handle := updatePowerState s.handle s.handle.powerState
      rxTask := .resendMode }
  | .resendMode =>
    { s with
      handle := updateMode s.handle s.handle.mode
      rxTask := .resendActiveTime }
  | .resendActiveTime =>
    { s with
      handle := updateActiveTime s.handle s.handle.activeTime
      rxTask := .idle }

/-- A step of `_websocket_task`. `AWAIT` goes back to the first call unless the call it wraps
answers `ESP_OK`. -/
def ws (networkConnected : Bool) (tick tickAgain : Int) (s : Session) : Session :=
  match s.wsTask with
  | .prepare =>
    let (err, handle) := appWsPrepare networkConnected s.handle
    { s with handle := handle, wsTask := if err = .ok then .register else .prepare }
  | .register =>
    let (err, handle, _) := appWsRegister tick tickAgain s.handle
    { s with handle := handle, wsTask := if err = .ok then .login else .prepare }
  | .login =>
    let (err, handle, _) := appWsLogin tick tickAgain s.handle
    { s with
      handle := handle
      wsTask := if err = .ok then .receive else .prepare
      testedOn := if err = .ok then s.connection else s.testedOn }
  | .receive =>
    let (item, handle) := appWsReceive s.handle
    { s with
      handle := handle
      wsTask := match item with
        | none => .prepare
        | some message => .send message }
  | .send _ => { s with wsTask := .prepare }

end Session

inductive SessionStep where
  | connected
  | disconnected
  | data (payload : Bytes) (stored : Bool)
  | rx
  | ws (networkConnected : Bool) (tick tickAgain : Int)
  | update (body : UpdateBody)
  deriving DecidableEq, Repr

/-- A step, of a device that runs. -/
def SessionStep.apply (unpack : Bytes → Option MainMessage) : SessionStep → Session → Session
  | .connected, s =>
    { s with handle := s.handle.connected, connection := s.connection + 1, confirmed := false }
  | .disconnected, s => { s with handle := s.handle.disconnected }
  | .data payload stored, s => s.data payload stored
  | .rx, s => s.rx unpack
  | .ws networkConnected tick tickAgain, s => s.ws networkConnected tick tickAgain
  | .update body, s => { s with handle := s.handle.update body }

namespace Session

def step (unpack : Bytes → Option MainMessage) (st : SessionStep) (s : Session) : Session :=
  if s.running then st.apply unpack s else s

/-- `app_websocket_init`, and both tasks created. -/
def boot (callback : Bool) (hardwareId : String) (initActiveTime : ActiveTime)
    (mallocLogged : Bool) (txOutcomes : Stream' Bool) : Session :=
  .start (appWebsocketInit callback hardwareId initActiveTime mallocLogged txOutcomes)

/-! ## Two messages of the server, as bytes -/

/-- A register response for the device `d`, as bytes. -/
def registerBytes : Bytes := [18, 10, 10, 8, 18, 6, 10, 1, 100, 194, 62, 0]

/-- A login response with an empty status code, which is code 0. -/
def loginBytes : Bytes := [18, 7, 10, 5, 34, 3, 194, 62, 0]

def unpackTwo (payload : Bytes) : Option MainMessage :=
  if payload = registerBytes then
    some ⟨some ⟨some ⟨some ⟨"d", some ⟨"", 0⟩⟩, none⟩, none⟩⟩
  else if payload = loginBytes then some (.loginResponse 0)
  else none

/-- The handle as allocated in memory that reads as zero. -/
def bootZero : Session :=
  boot true "" ⟨0, 0, 0, 0⟩ false (Stream'.const true)

/-! ## The runs of the device are among these -/

section device

variable {unpack : Bytes → Option MainMessage}

/-- The session is where the device is, with nothing in flight as long as the device runs. -/
structure Follows (s : Session) (app : App) : Prop where
  handle : s.handle = app.websocket
  idle : app.power = .running → s.running = true ∧ s.rxTask = .idle ∧ s.rxRb = []

/-- Updates, one after the other. -/
theorem after_updates (bodies : List UpdateBody) {s : Session} (hrun : s.running = true) :
    after (step unpack) s (bodies.map .update) =
      { s with handle := bodies.foldl Websocket.update s.handle } := by
  induction bodies generalizing s with
  | nil => rfl
  | cons body bodies ih =>
    have hstep : step unpack (.update body) s = { s with handle := s.handle.update body } :=
      if_pos hrun
    rw [List.map_cons, after_cons, hstep]
    exact ih (s := { s with handle := s.handle.update body }) hrun

/-- What the device reports, the session can. -/
theorem Follows.reports (unpack : Bytes → Option MainMessage) {s : Session} {app app' : App}
    (hhandle : s.handle = app.websocket)
    (hidle : s.running = true ∧ s.rxTask = .idle ∧ s.rxRb = []) (h : Reports app app') :
    ∃ sts, Follows (after (step unpack) s sts) app' := by
  obtain ⟨bodies, hbodies⟩ := h
  refine ⟨bodies.map .update, ?_, fun _ => ?_⟩
  · rw [after_updates bodies hidle.1, hbodies, hhandle]
  · rw [after_updates bodies hidle.1]
    exact hidle

theorem processDispatch_faults {d : Dispatch} (hd : d.faults = true) (app : App) :
    processDispatch d app = app.fault := by
  cases d with
  | registerResponse r =>
    have hnone : r.statuscode = none := by simpa [Dispatch.faults] using hd
    simp [processDispatch, hnone]
  | loginResponse r =>
    have hnone : r.statuscode = none := by simpa [Dispatch.faults] using hd
    simp [processDispatch, hnone]
  | setActiveTime r =>
    have hnone : r.activeTime? = none := by simpa [Dispatch.faults] using hd
    simp [processDispatch, hnone]
  | setCycleConfig r =>
    have hlt : r.greentime.length < 2 := by simpa [Dispatch.faults] using hd
    simp [processDispatch, hlt]
  | _ => exact absurd hd (by simp [Dispatch.faults])

/-- A payload that comes in while `_rx_process_task` waits is acted on two steps later. -/
theorem after_payload {s : Session} (hidle : s.running = true ∧ s.rxTask = .idle ∧ s.rxRb = [])
    {payload : Bytes} (hne : payload ≠ []) {message : MainMessage}
    (hunpack : unpack payload = some message) :
    after (step unpack) s [.data payload true, .rx, .rx] =
      { s with rxTask := .processing ⟨s.connection, payload⟩ }.processBranch
        ⟨s.connection, payload⟩ message.dispatch := by
  obtain ⟨hrun, htask, hrb⟩ := hidle
  have hlen : ¬payload.length ≤ 0 := by
    simpa using hne
  have hdata : step unpack (.data payload true) s =
      { s with rxRb := [⟨s.connection, payload⟩] } := by
    simp [step, hrun, SessionStep.apply, data, hlen, hrb]
  have htake : step unpack .rx { s with rxRb := [⟨s.connection, payload⟩] } =
      { s with rxTask := .processing ⟨s.connection, payload⟩ } := by
    simp [step, hrun, SessionStep.apply, rx, htask, ← hrb]
  rw [after_cons, after_cons, after_cons, after_nil, hdata, htake]
  simp [step, hrun, SessionStep.apply, rx, hunpack]

/-- A message the device handles can be received and acted on. -/
theorem follows_message {s : Session} {app : App} (hhandle : s.handle = app.websocket)
    (hidle : s.running = true ∧ s.rxTask = .idle ∧ s.rxRb = []) {payload : Bytes}
    (hne : payload ≠ []) {message : MainMessage} (hunpack : unpack payload = some message) :
    ∃ sts, Follows (after (step unpack) s sts) (processDispatch message.dispatch app) := by
  have hpayload := after_payload hidle hne hunpack
  obtain ⟨hrun, htask, hrb⟩ := hidle
  have hreports := processDispatch_reports app message.dispatch
  by_cases hfaults : message.dispatch.faults = true
  · refine ⟨[.data payload true, .rx, .rx], ?_⟩
    rw [hpayload, processDispatch_faults hfaults]
    refine ⟨?_, fun h => by cases h⟩
    rw [processBranch, if_pos hfaults]
    exact hhandle
  · by_cases hlogin : message.dispatch.loginOk = true
    · -- Acting on a login takes three steps more: one for each update.
      have hresend : after (step unpack) s [.data payload true, .rx, .rx, .rx, .rx, .rx] =
          { s with
            handle := s.handle.logged.resend
            confirmed := s.confirmed || decide True } := by
        rw [show [SessionStep.data payload true, .rx, .rx, .rx, .rx, .rx] =
          [.data payload true, .rx, .rx] ++ [.rx, .rx, .rx] from rfl, after_append, hpayload]
        simp [processBranch, hfaults, hlogin, step, hrun, SessionStep.apply, rx, htask,
          Websocket.resend]
      have hlogged : s.handle.logged.resend =
          (app.onWebsocket (·.process message.dispatch)).websocket := by
        rw [← process_loginOk hlogin, hhandle]
        rfl
      obtain ⟨sts, hsts⟩ := Follows.reports unpack (s := { s with
          handle := s.handle.logged.resend
          confirmed := s.confirmed || decide True }) hlogged ⟨hrun, htask, hrb⟩ hreports
      exact ⟨_, by rw [after_append, hresend]; exact hsts⟩
    · have hbranch : after (step unpack) s [.data payload true, .rx, .rx] =
          { s with handle := s.handle.process message.dispatch } := by
        rw [hpayload]
        simp [processBranch, hfaults, hlogin, htask]
      have hprocess : s.handle.process message.dispatch =
          (app.onWebsocket (·.process message.dispatch)).websocket := by
        rw [hhandle]
        rfl
      obtain ⟨sts, hsts⟩ := Follows.reports unpack
        (s := { s with handle := s.handle.process message.dispatch }) hprocess
        ⟨hrun, htask, hrb⟩ hreports
      exact ⟨_, by rw [after_append, hbranch]; exact hsts⟩

theorem follows_step (hdecodes : ∀ message, ∃ payload ≠ [], unpack payload = some message)
    {s : Session} {app : App} (h : Follows s app) (i : Input) :
    ∃ sts, Follows (after (step unpack) s sts) (app.step i) := by
  unfold App.step
  by_cases hrun : app.power = .running
  · rw [if_pos hrun]
    obtain ⟨hhandle, hidle⟩ := h
    replace hidle := hidle hrun
    cases i with
    | poll manualState autoState =>
      exact Follows.reports unpack hhandle hidle (poll_reports manualState autoState app)
    | tick t => exact Follows.reports unpack hhandle hidle (tick_reports t app)
    | message m =>
      cases m with
      | none => exact ⟨[], hhandle, fun _ => hidle⟩
      | some message =>
        obtain ⟨payload, hne, hunpack⟩ := hdecodes message
        exact follows_message hhandle hidle hne hunpack
    | nextion r => exact Follows.reports unpack hhandle hidle (nextionReadIteration_reports r app)
    | connected =>
      have hstep : step unpack .connected s = { s with
          handle := s.handle.connected
          connection := s.connection + 1
          confirmed := false } := if_pos hidle.1
      have hown : (step unpack .connected s).handle =
          (app.onWebsocket Websocket.connected).websocket := by
        rw [hstep, hhandle]
        rfl
      obtain ⟨sts, hsts⟩ := Follows.reports unpack hown (by rw [hstep]; exact hidle)
        (websocketCallback_reports _ .websocketOnConnected)
      exact ⟨.connected :: sts, hsts⟩
    | disconnected =>
      have hstep : step unpack .disconnected s = { s with handle := s.handle.disconnected } :=
        if_pos hidle.1
      have hown : (step unpack .disconnected s).handle =
          (app.onWebsocket Websocket.disconnected).websocket := by
        rw [hstep, hhandle]
        rfl
      obtain ⟨sts, hsts⟩ := Follows.reports unpack hown (by rw [hstep]; exact hidle)
        (websocketCallback_reports _ .websocketOnDisconnected)
      exact ⟨.disconnected :: sts, hsts⟩
    | gps form => exact Follows.reports unpack hhandle hidle (eventCallback_reports app _)
  · rw [if_neg hrun]
    exact ⟨[], h⟩

/-- **The parties can do what the device does**, whenever every message has bytes. -/
theorem follows_run (hdecodes : ∀ message, ∃ payload ≠ [], unpack payload = some message)
    (is : List Input) {s : Session} {app : App} (h : Follows s app) :
    ∃ sts, Follows (after (step unpack) s sts) (after App.step app is) := by
  induction is generalizing s app with
  | nil => exact ⟨[], h⟩
  | cons i is ih =>
    obtain ⟨xs, hx⟩ := follows_step hdecodes h i
    obtain ⟨ys, hy⟩ := ih hx
    exact ⟨xs ++ ys, by rw [after_append]; exact hy⟩

end device

end Session

end Lighting
