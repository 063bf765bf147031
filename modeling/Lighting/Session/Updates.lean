import Lighting.Lib.Mirror
import Lighting.Session.Calls

/-!
# What the server has been told

The handle caches the power state, the mode and the schedule, and puts each of them into
`tx_rb` when it changes, and all three after a login. A message the ring buffer has no room
for is logged and dropped; `_app_ws_sending_data` returns the item whatever
`esp_websocket_client_send_bin` answered. Nothing but the next login sends a value again.

So a session that is logged in has told the server the cached value of a kind unless the last
message of that kind was refused by `tx_rb` or failed to leave. `Uplink` adds to the handle what
was sent since the last login and, for each kind, whether the last message that was built is
still `intact`; both are bookkeeping, not the code's. The steps are all the calls on the handle,
in any order, and the sends, with any outcome.

An update of a session that is not logged in moves the cache and builds no message. It is the
next login that catches up with it, so nothing is said of the states before that.
-/

set_option autoImplicit false

namespace Lighting

open Runs

/-- The three kinds of update the handle caches. -/
inductive UpdateKind where
  | powerState
  | mode
  | activeTime
  deriving DecidableEq, Repr

def UpdateBody.kind? : UpdateBody → Option UpdateKind
  | .powerState _ => some .powerState
  | .mode _ => some .mode
  | .meterData _ => none
  | .activeTime _ => some .activeTime

/-- The cached value of a kind, as the update that would carry it. -/
def Websocket.cached (handle : Websocket) : UpdateKind → UpdateBody
  | .powerState => .powerState handle.powerState
  | .mode => .mode handle.mode
  | .activeTime => .activeTime handle.activeTime

structure Uplink where
  handle : Websocket
  sent : List UpdateMessage
  intact : UpdateKind → Bool

namespace Uplink

/-- The updates of a login are intact if `tx_rb` takes them, one answer each. -/
def resent (txOutcomes : Stream' Bool) : UpdateKind → Bool
  | .powerState => txOutcomes.head
  | .mode => txOutcomes.tail.head
  | .activeTime => txOutcomes.tail.tail.head

def call (c : HandleCall) (u : Uplink) : Uplink :=
  match c with
  | .update body =>
    { u with
      handle := c.apply u.handle
      intact :=
        if u.handle.isLogged then
          Mirrors.written UpdateBody.kind? body u.handle.txOutcomes.head u.intact
        else u.intact }
  | .process d =>
    { handle := c.apply u.handle
      sent := if d.loginOk then [] else u.sent
      intact := if d.loginOk then resent u.handle.txOutcomes else u.intact }
  | _ => { u with handle := c.apply u.handle }

/-- `_app_ws_sending_data`; `ok` says whether the message left. -/
def sendingData (ok : Bool) (u : Uplink) : Uplink :=
  match appWsReceive u.handle with
  | (none, handle) => { u with handle := handle }
  | (some message, handle) =>
    { handle := handle
      sent := if ok then u.sent ++ [message] else u.sent
      intact :=
        if ok then u.intact
        else Mirrors.lost UpdateBody.kind? message.body (handle.txRb.map (·.body)) u.intact }

end Uplink

inductive UplinkStep where
  | call (c : HandleCall)
  | send (ok : Bool)
  deriving DecidableEq, Repr

namespace Uplink

def step : UplinkStep → Uplink → Uplink
  | .call c, u => u.call c
  | .send ok, u => u.sendingData ok

/-- The handle as allocated; nothing was ever sent. -/
def start (callback : Bool) (hardwareId : String) (initActiveTime : ActiveTime)
    (mallocLogged : Bool) (txOutcomes : Stream' Bool) : Uplink where
  handle := appWebsocketInit callback hardwareId initActiveTime mallocLogged txOutcomes
  sent := []
  intact := fun _ => false

/-- The last update of a kind that was sent since the last login. -/
def lastSent (u : Uplink) (kind : UpdateKind) : Option UpdateBody :=
  ((u.sent.map (·.body)).filter (·.kind? = some kind)).getLast?

/-! ## The uplink is a mirror -/

open Mirrors (Mirror)

def mirror (u : Uplink) : Mirror UpdateKind UpdateBody where
  cache := u.handle.cached
  queue := u.handle.txRb.map (·.body)
  sent := u.sent.map (·.body)
  intact := u.intact

/-- What a step amounts to, in a session that is logged in after it. A login starts over and
writes all three. -/
def acts (u : Uplink) : UplinkStep → List (Mirrors.Act UpdateBody)
  | .call (.update body) => [.write body u.handle.txOutcomes.head]
  | .call (.process d) =>
    if d.loginOk then
      [.restart,
        .write (u.handle.cached .powerState) u.handle.txOutcomes.head,
        .write (u.handle.cached .mode) u.handle.txOutcomes.tail.head,
        .write (u.handle.cached .activeTime) u.handle.txOutcomes.tail.tail.head]
    else []
  | .call _ => []
  | .send ok => [.send ok]

theorem enqueue_bodies (handle : Websocket) (body : UpdateBody) :
    (handle.enqueue body).txRb.map (·.body) =
      if handle.txOutcomes.head then handle.txRb.map (·.body) ++ [body]
      else handle.txRb.map (·.body) := by
  unfold Websocket.enqueue
  dsimp only
  split
  · rw [List.map_append]
    rfl
  · rfl

/-- An update of a session that is logged in is enqueued, if there is room. -/
theorem update_bodies {handle : Websocket} (hlogged : handle.isLogged = true) (body : UpdateBody) :
    (handle.update body).txRb.map (·.body) =
      if handle.txOutcomes.head then handle.txRb.map (·.body) ++ [body]
      else handle.txRb.map (·.body) := by
  -- Noting the value does not touch the queue.
  have hnote : (handle.note body).txRb = handle.txRb ∧
      (handle.note body).txOutcomes = handle.txOutcomes := by
    cases body <;> exact ⟨rfl, rfl⟩
  rw [update_eq, if_pos hlogged]
  simp [enqueue_bodies, hnote]

theorem update_cached (handle : Websocket) (body : UpdateBody) :
    (handle.update body).cached =
      fun kind => if body.kind? = some kind then body else handle.cached kind := by
  have hnote : (handle.note body).cached =
      fun kind => if body.kind? = some kind then body else handle.cached kind := by
    funext kind
    cases body <;> cases kind <;> rfl
  rw [update_eq, ← hnote]
  split
  · funext kind
    cases kind <;> rfl
  · rfl

theorem cached_kind? (handle : Websocket) (kind : UpdateKind) :
    (handle.cached kind).kind? = some kind := by
  cases kind <;> rfl

/-- An update that repeats a cached value is a write that leaves the cache. -/
theorem enqueue_mirror (handle : Websocket) (kind : UpdateKind) (sent : List UpdateMessage)
    (intact : UpdateKind → Bool) :
    mirror ⟨handle.enqueue (handle.cached kind), sent,
        Mirrors.written UpdateBody.kind? (handle.cached kind) handle.txOutcomes.head intact⟩ =
      Mirrors.act UpdateBody.kind? (.write (handle.cached kind) handle.txOutcomes.head)
        (mirror ⟨handle, sent, intact⟩) := by
  have hcache : (handle.enqueue (handle.cached kind)).cached = fun k =>
      if (handle.cached kind).kind? = some k then handle.cached kind else handle.cached k := by
    funext k
    rw [cached_kind?]
    by_cases hk : kind = k
    · subst hk
      rw [if_pos rfl]
      cases kind <;> rfl
    · rw [if_neg (by simpa using hk)]
      cases k <;> rfl
  simp only [mirror, Mirrors.act, hcache, enqueue_bodies]

theorem resent_eq (handle : Websocket) :
    resent handle.txOutcomes =
      Mirrors.written UpdateBody.kind? (handle.cached .activeTime)
        handle.txOutcomes.tail.tail.head
        (Mirrors.written UpdateBody.kind? (handle.cached .mode) handle.txOutcomes.tail.head
          (Mirrors.written UpdateBody.kind? (handle.cached .powerState) handle.txOutcomes.head
            fun _ => false)) := by
  funext kind
  cases kind <;> rfl

/-- A login starts over and writes the three cached values. -/
theorem login_mirror (handle : Websocket) (sent : List UpdateMessage)
    (intact : UpdateKind → Bool) :
    mirror ⟨handle.logged.resend, [], resent handle.txOutcomes⟩ =
      after (Mirrors.act UpdateBody.kind?) (mirror ⟨handle, sent, intact⟩)
        [.restart,
          .write (handle.cached .powerState) handle.txOutcomes.head,
          .write (handle.cached .mode) handle.txOutcomes.tail.head,
          .write (handle.cached .activeTime) handle.txOutcomes.tail.tail.head] := by
  -- The handle after the first and after the second of the three.
  let first := handle.logged.enqueue (handle.cached .powerState)
  let second := first.enqueue (first.cached .mode)
  have h₁ := enqueue_mirror handle.logged .powerState [] fun _ => false
  have h₂ := enqueue_mirror first .mode [] (Mirrors.written UpdateBody.kind?
    (handle.cached .powerState) handle.txOutcomes.head fun _ => false)
  have h₃ := enqueue_mirror second .activeTime [] (Mirrors.written UpdateBody.kind?
    (first.cached .mode) first.txOutcomes.head (Mirrors.written UpdateBody.kind?
      (handle.cached .powerState) handle.txOutcomes.head fun _ => false))
  rw [resent_eq]
  calc mirror ⟨handle.logged.resend, [], _⟩
      = Mirrors.act UpdateBody.kind? (.write (second.cached .activeTime) second.txOutcomes.head)
          (mirror ⟨second, [], _⟩) := h₃
    _ = _ := congrArg _ (h₂.trans (congrArg _ h₁))

theorem process_mirror (u : Uplink) (d : Dispatch) :
    (u.call (.process d)).mirror =
      after (Mirrors.act UpdateBody.kind?) u.mirror (u.acts (.call (.process d))) := by
  by_cases hd : d.loginOk = true
  · simp only [call, acts, hd, if_true, HandleCall.apply, process_loginOk hd]
    exact login_mirror u.handle u.sent u.intact
  · have hsame : (u.handle.process d).txRb = u.handle.txRb ∧
        (u.handle.process d).cached = u.handle.cached := by
      rcases process_other (Bool.eq_false_iff.mpr hd) u.handle with h | ⟨deviceid, h⟩ <;>
        rw [h] <;> exact ⟨rfl, rfl⟩
    simp [call, acts, hd, mirror, HandleCall.apply, hsame]

theorem cached_txRb (handle : Websocket) (txRb : List UpdateMessage) :
    { handle with txRb := txRb }.cached = handle.cached := by
  funext kind
  cases kind <;> rfl

/-- **The uplink is a mirror of the cache**, as long as the session is logged in. -/
theorem step_mirror {st : UplinkStep} {u : Uplink} (hlogged : (step st u).handle.isLogged = true) :
    (step st u).mirror = after (Mirrors.act UpdateBody.kind?) u.mirror (u.acts st) := by
  cases st with
  | call c =>
    cases c with
    | update body =>
      have hbefore : u.handle.isLogged = true := (update_isLogged u.handle body).symm.trans hlogged
      simp only [step, call, acts, HandleCall.apply, mirror, update_bodies hbefore, update_cached,
        hbefore, if_true, after_cons, after_nil, Mirrors.act]
    | connected => rfl
    | disconnected => rfl
    | process d => exact process_mirror u d
  | send ok =>
    obtain ⟨handle, sent, intact⟩ := u
    simp only [step, sendingData, appWsReceive, acts, after_cons, after_nil]
    cases hq : handle.txRb with
    | nil => simp [mirror, Mirrors.act, hq, cached_txRb]
    | cons message rest => cases ok <;> simp [mirror, Mirrors.act, hq, cached_txRb]

/-- A session is logged in after a step because it was before, or by a login. -/
theorem logged_before {st : UplinkStep} {u : Uplink} (h : (step st u).handle.isLogged = true) :
    u.handle.isLogged = true ∨ ∃ d, st = .call (.process d) ∧ d.loginOk = true := by
  cases st with
  | call c =>
    cases c with
    | update body => exact Or.inl ((update_isLogged u.handle body).symm.trans h)
    | connected => exact absurd h Bool.false_ne_true
    | disconnected => exact absurd h Bool.false_ne_true
    | process d =>
      by_cases hd : d.loginOk = true
      · exact Or.inr ⟨d, rfl, hd⟩
      · have hsame : (u.handle.process d).isLogged = u.handle.isLogged := by
          rcases process_other (Bool.eq_false_iff.mpr hd) u.handle with h | ⟨deviceid, h⟩
          · rw [h]
          · rw [h]; rfl
        exact Or.inl (hsame.symm.trans h)
  | send ok =>
    have hsame : (sendingData ok u).handle.isLogged = u.handle.isLogged := by
      simp only [sendingData, appWsReceive]
      cases u.handle.txRb <;> rfl
    exact Or.inl (hsame.symm.trans h)

/-- While the session is logged in, the server has or is about to get the cached value of every
intact kind. -/
def Inv (u : Uplink) : Prop :=
  u.handle.isLogged = true → Mirrors.Faithful UpdateBody.kind? u.mirror

theorem Inv.step {u : Uplink} (h : u.Inv) (st : UplinkStep) : (step st u).Inv := by
  intro hlogged
  rw [step_mirror hlogged]
  rcases logged_before hlogged with hbefore | ⟨d, rfl, hd⟩
  · exact Mirrors.after_faithful (h hbefore) _
  · -- Whatever the cache had become, the login starts over.
    simp only [acts, hd, if_true]
    exact Mirrors.after_faithful (Mirrors.restart_faithful u.mirror) _

/-- **The server has been told.** In every state in which the session is logged in and `tx_rb`
is empty, of a kind whose last message since the last login `tx_rb` took and the client sent,
the last update sent carries the cached value. -/
theorem last_sent_is_cached (callback : Bool) (hardwareId : String) (initActiveTime : ActiveTime)
    (mallocLogged : Bool) (txOutcomes : Stream' Bool) (sts : List UplinkStep)
    (kind : UpdateKind) :
    let u := after step (start callback hardwareId initActiveTime mallocLogged txOutcomes) sts
    u.handle.isLogged = true → u.handle.txRb = [] → u.intact kind = true →
      u.lastSent kind = some (u.handle.cached kind) := by
  intro u hlogged hempty hintact
  have h0 : Inv (start callback hardwareId initActiveTime mallocLogged txOutcomes) :=
    fun _ _ h => absurd h Bool.false_ne_true
  have hu : Inv u := after_invariant (fun st _ h => h.step st) h0
  have hq : u.mirror.queue = [] := by
    show u.handle.txRb.map (·.body) = []
    rw [hempty, List.map_nil]
  exact Mirrors.faithful_sent (hu hlogged) hq hintact

/-! ## A value the server is not told -/

/-- A login, and its three updates sent. -/
def loggedRun : List UplinkStep :=
  [.call .connected, .call (.process (.loginResponse ⟨some ⟨"", 0⟩⟩)), .send true, .send true,
    .send true]

def switchedRun : List UplinkStep := loggedRun ++ [.call (.update (.powerState true))]

/-- The handle in memory that reads as zero. -/
def startZero (txOutcomes : Stream' Bool) : Uplink :=
  start true "" ⟨0, 0, 0, 0⟩ false txOutcomes

/-- The light switched on and the update sent. -/
def toldRun : Uplink :=
  after step (startZero (Stream'.const true)) (switchedRun ++ [.send true])

/-- The update leaves, and the server has the cached state. -/
theorem last_sent_is_cached_switched :
    toldRun.handle.isLogged = true ∧ toldRun.handle.txRb = [] ∧
      toldRun.intact .powerState = true ∧
      toldRun.lastSent .powerState = some (toldRun.handle.cached .powerState) := by
  have hlogged : toldRun.handle.isLogged = true := by decide
  have hempty : toldRun.handle.txRb = [] := by decide
  have hintact : toldRun.intact .powerState = true := by decide
  have htold := last_sent_is_cached true "" ⟨0, 0, 0, 0⟩ false (Stream'.const true)
    (switchedRun ++ [.send true]) .powerState
  exact ⟨hlogged, hempty, hintact, htold hlogged hempty hintact⟩

/-- The update fails to leave, or `tx_rb` refuses it: logged in with nothing waiting, the
light is on and the server was last told that it is off. -/
theorem lost_update_not_sent :
    (let u := after step (startZero (Stream'.const true)) (switchedRun ++ [.send false])
     u.handle.isLogged = true ∧ u.handle.txRb = [] ∧
       u.lastSent .powerState = some (.powerState false) ∧
       u.handle.cached .powerState = .powerState true) ∧
    (let u := after step (startZero fun n => n ≠ 3) switchedRun
     u.handle.isLogged = true ∧ u.handle.txRb = [] ∧
       u.lastSent .powerState = some (.powerState false) ∧
       u.handle.cached .powerState = .powerState true) := by
  decide

end Uplink

end Lighting
