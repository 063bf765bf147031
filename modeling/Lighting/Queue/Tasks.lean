import Lighting.Queue.Fifo

/-!
# Tasks that wait for the ring buffer

The waiting of `xRingbufferSend`, `prvReceiveGeneric` and `vRingbufferReturnItem` around their
critical sections: two binary semaphores, given and taken outside of them. Any number of tasks
send; one receives, which is how both queues of the websocket client are used
(`_rx_process_task`, `_app_ws_sending_data`). Steps come in any order, and a wait may run out of
time at any moment.

One receiver has one item at a time, so the queue works in every run (`tasks_queue`), and it
never comes to a stop: while a task waits to send or an item waits to be received, some task can
go on (`tasks_go_on`).
-/

set_option autoImplicit false

namespace Lighting.Queue

open ByteMemory CString Arcs Parcel Runs Lending

/-- Where a task is in `xRingbufferSend`. -/
inductive Sender where
  | idle
  /-- At `xSemaphoreTake` of the semaphore for sending. -/
  | waiting (pvItem : Bytes)
  /-- It has the semaphore and is before the critical section. -/
  | entering (pvItem : Bytes)
  /-- The item is copied; what is left is to give one semaphore, and the other if
  `xReturnSemaphore` says so. -/
  | sent (xReturnSemaphore : Bool)
  | told (xReturnSemaphore : Bool)
  /-- A check has failed. -/
  | aborted
  deriving DecidableEq, Repr

/-- Where the receiving task is. -/
inductive Receiver where
  | idle
  /-- At `xSemaphoreTake` of the semaphore for receiving. -/
  | waiting
  | entering
  /-- It has the item and is still in `prvReceiveGeneric`. -/
  | got (pvItem : Nat) (xReturnSemaphore : Bool)
  /-- Between `xRingbufferReceive` and `vRingbufferReturnItem`. -/
  | holding (pvItem : Nat)
  /-- The item is returned; the semaphore for sending is still to be given. -/
  | returned
  | aborted
  deriving DecidableEq, Repr

structure Tasks where
  used : Used
  txSem : Bool
  rxSem : Bool
  senders : Nat → Sender
  receiver : Receiver

def Tasks.start (memory : Mem) (xBufferSize : Nat) : Tasks where
  used := .start memory xBufferSize
  txSem := true
  rxSem := false
  senders := fun _ => .idle
  receiver := .idle

inductive Turn where
  /-- A task calls `xRingbufferSend`. -/
  | call (task : Nat) (pvItem : Bytes)
  | sender (task : Nat) (timesOut : Bool)
  | receiver (timesOut : Bool)
  deriving DecidableEq, Repr

def Tasks.setSender (s : Tasks) (task : Nat) (p : Sender) : Tasks :=
  { s with senders := fun i => if i = task then p else s.senders i }

/-- `if (prvGetFreeSize(pxRingbuffer) > 0) xReturnSemaphore = pdTRUE;` -/
def afterCopy (used : Used) : Sender :=
  match used.bind fun p => prvGetFreeSize p.1 with
  | some xFreeSize => .sent (0 < xFreeSize)
  | none => .aborted

/-- `if (pxRingbuffer->xItemsWaiting > 0) xReturnSemaphore = pdTRUE;` -/
def afterGet (used : Used) (pvItem : Nat) : Receiver :=
  match used with
  | some (rb, _) => .got pvItem (0 < rb.xItemsWaiting)
  | none => .aborted

def Tasks.stepSender (task : Nat) (timesOut : Bool) (s : Tasks) : Tasks :=
  match s.senders task with
  | .idle => s
  | .aborted => s
  | .waiting pvItem =>
    if timesOut then s.setSender task .idle
    else if s.txSem then { s.setSender task (.entering pvItem) with txSem := false }
    else s
  | .entering pvItem =>
    let used := use (.send pvItem) s.used
    match event (.send pvItem) s.used with
    | some (.put _) => { s.setSender task (afterCopy used) with used := used }
    | some _ => { s.setSender task (.waiting pvItem) with used := used }
    | none => { s.setSender task .aborted with used := used }
  | .sent xReturnSemaphore =>
    { s.setSender task (.told xReturnSemaphore) with rxSem := true }
  | .told xReturnSemaphore =>
    { s.setSender task .idle with txSem := s.txSem || xReturnSemaphore }

def Tasks.stepReceiver (timesOut : Bool) (s : Tasks) : Tasks :=
  match s.receiver with
  | .idle => { s with receiver := .waiting }
  | .aborted => s
  | .waiting =>
    if timesOut then { s with receiver := .idle }
    else if s.rxSem then { s with receiver := .entering, rxSem := false }
    else s
  | .entering =>
    let used := use .receive s.used
    match event .receive s.used with
    | some (.take pvItem _) => { s with receiver := afterGet used pvItem, used := used }
    | some _ => { s with receiver := .waiting, used := used }
    | none => { s with receiver := .aborted, used := used }
  | .got pvItem xReturnSemaphore =>
    { s with receiver := .holding pvItem, rxSem := s.rxSem || xReturnSemaphore }
  | .holding pvItem =>
    let used := use (.giveBack pvItem) s.used
    if used.isSome then { s with receiver := .returned, used := used }
    else { s with receiver := .aborted, used := used }
  | .returned => { s with receiver := .idle, txSem := true }

/-- An item larger than `xMaxItemSize` is refused before anything else. -/
def Tasks.call (task : Nat) (pvItem : Bytes) (s : Tasks) : Tasks :=
  match s.senders task, s.used with
  | .idle, some (rb, _) =>
    if rb.xMaxItemSize < pvItem.length then s else s.setSender task (.waiting pvItem)
  | _, _ => s

def Tasks.step : Turn → Tasks → Tasks
  | .call task pvItem, s => s.call task pvItem
  | .sender task timesOut, s => s.stepSender task timesOut
  | .receiver timesOut, s => s.stepReceiver timesOut

/-- The critical section a turn is. -/
def Tasks.act : Turn → Tasks → Option Call
  | .call _ _, _ => none
  | .sender task _, s =>
    match s.senders task with
    | .entering pvItem => some (.send pvItem)
    | _ => none
  | .receiver _, s =>
    match s.receiver with
    | .entering => some .receive
    | .holding pvItem => some (.giveBack pvItem)
    | _ => none

/-- A turn does to the buffer what its critical section does. -/
theorem used_step (t : Turn) (s : Tasks) :
    (Tasks.step t s).used = perform use (Tasks.act t s) s.used := by
  cases t with
  | call task pvItem =>
    show (s.call task pvItem).used = s.used
    unfold Tasks.call
    split
    · split <;> rfl
    · rfl
  | sender task timesOut =>
    show (s.stepSender task timesOut).used = perform use (match s.senders task with
      | .entering pvItem => some (.send pvItem)
      | _ => none) s.used
    unfold Tasks.stepSender
    cases s.senders task with
    | entering pvItem =>
      dsimp only
      split <;> rfl
    | waiting pvItem =>
      dsimp only
      split
      · rfl
      · split <;> rfl
    | _ => rfl
  | receiver timesOut =>
    show (s.stepReceiver timesOut).used = perform use (match s.receiver with
      | .entering => some .receive
      | .holding pvItem => some (.giveBack pvItem)
      | _ => none) s.used
    unfold Tasks.stepReceiver
    cases s.receiver with
    | entering =>
      dsimp only
      split <;> rfl
    | holding pvItem =>
      dsimp only
      split <;> rfl
    | waiting =>
      dsimp only
      split
      · rfl
      · split <;> rfl
    | _ => rfl

/-! ## What holds between the steps -/

/-- The item the receiving task has. -/
def Receiver.item? : Receiver → Option Nat
  | .got pvItem _ => some pvItem
  | .holding pvItem => some pvItem
  | _ => none

/-- The task will give the semaphore for sending, or take the buffer as far as it goes. -/
def Sender.HasTx (p : Sender) : Prop :=
  (∃ pvItem, p = .entering pvItem) ∨ p = .sent true ∨ p = .told true

def Sender.IsSent (p : Sender) : Prop := ∃ xReturnSemaphore, p = .sent xReturnSemaphore

/-- The item a task is about to send. -/
def Sender.item? : Sender → Option Bytes
  | .waiting pvItem => some pvItem
  | .entering pvItem => some pvItem
  | _ => none

/-- `rx` and `tx` say where each semaphore is while there is something to receive, or anything
at all to be waited for. -/
structure Synced (s : Tasks) (rb : Ringbuffer) (q : Account Nat Bytes) : Prop where
  used : s.used = some (rb, q)
  holds : Holds rb q
  lent : q.lent.map Prod.fst = s.receiver.item?.toList
  items : ∀ i, ∀ pvItem ∈ (s.senders i).item?, pvItem.length ≤ rb.xMaxItemSize
  senders_run : ∀ i, s.senders i ≠ .aborted
  receiver_runs : s.receiver ≠ .aborted
  rx : q.waiting ≠ [] → s.rxSem = true ∨ s.receiver = .entering ∨
    (∃ pvItem, s.receiver = .got pvItem true) ∨ ∃ i, (s.senders i).IsSent
  tx : s.txSem = true ∨ (∃ i, (s.senders i).HasTx) ∨ s.receiver = .returned ∨ q.lent ≠ [] ∨
    q.waiting ≠ []

section steps

variable {s : Tasks} {rb : Ringbuffer} {q : Account Nat Bytes}

theorem senders_setSender (s : Tasks) (task : Nat) (p : Sender) (i : Nat) :
    (s.setSender task p).senders i = if i = task then p else s.senders i := rfl

theorem senders_setSender_self (s : Tasks) (task : Nat) (p : Sender) :
    (s.setSender task p).senders task = p := if_pos rfl

/-- What some task does is still done when another point is reached. -/
theorem exists_setSender {P : Sender → Prop} {task : Nat} {p : Sender}
    (h : ∃ i, P (s.senders i)) (hp : P (s.senders task) → P p) :
    ∃ i, P ((s.setSender task p).senders i) := by
  obtain ⟨i, hi⟩ := h
  by_cases heq : i = task
  · subst heq
    refine ⟨i, ?_⟩
    rw [senders_setSender_self]
    exact hp hi
  · refine ⟨i, ?_⟩
    rw [senders_setSender, if_neg heq]
    exact hi

/-- What holds of all tasks is checked where one of them has gone on. -/
theorem forall_setSender {P : Sender → Prop} {task : Nat} {p : Sender}
    (h : ∀ i, P (s.senders i)) (hp : P p) : ∀ i, P ((s.setSender task p).senders i) := by
  intro i
  rw [senders_setSender]
  split
  · exact hp
  · exact h i

theorem prvGetFreeSize_eq {out due : List Parcel} (h : Laid rb out due) :
    ∃ xFreeSize, prvGetFreeSize rb = some xFreeSize := by
  have hfree := h.free_lt
  have hacquire := h.acquire_lt
  unfold prvGetFreeSize
  dsimp only
  rw [if_pos]
  · exact ⟨_, rfl⟩
  · split
    · omega
    · split <;> omega

/-- The two ways of an attempt to send. -/
theorem send_cases (h : Holds rb q) (pvItem : Bytes) :
    (∃ rb', answer (.send pvItem) rb = some (.put pvItem, rb') ∧
        Holds rb' (book (.put pvItem) q) ∧ rb'.xMaxItemSize = rb.xMaxItemSize) ∨
      answer (.send pvItem) rb = some (.refuse pvItem, rb) ∧
        (pvItem.length ≤ rb.xMaxItemSize → q.lent ≠ [] ∨ q.waiting ≠ []) := by
  obtain ⟨e, rb', hanswer, -, hholds⟩ := answer_send h pvItem
  obtain ⟨out, due, hlaid, hlent, hwaiting⟩ := h
  obtain ⟨sent, rb'', hsend, hmax, hrefused, -⟩ := xRingbufferSend_spec hlaid pvItem
  have hanswer' := hanswer
  unfold answer at hanswer'
  dsimp only at hanswer'
  rw [hsend] at hanswer'
  cases sent with
  | false =>
    obtain ⟨rfl, hsome⟩ := hrefused rfl
    cases hanswer'
    refine .inr ⟨hanswer, ?_⟩
    intro hlen
    rw [hlent, hwaiting]
    cases due with
    | cons x due => exact .inr (List.cons_ne_nil _ _)
    | nil =>
      cases out with
      | nil => exact absurd ⟨rfl, rfl⟩ (hsome hlen)
      | cons x out =>
        left
        rw [lentOf_cons_of_lent out (hlaid.out_head x rfl)]
        exact List.cons_ne_nil _ _
  | true =>
    cases hanswer'
    exact .inl ⟨rb', hanswer, hholds, hmax⟩

/-- A task goes on outside the critical section, and passes on what it would have given. -/
theorem Synced.move (h : Synced s rb q) {task : Nat} {p : Sender} {t r : Bool}
    (hitem : ∀ pvItem ∈ p.item?, pvItem.length ≤ rb.xMaxItemSize) (hruns : p ≠ .aborted)
    (hrx : s.rxSem = true → r = true) (hsent : (s.senders task).IsSent → p.IsSent ∨ r = true)
    (htx : s.txSem = true → t = true ∨ p.HasTx)
    (hhas : (s.senders task).HasTx → p.HasTx ∨ t = true) :
    Synced { s.setSender task p with txSem := t, rxSem := r } rb q where
  used := h.used
  holds := h.holds
  lent := h.lent
  items := forall_setSender (P := fun p => ∀ pvItem ∈ p.item?, pvItem.length ≤ rb.xMaxItemSize)
    h.items hitem
  senders_run := forall_setSender (P := fun p => p ≠ .aborted) h.senders_run hruns
  receiver_runs := h.receiver_runs
  rx := by
    intro hwaiting
    rcases h.rx hwaiting with hsem | hentering | hgot | hsome
    · exact .inl (hrx hsem)
    · exact .inr (.inl hentering)
    · exact .inr (.inr (.inl hgot))
    · by_cases hdone : r = true
      · exact .inl hdone
      · exact .inr (.inr (.inr (exists_setSender hsome fun hp =>
          (hsent hp).resolve_right hdone)))
  tx := by
    have hnew : p.HasTx → ∃ i, ((s.setSender task p).senders i).HasTx :=
      fun hp => ⟨task, by rwa [senders_setSender_self]⟩
    rcases h.tx with hsem | hsome | hrest
    · rcases htx hsem with hdone | hp
      · exact .inl hdone
      · exact .inr (.inl (hnew hp))
    · by_cases hdone : t = true
      · exact .inl hdone
      · exact .inr (.inl (exists_setSender hsome fun hp => (hhas hp).resolve_right hdone))
    · exact .inr (.inr hrest)

theorem synced_call (h : Synced s rb q) (task : Nat) (pvItem : Bytes) :
    Synced (s.call task pvItem) rb q := by
  unfold Tasks.call
  rw [h.used]
  cases hp : s.senders task with
  | idle =>
    dsimp only
    split
    · exact h
    · apply h.move (t := s.txSem) (r := s.rxSem)
      · intro item hitem
        cases hitem
        omega
      · exact Sender.noConfusion
      · exact id
      · intro hsent
        rw [hp] at hsent
        obtain ⟨b, hb⟩ := hsent
        cases hb
      · exact .inl
      · intro hhas
        rw [hp] at hhas
        rcases hhas with ⟨item, hb⟩ | hb | hb <;> cases hb
  | _ => exact h

theorem synced_sender (h : Synced s rb q) (task : Nat) (timesOut : Bool) :
    ∃ rb' q', Synced (s.stepSender task timesOut) rb' q' := by
  unfold Tasks.stepSender
  cases hp : s.senders task with
  | idle => exact ⟨rb, q, h⟩
  | aborted => exact absurd hp (h.senders_run task)
  | waiting pvItem =>
    have hno : ¬(s.senders task).IsSent := by
      rw [hp]
      rintro ⟨b, hb⟩
      cases hb
    have hnone : ¬(s.senders task).HasTx := by
      rw [hp]
      rintro (⟨item, hb⟩ | hb | hb) <;> cases hb
    dsimp only
    split
    · refine ⟨rb, q, h.move (t := s.txSem) (r := s.rxSem) ?_ ?_ id ?_ .inl ?_⟩
      · exact fun item hitem => absurd hitem (Option.not_mem_none item)
      · exact Sender.noConfusion
      · exact fun hsent => absurd hsent hno
      · exact fun hhas => absurd hhas hnone
    · split
      · refine ⟨rb, q, h.move (t := false) (r := s.rxSem) ?_ ?_ id ?_ ?_ ?_⟩
        · intro item hitem
          cases hitem
          exact h.items task pvItem (by rw [hp]; rfl)
        · exact Sender.noConfusion
        · exact fun hsent => absurd hsent hno
        · exact fun _ => .inr (.inl ⟨pvItem, rfl⟩)
        · exact fun hhas => absurd hhas hnone
      · exact ⟨rb, q, h⟩
  | sent b =>
    refine ⟨rb, q, h.move (t := s.txSem) (r := true) ?_ ?_ ?_ ?_ .inl ?_⟩
    · exact fun item hitem => absurd hitem (Option.not_mem_none item)
    · exact Sender.noConfusion
    · exact fun _ => rfl
    · exact fun _ => .inr rfl
    · intro hhas
      rw [hp] at hhas
      rcases hhas with ⟨item, hb⟩ | hb | hb
      · cases hb
      · cases hb
        exact .inl (.inr (.inr rfl))
      · cases hb
  | told b =>
    refine ⟨rb, q, h.move (t := s.txSem || b) (r := s.rxSem) ?_ ?_ id ?_ ?_ ?_⟩
    · exact fun item hitem => absurd hitem (Option.not_mem_none item)
    · exact Sender.noConfusion
    · intro hsent
      rw [hp] at hsent
      obtain ⟨_, hb⟩ := hsent
      cases hb
    · intro hsem
      rw [hsem]
      exact .inl rfl
    · intro hhas
      rw [hp] at hhas
      rcases hhas with ⟨item, hb⟩ | hb | hb
      · cases hb
      · cases hb
      · cases hb
        exact .inr (Bool.or_true _)
  | entering pvItem =>
    dsimp only
    rw [h.used]
    rcases send_cases h.holds pvItem with ⟨rb', hanswer, hholds, hmax⟩ | ⟨hanswer, hsome⟩
    · -- The item is copied, so there is something to receive.
      obtain ⟨out, due, hlaid, -, -⟩ := id hholds
      obtain ⟨xFreeSize, hfree⟩ := prvGetFreeSize_eq hlaid
      have hafter : afterCopy (some (rb', book (.put pvItem) q)) = .sent (0 < xFreeSize) := by
        unfold afterCopy
        rw [Option.bind_some, hfree]
      rw [event_eq hanswer, use_eq hanswer]
      dsimp only
      rw [hafter]
      refine ⟨rb', book (.put pvItem) q, ⟨rfl, hholds, h.lent, ?_, ?_, h.receiver_runs, ?_, ?_⟩⟩
      · rw [hmax]
        exact forall_setSender (P := fun p => ∀ item ∈ p.item?, item.length ≤ rb.xMaxItemSize)
          h.items fun item hitem => absurd hitem (Option.not_mem_none item)
      · exact forall_setSender (P := fun p => p ≠ .aborted) h.senders_run Sender.noConfusion
      · intro _
        refine .inr (.inr (.inr ⟨task, ?_⟩))
        show ((s.setSender task _).senders task).IsSent
        rw [senders_setSender_self]
        exact ⟨_, rfl⟩
      · exact .inr (.inr (.inr (.inr (List.append_ne_nil_of_right_ne_nil _
          (List.cons_ne_nil _ _)))))
    · -- It does not fit, so there is something in the buffer.
      have hlen := h.items task pvItem (by rw [hp]; rfl)
      rw [event_eq hanswer, use_eq hanswer]
      refine ⟨rb, q, ⟨rfl, h.holds, h.lent, ?_, ?_, h.receiver_runs, ?_, ?_⟩⟩
      · exact forall_setSender (P := fun p => ∀ item ∈ p.item?, item.length ≤ rb.xMaxItemSize)
          h.items fun item hitem => by
            cases hitem
            exact hlen
      · exact forall_setSender (P := fun p => p ≠ .aborted) h.senders_run Sender.noConfusion
      · intro hwaiting
        rcases h.rx hwaiting with hsem | hentering | hgot | hsome
        · exact .inl hsem
        · exact .inr (.inl hentering)
        · exact .inr (.inr (.inl hgot))
        · refine .inr (.inr (.inr (exists_setSender hsome fun hsent => ?_)))
          rw [hp] at hsent
          obtain ⟨b, hb⟩ := hsent
          cases hb
      · exact .inr (.inr (.inr (hsome hlen)))

/-- The two ways of an attempt to receive. -/
theorem receive_cases (h : Holds rb q) :
    (q.waiting = [] ∧ answer .receive rb = some (.idle, rb)) ∨
      ∃ item data rb', answer .receive rb = some (.take item data, rb') ∧
        Holds rb' (book (.take item data) q) ∧ rb'.xMaxItemSize = rb.xMaxItemSize := by
  obtain ⟨e, rb1, hanswer, -, hholds⟩ := answer_receive h
  obtain ⟨out, due, hlaid, hlent, hwaiting⟩ := h
  have hanswer' := hanswer
  unfold answer at hanswer'
  dsimp only at hanswer'
  cases due with
  | nil =>
    rw [xRingbufferReceive_nil hlaid] at hanswer'
    cases hanswer'
    exact .inl ⟨hwaiting, hanswer⟩
  | cons x due =>
    rw [xRingbufferReceive_cons hlaid] at hanswer'
    cases hanswer'
    exact .inr ⟨_, _, _, hanswer, hholds, rfl⟩

theorem giveBack_eq (h : Holds rb q) {a : Nat} (hout : q.Out a) (hone : q.lent.length ≤ 1) :
    ∃ rb', answer (.giveBack a) rb = some (.giveBack a, rb') ∧
      Holds rb' (book (.giveBack a) q) ∧ rb'.xMaxItemSize = rb.xMaxItemSize := by
  have hspare : ¬AllOut rb q := fun hall => absurd (Nat.le_trans hall.2.2 hone) (by decide)
  obtain ⟨e, rb', hanswer, -, hholds⟩ := answer_giveBack h hout hspare
  have hanswer' := hanswer
  unfold answer at hanswer'
  dsimp only at hanswer'
  cases hreturn : vRingbufferReturnItem rb a with
  | none =>
    rw [hreturn] at hanswer'
    cases hanswer'
  | some rb1 =>
    rw [hreturn] at hanswer'
    cases hanswer'
    refine ⟨rb', hanswer, hholds, ?_⟩
    unfold vRingbufferReturnItem prvReturnItemDefault at hreturn
    dsimp only at hreturn
    split at hreturn
    · split at hreturn
      · cases hreturn
        rfl
      · cases hreturn
    · cases hreturn

/-- The receiver goes on outside the critical section. -/
theorem Synced.moveReceiver (h : Synced s rb q) {p : Receiver} {t r : Bool}
    (hitem : p.item? = s.receiver.item?) (hruns : p ≠ .aborted)
    (hrx : s.rxSem = true → r = true ∨ p = .entering)
    (hentering : s.receiver ≠ .entering) (hgot : ∀ item, s.receiver = .got item true → r = true)
    (htx : s.txSem = true → t = true) (hreturned : s.receiver = .returned → t = true) :
    Synced { s with receiver := p, txSem := t, rxSem := r } rb q where
  used := h.used
  holds := h.holds
  lent := by
    rw [h.lent]
    exact congrArg Option.toList hitem.symm
  items := h.items
  senders_run := h.senders_run
  receiver_runs := hruns
  rx := by
    intro hwaiting
    rcases h.rx hwaiting with hsem | hin | ⟨item, hitem⟩ | hsome
    · rcases hrx hsem with hdone | hin
      · exact .inl hdone
      · exact .inr (.inl hin)
    · exact absurd hin hentering
    · exact .inl (hgot item hitem)
    · exact .inr (.inr (.inr hsome))
  tx := by
    rcases h.tx with hsem | hsome | hin | hrest
    · exact .inl (htx hsem)
    · exact .inr (.inl hsome)
    · exact .inl (hreturned hin)
    · exact .inr (.inr (.inr hrest))

theorem synced_entering (h : Synced s rb q) (hp : s.receiver = .entering) (timesOut : Bool) :
    ∃ rb' q', Synced (s.stepReceiver timesOut) rb' q' := by
  have hnone : q.lent = [] := by
    have hlent := h.lent
    rw [hp] at hlent
    exact List.map_eq_nil_iff.mp hlent
  unfold Tasks.stepReceiver
  rw [hp]
  dsimp only
  rw [h.used]
  rcases receive_cases h.holds with ⟨hwaiting, hanswer⟩ | ⟨item, data, rb', hanswer, hholds, hmax⟩
  · rw [event_eq hanswer, use_eq hanswer]
    refine ⟨rb, q, ⟨rfl, h.holds, ?_, h.items, h.senders_run, Receiver.noConfusion, ?_, ?_⟩⟩
    · rw [hnone]
      rfl
    · exact fun hne => absurd hwaiting hne
    · rcases h.tx with hsem | hsome | hin | hrest
      · exact .inl hsem
      · exact .inr (.inl hsome)
      · rw [hp] at hin
        cases hin
      · exact .inr (.inr (.inr hrest))
  · obtain ⟨out, due, hlaid, -, hdue⟩ := id hholds
    rw [event_eq hanswer, use_eq hanswer]
    refine ⟨rb', book (.take item data) q,
      ⟨rfl, hholds, ?_, ?_, h.senders_run, Receiver.noConfusion, ?_, ?_⟩⟩
    · show (q.lent ++ [(item, data)]).map Prod.fst = [item]
      rw [hnone]
      rfl
    · rw [hmax]
      exact h.items
    · intro hwaiting
      -- What still waits is counted, so the semaphore will be given again.
      refine .inr (.inr (.inl ⟨item, ?_⟩))
      show Receiver.got item (decide (0 < rb'.xItemsWaiting)) = .got item true
      rw [hlaid.waiting, decide_eq_true]
      apply Int.natCast_pos.mpr
      apply List.length_pos_of_ne_nil
      intro hnil
      rw [hnil] at hdue
      exact hwaiting hdue
    · exact .inr (.inr (.inr (.inl (List.append_ne_nil_of_right_ne_nil _
        (List.cons_ne_nil _ _)))))

theorem synced_holding (h : Synced s rb q) {a : Nat} (hp : s.receiver = .holding a)
    (timesOut : Bool) : ∃ rb' q', Synced (s.stepReceiver timesOut) rb' q' := by
  have hlent : q.lent.map Prod.fst = [a] := by
    rw [h.lent, hp]
    rfl
  obtain ⟨p, hone, ha⟩ := List.map_eq_singleton_iff.mp hlent
  have hout : q.Out a := by
    refine ⟨p.2, ?_⟩
    rw [hone, ← ha]
    exact List.mem_cons_self
  obtain ⟨rb', hanswer, hholds, hmax⟩ :=
    giveBack_eq h.holds hout (by rw [hone]; exact Nat.le_refl 1)
  unfold Tasks.stepReceiver
  rw [hp]
  dsimp only
  rw [h.used, use_eq hanswer]
  refine ⟨rb', book (.giveBack a) q,
    ⟨rfl, hholds, ?_, ?_, h.senders_run, Receiver.noConfusion, ?_, ?_⟩⟩
  · show (q.lent.filter fun p => p.1 ≠ a).map Prod.fst = []
    rw [hone, List.filter_cons_of_neg (by simp [ha])]
    rfl
  · rw [hmax]
    exact h.items
  · intro hwaiting
    rcases h.rx hwaiting with hsem | hin | ⟨item, hgot⟩ | hsome
    · exact .inl hsem
    · rw [hp] at hin
      cases hin
    · rw [hp] at hgot
      cases hgot
    · exact .inr (.inr (.inr hsome))
  · exact .inr (.inr (.inl rfl))

theorem synced_receiver (h : Synced s rb q) (timesOut : Bool) :
    ∃ rb' q', Synced (s.stepReceiver timesOut) rb' q' := by
  cases hp : s.receiver with
  | aborted => exact absurd hp h.receiver_runs
  | entering => exact synced_entering h hp timesOut
  | holding a => exact synced_holding h hp timesOut
  | idle =>
    unfold Tasks.stepReceiver
    rw [hp]
    refine ⟨rb, q, h.moveReceiver ?_ Receiver.noConfusion .inl ?_ ?_ id ?_⟩ <;> rw [hp]
    · rfl
    · exact Receiver.noConfusion
    · exact fun item hgot => Receiver.noConfusion hgot
    · exact Receiver.noConfusion
  | waiting =>
    unfold Tasks.stepReceiver
    rw [hp]
    dsimp only
    split
    · refine ⟨rb, q, h.moveReceiver ?_ Receiver.noConfusion .inl ?_ ?_ id ?_⟩ <;> rw [hp]
      · rfl
      · exact Receiver.noConfusion
      · exact fun item hgot => Receiver.noConfusion hgot
      · exact Receiver.noConfusion
    · split
      · refine ⟨rb, q, h.moveReceiver ?_ Receiver.noConfusion (fun _ => .inr rfl) ?_ ?_ id ?_⟩ <;>
          rw [hp]
        · rfl
        · exact Receiver.noConfusion
        · exact fun item hgot => Receiver.noConfusion hgot
        · exact Receiver.noConfusion
      · exact ⟨rb, q, h⟩
  | got a b =>
    unfold Tasks.stepReceiver
    rw [hp]
    refine ⟨rb, q, h.moveReceiver ?_ Receiver.noConfusion ?_ ?_ ?_ id ?_⟩
    · rw [hp]
      rfl
    · intro hsem
      rw [hsem]
      exact .inl rfl
    · rw [hp]
      exact Receiver.noConfusion
    · intro item hgot
      rw [hp] at hgot
      cases hgot
      exact Bool.or_true _
    · rw [hp]
      exact Receiver.noConfusion
  | returned =>
    unfold Tasks.stepReceiver
    rw [hp]
    refine ⟨rb, q,
      h.moveReceiver ?_ Receiver.noConfusion .inl ?_ ?_ (fun _ => rfl) fun _ => rfl⟩ <;>
      rw [hp]
    · rfl
    · exact Receiver.noConfusion
    · exact fun item hgot => Receiver.noConfusion hgot

/-- Every task runs, on a buffer with its account. -/
def Tasks.Runs (s : Tasks) : Prop := ∃ rb q, Synced s rb q

theorem runs_step (t : Turn) (s : Tasks) (h : s.Runs) : (Tasks.step t s).Runs := by
  obtain ⟨rb, q, h⟩ := h
  cases t with
  | call task pvItem => exact ⟨rb, q, synced_call h task pvItem⟩
  | sender task timesOut => exact synced_sender h task timesOut
  | receiver timesOut => exact synced_receiver h timesOut

/-- The receiver returns the item it has, and has only one. -/
theorem act_owned (h : Synced s rb q) {t : Turn} {c : Call} (hact : c ∈ Tasks.act t s) :
    Owned c s.used ∧ Spared c s.used := by
  have hone : ∀ a, c = .giveBack a → s.receiver = .holding a := by
    intro a ha
    subst ha
    unfold Tasks.act at hact
    cases t with
    | call task pvItem => cases hact
    | sender task timesOut =>
      dsimp only at hact
      split at hact <;> cases hact
    | receiver timesOut =>
      dsimp only at hact
      split at hact
      · cases hact
      · rename_i hp
        cases hact
        exact hp
      · cases hact
  have hlent : ∀ a, c = .giveBack a → q.lent.map Prod.fst = [a] := by
    intro a ha
    rw [h.lent, hone a ha]
    rfl
  constructor
  · intro a ha p hp
    rw [h.used] at hp
    cases hp
    obtain ⟨x, hx, hfst⟩ := List.map_eq_singleton_iff.mp (hlent a ha)
    refine ⟨x.2, ?_⟩
    show (a, x.2) ∈ q.lent
    rw [hx, ← hfst]
    exact List.mem_cons_self
  · intro hgive p hp hall
    obtain ⟨a, ha⟩ := hgive
    rw [h.used] at hp
    cases hp
    have hlen := congrArg List.length (hlent a ha)
    rw [List.length_map] at hlen
    have htwo := hall.2.2
    rw [hlen] at htwo
    exact absurd htwo (Nat.not_succ_le_self 1)

end steps

/-! ## Every order of steps -/

/-- What the critical sections of a run answer, in order. -/
def Tasks.events (s : Tasks) (turns : List Turn) : List (Lending.Event Nat Bytes) :=
  outputs use event s.used (outputs Tasks.step Tasks.act s turns)

theorem synced_start (memory : Mem) {xBufferSize : Nat} (hge : 9 ≤ xBufferSize)
    (hlt : xBufferSize < 2 ^ 31 - 3) :
    Synced (.start memory xBufferSize) (xRingbufferCreate memory xBufferSize) .empty where
  used := rfl
  holds := ⟨[], [], laid_create memory hge hlt, rfl, rfl⟩
  lent := rfl
  items := fun _ pvItem hitem => absurd hitem (Option.not_mem_none pvItem)
  senders_run := fun _ => Sender.noConfusion
  receiver_runs := Receiver.noConfusion
  rx := fun hwaiting => absurd rfl hwaiting
  tx := .inl rfl

/-- The critical sections of a run are calls as the buffer asks for: what is returned is had, and
nothing is returned while several items are out. -/
theorem tasks_calls (memory : Mem) {xBufferSize : Nat} (hge : 9 ≤ xBufferSize)
    (hlt : xBufferSize < 2 ^ 31 - 3) (turns : List Turn) :
    (after Tasks.step (.start memory xBufferSize) turns).used =
        after use (.start memory xBufferSize)
          (outputs Tasks.step Tasks.act (.start memory xBufferSize) turns) ∧
      Along use Owned (.start memory xBufferSize)
        (outputs Tasks.step Tasks.act (.start memory xBufferSize) turns) ∧
      Along use Spared (.start memory xBufferSize)
        (outputs Tasks.step Tasks.act (.start memory xBufferSize) turns) := by
  have hsynced : (Tasks.start memory xBufferSize).Runs := ⟨_, _, synced_start memory hge hlt⟩
  have halong : Along Tasks.step (fun t s => ∀ c ∈ Tasks.act t s, Owned c s.used ∧
      Spared c s.used) (.start memory xBufferSize) turns := by
    apply along_of_invariant runs_step _ hsynced
    intro t s h c hact
    obtain ⟨rb, q, h⟩ := h
    exact act_owned h hact
  have hcalls := (along_simulates used_step (fun c s => Owned c s ∧ Spared c s) _ turns).mp halong
  exact ⟨after_simulates used_step _ turns, along_and.mp hcalls⟩

/-- **The tasks share one queue.** Any number of tasks send and one receives, in any order of
steps. No check of the code fails, what was received, followed by what waits, is what was
accepted, in the order it was accepted in, and what the receiver has is there as it was sent. -/
theorem tasks_queue (memory : Mem) {xBufferSize : Nat} (hge : 9 ≤ xBufferSize)
    (hlt : xBufferSize < 2 ^ 31 - 3) (turns : List Turn) :
    ∃ rb q, (after Tasks.step (.start memory xBufferSize) turns).used = some (rb, q) ∧
      takens (Tasks.events (.start memory xBufferSize) turns) ++ q.waiting =
        puts (Tasks.events (.start memory xBufferSize) turns) ∧
      (∀ i, (after Tasks.step (.start memory xBufferSize) turns).senders i ≠ .aborted) ∧
      (after Tasks.step (.start memory xBufferSize) turns).receiver ≠ .aborted ∧
      q.lent.length ≤ 1 ∧ ∀ p ∈ q.lent, bytesAt rb.storage p.1 p.2.length = p.2 := by
  have h0 := synced_start memory hge hlt
  have hsynced : (Tasks.start memory xBufferSize).Runs := ⟨_, _, h0⟩
  obtain ⟨hcalls, howned, hspare⟩ := tasks_calls memory hge hlt turns
  obtain ⟨rb, hafter, hholds, hhonest⟩ := holds_after h0.holds howned hspare
  have hruns : (after Tasks.step (.start memory xBufferSize) turns).Runs :=
    after_invariant runs_step hsynced
  obtain ⟨rb', q', h⟩ := hruns
  have hused := h.used
  rw [hcalls] at hused
  have hsame := hused.symm.trans hafter
  cases hsame
  refine ⟨rb, _, h.used, taken_append_waiting hhonest, h.senders_run, h.receiver_runs, ?_,
    fun p hp => bytesAt_lent hholds hp⟩
  rw [← List.length_map Prod.fst, h.lent]
  exact Option.length_toList_le

/-- The receiver waits while a task sends, and returns what it got. -/
def sendAndReceive : List Turn :=
  [.receiver false, .call 3 [7], .sender 3 false, .sender 3 false, .sender 3 false,
    .receiver false, .receiver false, .receiver false, .sender 3 false, .receiver false]

theorem tasks_queue_sendAndReceive :
    ∃ rb q, (after Tasks.step (.start ⟨fun _ => 0⟩ 64) sendAndReceive).used = some (rb, q) ∧
      takens (Tasks.events (.start ⟨fun _ => 0⟩ 64) sendAndReceive) ++ q.waiting =
        puts (Tasks.events (.start ⟨fun _ => 0⟩ 64) sendAndReceive) ∧
      (∀ i, (after Tasks.step (.start ⟨fun _ => 0⟩ 64) sendAndReceive).senders i ≠ .aborted) ∧
      (after Tasks.step (.start ⟨fun _ => 0⟩ 64) sendAndReceive).receiver ≠ .aborted ∧
      q.lent.length ≤ 1 ∧ ∀ p ∈ q.lent, bytesAt rb.storage p.1 p.2.length = p.2 :=
  tasks_queue ⟨fun _ => 0⟩ (by decide) (by decide) sendAndReceive

/-- No task can go on unless a wait runs out of time or a new message comes. -/
def Tasks.AtRest (s : Tasks) : Prop :=
  (∀ i, s.senders i = .idle ∨ (∃ pvItem, s.senders i = .waiting pvItem) ∧ s.txSem = false) ∧
    s.receiver = .waiting ∧ s.rxSem = false

/-- **No wake-up is lost.** Whatever the order of steps was, when all tasks are at rest no one
waits to send, and nothing is left in the buffer. -/
theorem tasks_go_on (memory : Mem) {xBufferSize : Nat} (hge : 9 ≤ xBufferSize)
    (hlt : xBufferSize < 2 ^ 31 - 3) (turns : List Turn)
    (hrest : (after Tasks.step (.start memory xBufferSize) turns).AtRest) :
    (∀ i, (after Tasks.step (.start memory xBufferSize) turns).senders i = .idle) ∧
      ∃ rb, (after Tasks.step (.start memory xBufferSize) turns).used = some (rb, .empty) := by
  have hsynced : (Tasks.start memory xBufferSize).Runs := ⟨_, _, synced_start memory hge hlt⟩
  have hruns : (after Tasks.step (.start memory xBufferSize) turns).Runs :=
    after_invariant runs_step hsynced
  obtain ⟨rb, q, h⟩ := hruns
  obtain ⟨hsenders, hreceiver, hsem⟩ := hrest
  have hno : ∀ {P : Sender → Prop}, ¬P .idle → (∀ pvItem, ¬P (.waiting pvItem)) →
      ¬∃ i, P ((after Tasks.step (.start memory xBufferSize) turns).senders i) := by
    intro P hidle hwaiting hsome
    obtain ⟨i, hi⟩ := hsome
    rcases hsenders i with hp | ⟨⟨pvItem, hp⟩, -⟩
    · rw [hp] at hi
      exact hidle hi
    · rw [hp] at hi
      exact hwaiting pvItem hi
  have hlent : q.lent = [] := by
    have hitem := h.lent
    rw [hreceiver] at hitem
    exact List.map_eq_nil_iff.mp hitem
  have hwaiting : q.waiting = [] := by
    by_contra hne
    rcases h.rx hne with hgiven | hin | ⟨item, hgot⟩ | hsent
    · rw [hsem] at hgiven
      exact Bool.false_ne_true hgiven
    · rw [hreceiver] at hin
      cases hin
    · rw [hreceiver] at hgot
      cases hgot
    · refine hno ?_ ?_ hsent
      · intro hidle
        obtain ⟨b, hb⟩ := hidle
        cases hb
      · intro pvItem hwait
        obtain ⟨b, hb⟩ := hwait
        cases hb
  have htx : (after Tasks.step (.start memory xBufferSize) turns).txSem = true := by
    rcases h.tx with hgiven | hsome | hin | hne | hne
    · exact hgiven
    · refine absurd hsome (hno ?_ ?_)
      · intro hidle
        rcases hidle with ⟨item, hb⟩ | hb | hb <;> cases hb
      · intro pvItem hwait
        rcases hwait with ⟨item, hb⟩ | hb | hb <;> cases hb
    · rw [hreceiver] at hin
      cases hin
    · exact absurd hlent hne
    · exact absurd hwaiting hne
  constructor
  · intro i
    rcases hsenders i with hidle | ⟨-, hnone⟩
    · exact hidle
    · rw [htx] at hnone
      cases hnone
  · refine ⟨rb, ?_⟩
    rw [h.used]
    obtain ⟨lent, waiting⟩ := q
    cases hlent
    cases hwaiting
    rfl

theorem tasks_go_on_nothing_sent :
    (∀ i, (after Tasks.step (.start ⟨fun _ => 0⟩ 64) [.receiver false]).senders i = .idle) ∧
      ∃ rb, (after Tasks.step (.start ⟨fun _ => 0⟩ 64) [.receiver false]).used =
        some (rb, .empty) :=
  tasks_go_on ⟨fun _ => 0⟩ (by decide) (by decide) [.receiver false]
    ⟨fun _ => .inl rfl, rfl, rfl⟩

end Lighting.Queue
