import Lighting.Lib.Runs
import Lighting.Model.Pppos

/-!
# Which address ends a connection attempt

The flag `is_connected` and the bit `CONNECT_BIT` record the same event. The flag follows the
connection; the bit is set by every address and cleared by the wait of an attempt only. While
the device sleeps, connected, nobody waits: an address that comes then leaves its bit to the
next attempt, whose wait returns at once.

`attempts_own_iff` is the exact condition on the order of the events. `Attempt` keeps it: has
an address come since the last wait returned and before the attachment, and has one come since
the attachment.
-/

set_option autoImplicit false

namespace Lighting

open Runs

/-- The two parties, and what is needed to speak about an attempt: whether one was made, and
whether a `GOT_IP` came since its attachment, or between the return of the last wait and the
attachment. -/
structure Attempt where
  ppp : Ppp
  attached : Bool
  since : Bool
  between : Bool
  deriving DecidableEq, Repr

namespace Attempt

def start : Attempt := ⟨Ppp.start, false, false, false⟩

/-- The wait of the attempt returns in this step. -/
def Returns (s : PppStep) (a : Attempt) : Prop :=
  (∃ initOk, s = .task initOk) ∧ a.ppp.point = .waiting ∧ a.ppp.connectBit = true

def step (s : PppStep) (a : Attempt) : Attempt :=
  let a' := { a with ppp := a.ppp.step s }
  match s, a.ppp.point with
  | .gotIp, .waiting => { a' with since := true }
  | .gotIp, _ => { a' with since := true, between := true }
  | .lostIp, _ => a'
  | .task _, .attaching => { a' with attached := true, since := false }
  | .task _, .waiting => if a.ppp.connectBit then { a' with between := false } else a'
  | .task _, _ => a'

/-- A wait returns after an address of its own attempt only, and the modem is not initialised
while an attempt is pending. -/
structure Own (s : PppStep) (a : Attempt) : Prop where
  wait : Returns s a → a.since = true
  init : (∃ initOk, s = .task initOk) → a.ppp.point = .initialising → a.attached = true →
    a.since = true

/-- No address between two attempts, unless the later attempt has got one of its own by the
time it waits. -/
def NotBetween (s : PppStep) (a : Attempt) : Prop :=
  (∃ initOk, s = .task initOk) → a.ppp.point = .waiting → a.between = true → a.since = true

/-- The bit is what has come since the last wait returned, and an attempt that is no longer
waited for has got its address. -/
structure Inv (a : Attempt) : Prop where
  bit : a.ppp.connectBit = true ↔ a.between = true ∨ a.ppp.point = .waiting ∧ a.since = true
  done : a.ppp.point ≠ .waiting → a.attached = true → a.since = true

variable {a : Attempt}

theorem start_inv : start.Inv := ⟨by decide, by decide⟩

theorem own_iff (h : a.Inv) (s : PppStep) : Own s a ↔ NotBetween s a := by
  constructor
  · intro hown htask hpoint hbetween
    exact hown.wait ⟨htask, hpoint, h.bit.mpr (Or.inl hbetween)⟩
  · intro hnot
    constructor
    · intro hreturns
      obtain ⟨htask, hpoint, hbit⟩ := hreturns
      rcases h.bit.mp hbit with hbetween | ⟨-, hsince⟩
      · exact hnot htask hpoint hbetween
      · exact hsince
    · intro _ hpoint hattached
      exact h.done (by rw [hpoint]; exact PppPoint.noConfusion) hattached

/-! ## One step -/

/-- An address. -/
theorem gotIp_inv (h : a.Inv) : (step .gotIp a).Inv := by
  obtain ⟨⟨isConnected, connectBit, point⟩, attached, since, between⟩ := a
  cases point with
  | waiting => exact ⟨⟨fun _ => Or.inr ⟨rfl, rfl⟩, fun _ => rfl⟩, fun hne => absurd rfl hne⟩
  | _ => exact ⟨⟨fun _ => Or.inl rfl, fun _ => rfl⟩, fun _ _ => rfl⟩

/-- A lost address clears the flag only. -/
theorem lostIp_inv (h : a.Inv) : (step .lostIp a).Inv := by
  obtain ⟨⟨isConnected, connectBit, point⟩, attached, since, between⟩ := a
  exact ⟨h.bit, h.done⟩

/-- Elsewhere than at the attachment and the wait, the task only moves on. -/
theorem task_moves (hattach : a.ppp.point ≠ .attaching) (hwait : a.ppp.point ≠ .waiting)
    (initOk : Bool) : ∃ point, point ≠ .waiting ∧
      step (.task initOk) a = { a with ppp := { a.ppp with point := point } } := by
  obtain ⟨⟨isConnected, connectBit, point⟩, attached, since, between⟩ := a
  cases point with
  | testing =>
    refine ⟨if isConnected then .sleeping else .initialising, ?_, rfl⟩
    split
    · exact PppPoint.noConfusion
    · exact PppPoint.noConfusion
  | initialising =>
    refine ⟨if initOk then .attaching else .retrying, ?_, rfl⟩
    split
    · exact PppPoint.noConfusion
    · exact PppPoint.noConfusion
  | sleeping => exact ⟨.testing, PppPoint.noConfusion, rfl⟩
  | retrying => exact ⟨.testing, PppPoint.noConfusion, rfl⟩
  | attaching => exact absurd rfl hattach
  | waiting => exact absurd rfl hwait

theorem Inv.move (h : a.Inv) {point : PppPoint} (hfrom : a.ppp.point ≠ .waiting)
    (hto : point ≠ .waiting) : Inv { a with ppp := { a.ppp with point := point } } where
  bit := by
    rw [h.bit]
    exact or_congr_right ⟨fun hw => absurd hw.1 hfrom, fun hw => absurd hw.1 hto⟩
  done := fun _ => h.done hfrom

/-- The attachment begins an attempt: what has come so far came before it. -/
theorem attach_inv (h : a.Inv) (hpoint : a.ppp.point = .attaching) (initOk : Bool) :
    (step (.task initOk) a).Inv := by
  have hstep : step (.task initOk) a = { a with
      ppp := { a.ppp with point := .waiting }, attached := true, since := false } := by
    simp [step, Ppp.step, pppTask, hpoint]
  rw [hstep]
  refine ⟨?_, fun hne => absurd rfl hne⟩
  have hbit := h.bit
  rw [hpoint] at hbit
  simpa using hbit

/-- The wait takes the bit with it, and what it stood for. -/
theorem wait_inv (h : a.Inv) (hpoint : a.ppp.point = .waiting) {initOk : Bool}
    (hown : Own (.task initOk) a) : (step (.task initOk) a).Inv := by
  cases hbit : a.ppp.connectBit with
  | true =>
    have hstep : step (.task initOk) a = { a with
        ppp := { a.ppp with connectBit := false, point := .testing }, between := false } := by
      simp [step, Ppp.step, pppTask, hpoint, hbit]
    rw [hstep]
    exact ⟨by simp, fun _ _ => hown.wait ⟨⟨initOk, rfl⟩, hpoint, hbit⟩⟩
  | false =>
    have hstep : step (.task initOk) a = a := by
      simp [step, Ppp.step, pppTask, hpoint, hbit]
    rw [hstep]
    exact h

theorem task_inv (h : a.Inv) {initOk : Bool} (hown : Own (.task initOk) a) :
    (step (.task initOk) a).Inv := by
  by_cases hattach : a.ppp.point = .attaching
  · exact attach_inv h hattach initOk
  by_cases hwait : a.ppp.point = .waiting
  · exact wait_inv h hwait hown
  obtain ⟨point, hto, hstep⟩ := task_moves hattach hwait initOk
  rw [hstep]
  exact h.move hwait hto

theorem step_inv (h : a.Inv) {s : PppStep} (hown : Own s a) : (step s a).Inv := by
  cases s with
  | task initOk => exact task_inv h hown
  | gotIp => exact gotIp_inv h
  | lostIp => exact lostIp_inv h

end Attempt

/-- **A connection attempt is ended only by its own address**, and the modem is never
initialised while the attempt just made is pending, over any order of the events and any number
of attempts, exactly if no address comes between the return of one wait and the attachment of
the next attempt — or that attempt has got another one when it waits. -/
theorem attempts_own_iff (ss : List PppStep) :
    Along Attempt.step Attempt.Own .start ss ↔ Along Attempt.step Attempt.NotBetween .start ss := by
  -- The same run on both sides, and the invariant as long as the attempts are their own.
  have hiff : ∀ s a b, a = b ∧ Attempt.Inv a → (Attempt.Own s a ↔ Attempt.NotBetween s b) := by
    rintro s a b ⟨rfl, h⟩
    exact Attempt.own_iff h s
  have hnext : ∀ s a b, a = b ∧ Attempt.Inv a → Attempt.Own s a →
      Attempt.step s a = Attempt.step s b ∧ Attempt.Inv (Attempt.step s a) := by
    rintro s a b ⟨rfl, h⟩ hown
    exact ⟨rfl, Attempt.step_inv h hown⟩
  exact along_lockstep hiff hnext ⟨rfl, Attempt.start_inv⟩

/-- Connected, the device sleeps; the address is lost and comes back, and is lost again. The
next attempt ends at once, without an address. -/
def reconnectRun : List PppStep :=
  [.task true, .task true, .task true, .gotIp, .task true, .task true, .lostIp, .gotIp, .lostIp,
    .task true, .task true, .task true, .task true, .task true]

theorem attempts_not_own : ¬Along Attempt.step Attempt.Own .start reconnectRun := by
  rw [along_iff_inputs]
  intro h
  have hown := h (reconnectRun.take 13) (.task true) (by decide)
  exact absurd (hown.wait ⟨⟨true, rfl⟩, by decide, by decide⟩) (by decide)

end Lighting
