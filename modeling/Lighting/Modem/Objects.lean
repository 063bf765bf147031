import Mathlib.Data.Finset.Card
import Lighting.Lib.Runs
import Lighting.Model.Objects

/-!
# Which modem objects are used, and how many there are

An object is bound to the DTE from its `calloc` on, and stays bound when `bg96_init` frees it
after a command that failed: the next write, in `sim7600_init` itself, goes to freed memory.
`objects_owned_iff` says that this, and a `calloc` that fails before there has been any object, are
the only ways to go wrong.

Nor is an object freed when the connection is lost and the next one is made. Every attachment
leaves one behind (`attaches_leak`), so with room for `n` of them the device attaches `n` times.
-/

set_option autoImplicit false

namespace Lighting.ModemObjects

open Runs

/-- Nothing was read or written that is not an object. -/
def Owned (s : ModemObjects) : Prop := s.wild = false

/-- `calloc` answers memory that is free. -/
def Fresh (t : ObjectStep) (s : ModemObjects) : Prop :=
  ∀ object ∈ t.calloc, object ∉ s.live

instance (t : ObjectStep) (s : ModemObjects) : Decidable (Fresh t s) :=
  inferInstanceAs (Decidable (∀ object ∈ t.calloc, object ∉ s.live))

/-- `sim7600_init` fails with no command, and only after a first success for lack of memory. -/
def InitsSafely (t : ObjectStep) (s : ModemObjects) : Prop :=
  s.ppp.point = .initialising → ∀ outcome, t = .task outcome →
    (∀ object, outcome ≠ .ioFails object) ∧ (outcome = .noMemory → s.dteDce ≠ none)

def IsLive (live : List Nat) (pointer : Option Nat) : Prop := ∀ object ∈ pointer, object ∈ live

/-- Bound and remembered objects are allocated, and there is one to attach. -/
structure Inv (s : ModemObjects) : Prop where
  owned : s.Owned
  bound : IsLive s.live s.dteDce
  kept : IsLive s.live s.handleDce
  attaching : s.ppp.point = .attaching → s.dteDce ≠ none ∧ s.handleDce ≠ none

section access

variable {s : ModemObjects} {pointer : Option Nat}

@[simp] theorem access_ppp : (s.access pointer).ppp = s.ppp := rfl

@[simp] theorem access_handleDce : (s.access pointer).handleDce = s.handleDce := rfl

theorem access_owned : (s.access pointer).Owned ↔
    s.Owned ∧ pointer ≠ none ∧ IsLive s.live pointer := by
  unfold Owned access IsLive
  cases pointer with
  | none => simp
  | some object => simp

theorem access_of_live (hne : pointer ≠ none) (hlive : IsLive s.live pointer) :
    s.access pointer = s := by
  obtain ⟨object, rfl⟩ := Option.ne_none_iff_exists'.mp hne
  have hmem : object ∈ s.live := hlive object rfl
  have hcontains : s.live.contains object = true := List.contains_iff_mem.mpr hmem
  unfold access
  rw [Option.any_some, hcontains, Bool.not_true, Bool.or_false]

end access

/-! ## One step -/

section steps

variable {s : ModemObjects} {outcome : InitOutcome}

theorem task_initialising (hpoint : s.ppp.point = .initialising) :
    step (.task outcome) s = sim7600Init outcome { s with
      ppp := { s.ppp with point := if outcome.isOk then .attaching else .retrying } } := by
  simp only [step, objectsTask, pppTask, hpoint]

theorem Inv.move (h : s.Inv) (ppp : Ppp) (hpoint : ppp.point = .attaching →
    s.dteDce ≠ none ∧ s.handleDce ≠ none) : Inv { s with ppp := ppp } :=
  ⟨h.owned, h.bound, h.kept, hpoint⟩

theorem task_attaching (h : s.Inv) (hpoint : s.ppp.point = .attaching) :
    step (.task outcome) s = { s with ppp := { s.ppp with point := .waiting } } := by
  obtain ⟨hbound, hkept⟩ := h.attaching hpoint
  have hmove := h.move { s.ppp with point := .waiting } PppPoint.noConfusion
  have hfirst := access_of_live hkept hmove.kept
  have hsecond := access_of_live hbound hmove.bound
  simp only [step, objectsTask, pppTask, hpoint]
  rw [hfirst, hsecond]

/-- Elsewhere the task does not look at the objects. -/
theorem task_moves (hinit : s.ppp.point ≠ .initialising) (hattach : s.ppp.point ≠ .attaching) :
    ∃ ppp, ppp.point ≠ .attaching ∧ step (.task outcome) s = { s with ppp := ppp } := by
  obtain ⟨⟨isConnected, connectBit, point⟩, live, dteDce, handleDce, wild⟩ := s
  cases point with
  | testing =>
    refine ⟨_, ?_, rfl⟩
    show (if isConnected then PppPoint.sleeping else PppPoint.initialising) ≠ _
    split
    · exact PppPoint.noConfusion
    · exact PppPoint.noConfusion
  | sleeping => exact ⟨_, PppPoint.noConfusion, rfl⟩
  | retrying => exact ⟨_, PppPoint.noConfusion, rfl⟩
  | waiting =>
    refine ⟨_, ?_, rfl⟩
    show (pppTask _ ⟨isConnected, connectBit, .waiting⟩).point ≠ _
    unfold pppTask
    dsimp only
    split
    · exact PppPoint.noConfusion
    · exact PppPoint.noConfusion
  | initialising => exact absurd rfl hinit
  | attaching => exact absurd rfl hattach

/-- An initialisation that succeeds. -/
theorem Inv.made (h : s.Inv) (object : Nat) (ppp : Ppp) :
    Inv { s with
      ppp := ppp
      live := object :: s.live
      dteDce := some object
      handleDce := some object } := by
  refine ⟨h.owned, ?_, ?_, fun _ => ⟨Option.some_ne_none _, Option.some_ne_none _⟩⟩
  · intro o ho
    cases ho
    exact List.mem_cons_self
  · intro o ho
    cases ho
    exact List.mem_cons_self

theorem init_ok (h : s.Inv) (object : Nat) (hpoint : s.ppp.point = .initialising) :
    step (.task (.ok object)) s = { s with
      ppp := { s.ppp with point := .attaching }
      live := object :: s.live
      dteDce := some object
      handleDce := some object } := by
  rw [task_initialising hpoint]
  exact access_of_live (Option.some_ne_none _) (h.made object s.ppp).bound

/-- **One initialisation** leaves everything owned exactly if it does as it should. -/
theorem init_iff (h : s.Inv) (hpoint : s.ppp.point = .initialising)
    (hfresh : Fresh (.task outcome) s) :
    (step (.task outcome) s).Owned ↔ InitsSafely (.task outcome) s := by
  rw [task_initialising hpoint]
  cases outcome with
  | noMemory =>
    show (access s.dteDce _).Owned ↔ _
    rw [access_owned]
    constructor
    · intro hall _ outcome heq
      cases heq
      exact ⟨fun object => InitOutcome.noConfusion, fun _ => hall.2.1⟩
    · intro hsafe
      exact ⟨h.owned, (hsafe hpoint .noMemory rfl).2 rfl, h.bound⟩
  | ioFails object =>
    show (access (some object) _).Owned ↔ _
    rw [access_owned]
    constructor
    · intro hall
      exact absurd (hall.2.2 object rfl) (hfresh object rfl)
    · intro hsafe
      exact absurd rfl ((hsafe hpoint (.ioFails object) rfl).1 object)
  | ok object =>
    apply iff_of_true
    · exact access_owned.mpr ⟨h.owned, Option.some_ne_none _, (h.made object s.ppp).bound⟩
    · intro _ outcome heq
      cases heq
      exact ⟨fun o => InitOutcome.noConfusion, InitOutcome.noConfusion⟩

theorem inv_init (h : s.Inv) (hpoint : s.ppp.point = .initialising)
    (hsafe : InitsSafely (.task outcome) s) : (step (.task outcome) s).Inv := by
  cases outcome with
  | noMemory =>
    have hbound := (hsafe hpoint .noMemory rfl).2 rfl
    have hinv : Inv { s with ppp := { s.ppp with point := .retrying }, handleDce := none } :=
      ⟨h.owned, h.bound, fun o ho => absurd ho (Option.not_mem_none o), PppPoint.noConfusion⟩
    have haccess := access_of_live hbound hinv.bound
    rw [task_initialising hpoint]
    show Inv (access s.dteDce
      { s with ppp := { s.ppp with point := .retrying }, handleDce := none })
    rw [haccess]
    exact hinv
  | ioFails object => exact absurd rfl ((hsafe hpoint (.ioFails object) rfl).1 object)
  | ok object =>
    rw [init_ok h object hpoint]
    exact h.made object _

theorem uart_eq (h : s.Inv) : step .uart s = s := by
  show uartEvent s = s
  unfold uartEvent
  split
  · rfl
  · rename_i object hdte
    exact access_of_live (Option.some_ne_none _) (hdte ▸ h.bound)

theorem inv_step (t : ObjectStep) (h : s.Inv) (hsafe : InitsSafely t s) : (step t s).Inv := by
  cases t with
  | task outcome =>
    by_cases hinit : s.ppp.point = .initialising
    · exact inv_init h hinit hsafe
    · by_cases hattach : s.ppp.point = .attaching
      · rw [task_attaching h hattach]
        exact h.move _ fun hpoint => PppPoint.noConfusion hpoint
      · obtain ⟨ppp, hpoint, heq⟩ := task_moves hinit hattach
        rw [heq]
        exact h.move _ fun hattach => absurd hattach hpoint
  | uart =>
    rw [uart_eq h]
    exact h
  | gotIp => exact h.move _ h.attaching
  | lostIp => exact h.move _ h.attaching

theorem safe_of_owned (t : ObjectStep) (h : s.Inv) (hfresh : Fresh t s)
    (howned : (step t s).Owned) : InitsSafely t s := by
  intro hpoint outcome heq
  subst heq
  exact (init_iff h hpoint hfresh).mp howned hpoint outcome rfl

end steps

/-- **What goes wrong with the objects.** In every state of a run all that was read and written
belongs to an object exactly if no command fails in `sim7600_init`, and no `calloc` fails before
there has been an object. -/
theorem objects_owned_iff (ts : List ObjectStep) (hfresh : Along step Fresh .start ts) :
    Always step Owned .start ts ↔ Along step InitsSafely .start ts := by
  have hstart : start.Inv :=
    ⟨rfl, fun o ho => absurd ho (Option.not_mem_none o),
      fun o ho => absurd ho (Option.not_mem_none o), PppPoint.noConfusion⟩
  exact always_iff_guard (fun s h => h.owned) (fun t s h _ hsafe => inv_step t h hsafe)
    (fun t s h hfresh howned => safe_of_owned t h hfresh howned) hstart hfresh

/-- The modem does not answer the first command. -/
def unanswered : List ObjectStep := [.task .noMemory, .task (.ioFails 7)]

theorem objects_owned_iff_unanswered : Always step Owned .start unanswered ↔
    Along step InitsSafely .start unanswered := by
  exact objects_owned_iff unanswered (by decide)

/-! ## How many there are

The objects that were attached, in this order, are the ones allocated so far. Only the newest may
still have to be attached. -/

/-- What the task attaches in this step. -/
def attachment (t : ObjectStep) (s : ModemObjects) : Option Nat :=
  match t, s.ppp.point with
  | .task _, .attaching => s.handleDce
  | _, _ => none

/-- `calloc` answers free memory of the heap. -/
def FromHeap (heap : Finset Nat) (t : ObjectStep) (s : ModemObjects) : Prop :=
  ∀ object ∈ t.calloc, object ∈ heap ∧ object ∉ s.live

instance (heap : Finset Nat) (t : ObjectStep) (s : ModemObjects) :
    Decidable (FromHeap heap t s) :=
  inferInstanceAs (Decidable (∀ object ∈ t.calloc, object ∈ heap ∧ object ∉ s.live))

/-- The object that is yet to be attached. -/
def pending (s : ModemObjects) : List Nat :=
  match s.ppp.point with
  | .attaching => s.handleDce.toList
  | _ => []

theorem pending_of_ne {s : ModemObjects} (h : s.ppp.point ≠ .attaching) : pending s = [] := by
  unfold pending
  split
  · contradiction
  · rfl

theorem attachment_of_ne {s : ModemObjects} (t : ObjectStep) (h : s.ppp.point ≠ .attaching) :
    attachment t s = none := by
  unfold attachment
  split
  · contradiction
  · rfl

/-- What a step allocates. -/
def made (t : ObjectStep) (s : ModemObjects) : List Nat :=
  match t, s.ppp.point with
  | .task (.ok object), .initialising => [object]
  | _, _ => []

theorem step_live (t : ObjectStep) (s : ModemObjects) :
    (step t s).live = made t s ++ s.live := by
  cases t with
  | task outcome =>
    obtain ⟨⟨isConnected, connectBit, point⟩, live, dteDce, handleDce, wild⟩ := s
    cases point with
    | initialising => cases outcome <;> rfl
    | testing | sleeping | retrying | attaching | waiting => cases outcome <;> rfl
  | uart =>
    show (uartEvent s).live = s.live
    unfold uartEvent
    split
    · rfl
    · rfl
  | gotIp => rfl
  | lostIp => rfl

/-- **One step** attaches what was to be attached, or leaves it so and adds what it makes. -/
theorem step_pending (t : ObjectStep) (s : ModemObjects) :
    pending s ++ made t s = (attachment t s).toList ++ pending (step t s) := by
  cases t with
  | task outcome =>
    by_cases hinit : s.ppp.point = .initialising
    · have hne : s.ppp.point ≠ .attaching := by simp [hinit]
      rw [pending_of_ne hne, attachment_of_ne _ hne, task_initialising hinit]
      cases outcome <;> simp [made, hinit, sim7600Init, bg96Init, pending, InitOutcome.isOk]
    · have hmade : made (.task outcome) s = [] := by
        unfold made
        split
        · contradiction
        · rfl
      rw [hmade, List.append_nil]
      by_cases hattach : s.ppp.point = .attaching
      · have hpoint : (step (.task outcome) s).ppp.point ≠ .attaching := by
          simp [step, objectsTask, pppTask, hattach]
        rw [pending_of_ne hpoint, List.append_nil]
        simp only [pending, attachment, hattach]
      · obtain ⟨ppp, hpoint, heq⟩ := task_moves hinit hattach
        rw [heq, pending_of_ne hattach, attachment_of_ne _ hattach, pending_of_ne hpoint]
        rfl
  | uart =>
    show pending s ++ [] = [] ++ pending (uartEvent s)
    rw [List.append_nil, List.nil_append]
    unfold uartEvent
    split
    · rfl
    · rfl
  | gotIp => exact List.append_nil _
  | lostIp => exact List.append_nil _

theorem made_reverse (t : ObjectStep) (s : ModemObjects) : (made t s).reverse = made t s := by
  unfold made
  split
  · rfl
  · rfl

theorem live_eq_attached (ts : List ObjectStep) : ∀ (s : ModemObjects) (done : List Nat),
    s.live.reverse = done ++ pending s →
      (after step s ts).live.reverse =
        done ++ outputs step attachment s ts ++ pending (after step s ts) := by
  induction ts with
  | nil =>
    intro s done h
    rw [outputs_nil, List.append_nil]
    exact h
  | cons t ts ih =>
    intro s done h
    have hstep : (step t s).live.reverse =
        (done ++ (attachment t s).toList) ++ pending (step t s) := by
      rw [step_live, List.reverse_append, made_reverse, h, List.append_assoc, step_pending,
        List.append_assoc]
    rw [after_cons, outputs_cons, ih (step t s) _ hstep]
    simp only [List.append_assoc]

theorem FromHeap.step_nodup {heap : Finset Nat} {t : ObjectStep} {s : ModemObjects}
    (h : FromHeap heap t s) (hlive : s.live.Nodup ∧ ∀ object ∈ s.live, object ∈ heap) :
    (step t s).live.Nodup ∧ ∀ object ∈ (step t s).live, object ∈ heap := by
  rw [step_live]
  unfold made
  split
  · rename_i object hpoint
    obtain ⟨hheap, hfree⟩ := h object rfl
    refine ⟨List.nodup_cons.mpr ⟨hfree, hlive.1⟩, ?_⟩
    intro o ho
    rcases List.mem_cons.mp ho with rfl | ho
    · exact hheap
    · exact hlive.2 o ho
  · exact hlive

/-- **No object is given back.** Each attachment is of an object of its own, which is allocated
from then on. So the device attaches as often as objects fit the heap, and never again. -/
theorem attaches_leak (heap : Finset Nat) (ts : List ObjectStep)
    (hheap : Along step (FromHeap heap) .start ts) :
    (outputs step attachment .start ts).Nodup ∧
      outputs step attachment .start ts ⊆ (after step .start ts).live ∧
      (outputs step attachment .start ts).length ≤ heap.card := by
  have hlive : (after step .start ts).live.Nodup ∧
      ∀ object ∈ (after step .start ts).live, object ∈ heap :=
    after_invariant_of_along (fun t s h hlive => h.step_nodup hlive) hheap
      ⟨List.nodup_nil, fun object hobject => absurd hobject List.not_mem_nil⟩
  have hall := live_eq_attached ts .start [] rfl
  rw [List.nil_append] at hall
  have hsub : List.Sublist (outputs step attachment .start ts)
      (after step .start ts).live.reverse := by
    rw [hall]
    exact List.sublist_append_left _ _
  have hnodup := (List.nodup_reverse.mpr hlive.1).sublist hsub
  have hmem : outputs step attachment .start ts ⊆ (after step .start ts).live := by
    intro object hobject
    exact List.mem_reverse.mp (hsub.subset hobject)
  refine ⟨hnodup, hmem, ?_⟩
  rw [← List.toFinset_card_of_nodup hnodup]
  apply Finset.card_le_card
  intro object hobject
  exact hlive.2 object (hmem (List.mem_toFinset.mp hobject))

/-- A connection is lost, and the next one is made. -/
def reconnecting : List ObjectStep :=
  [.task .noMemory, .task (.ok 3), .task .noMemory, .gotIp, .task .noMemory, .uart, .lostIp,
    .task .noMemory, .task (.ok 5), .task .noMemory]

theorem attaches_leak_reconnecting :
    (outputs step attachment .start reconnecting).Nodup ∧
      outputs step attachment .start reconnecting ⊆ (after step .start reconnecting).live ∧
      (outputs step attachment .start reconnecting).length ≤ ({3, 5} : Finset Nat).card := by
  exact attaches_leak {3, 5} reconnecting (by decide)

example : outputs step attachment .start reconnecting = [3, 5] := by decide

end Lighting.ModemObjects
