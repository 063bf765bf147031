import Lighting.Lib.Runs
import Lighting.Model.Port

/-!
# Who has the port

`Power_On_Sim` points the multiplexer at the modem once, and the modem's side configures the
port once. Every window of `_gps_task` points it at the receiver and configures the port for
that, and closing one puts nothing back. So it is the order that decides: the modem has the
port between windows as long as no window came after it, in either respect.

`modem_has_port_iff` says so for every interleaving. `Port.muxRetaken` and `Port.uartRetaken`
are the record of the order; `Inv` is what the pins and the port hold by that record.
-/

set_option autoImplicit false

namespace Lighting

open Runs

/-- `Power_On_Sim` has driven `S1_MUX`. -/
def PppTask.s1Taken : PppTask → Bool
  | .poweringOn rest => .setLevel s1Mux 0 ∉ rest
  | _ => true

namespace Port

/-- `Power_On_Sim` is over and no window is open. -/
def Quiet (p : Port) : Prop :=
  p.running = true ∧ (∀ rest, p.ppp ≠ .poweringOn rest) ∧ p.gps = .waiting

/-- The multiplexer selects the modem, and the port is configured as the modem's side has
configured it, if it has. -/
def ModemHasPort (p : Port) : Prop :=
  p.gpio s0Mux = some 1 ∧ p.gpio s1Mux = some 0 ∧ (p.ppp.uartTaken = true → p.uart = some dteConfig)

/-- What the tasks have left of their programs is part of them. -/
structure InProgram (p : Port) : Prop where
  poweringOn : ∀ rest, p.ppp = .poweringOn rest → ∀ call ∈ rest, call ∈ powerOnSim
  initDte : ∀ rest, p.ppp = .initDte rest → ∀ call ∈ rest, call ∈ dteInit
  opening : ∀ rest, p.gps = .opening rest → ∀ call ∈ rest, call ∈ openWindow

/-- What the pins and the port hold, by the order of the calls so far. -/
structure Held (p : Port) : Prop where
  s0 : p.ppp.muxTaken = true → p.gpio s0Mux = some (if p.muxRetaken then 0 else 1)
  s1 : p.ppp.s1Taken = true → p.gpio s1Mux = some 0
  uart : p.ppp.uartTaken = true → p.uart = some (if p.uartRetaken then gpsConfig else dteConfig)
  muxRetaken : p.muxRetaken = true → p.ppp.muxTaken = true
  uartRetaken : p.uartRetaken = true → p.ppp.uartTaken = true

/-! ## The calls of the three programs -/

theorem powerOnSim_calls : ∀ call ∈ powerOnSim,
    call.level? s0Mux = (if call = .setLevel s0Mux 1 then some 1 else none) ∧
      call.level? s1Mux = (if call = .setLevel s1Mux 0 then some 0 else none) ∧
        call.config? = none := by
  decide

theorem dteInit_calls : ∀ call ∈ dteInit,
    call.level? s0Mux = none ∧ call.level? s1Mux = none ∧
      call.config? = if call = .paramConfig dteConfig then some dteConfig else none := by
  decide

theorem openWindow_calls : ∀ call ∈ openWindow,
    call.level? s0Mux = (if call = .setLevel s0Mux 0 then some 0 else none) ∧
      (call.level? s1Mux = none ∨ call.level? s1Mux = some 0) ∧
        call.config? = if call = .paramConfig gpsConfig then some gpsConfig else none := by
  decide

/-! ## One step -/

theorem perform_tasks (p : Port) (call : PortCall) :
    (p.perform call).ppp = p.ppp ∧ (p.perform call).gps = p.gps := by
  cases call <;> exact ⟨rfl, rfl⟩

theorem perform_retaken (p : Port) (call : PortCall) :
    (p.perform call).muxRetaken = p.muxRetaken ∧
      (p.perform call).uartRetaken = p.uartRetaken := by
  cases call <;> exact ⟨rfl, rfl⟩

theorem InProgram.pppStep {p : Port} (h : p.InProgram) : p.pppStep.InProgram := by
  unfold Port.pppStep
  split
  · exact ⟨by simp, by rintro rest ⟨rfl⟩ call hcall; exact hcall, h.opening⟩
  · rename_i call rest hppp
    refine ⟨?_, by simp, by simpa [perform_tasks] using h.opening⟩
    rintro rest' ⟨rfl⟩ call' hcall'
    exact h.poweringOn _ hppp call' (List.mem_cons_of_mem _ hcall')
  · exact ⟨by simp, by simp, h.opening⟩
  · rename_i call rest hppp
    split
    · exact ⟨h.poweringOn, h.initDte, h.opening⟩
    · refine ⟨by simp, ?_, by simpa [perform_tasks] using h.opening⟩
      rintro rest' ⟨rfl⟩ call' hcall'
      exact h.initDte _ hppp call' (List.mem_cons_of_mem _ hcall')
  · exact h

theorem InProgram.gpsStep {p : Port} (h : p.InProgram) (due : Bool) :
    (p.gpsStep due).InProgram := by
  unfold Port.gpsStep
  split
  · split
    · exact ⟨h.poweringOn, h.initDte, by rintro rest ⟨rfl⟩ call hcall; exact hcall⟩
    · exact h
  · exact ⟨h.poweringOn, h.initDte, by simp⟩
  · rename_i call rest hgps
    refine ⟨by simpa [windowCall, perform_tasks] using h.poweringOn,
      by simpa [windowCall, perform_tasks] using h.initDte, ?_⟩
    rintro rest' ⟨rfl⟩ call' hcall'
    exact h.opening _ hgps call' (List.mem_cons_of_mem _ hcall')
  · split
    · exact ⟨h.poweringOn, h.initDte, by simp⟩
    · exact h

/-- A call of `Power_On_Sim`. -/
theorem Held.powerOn {p : Port} {call : PortCall} {rest : List PortCall}
    (hppp : p.ppp = .poweringOn (call :: rest)) (hcall : call ∈ powerOnSim) (h : p.Held) :
    ({ p.perform call with ppp := .poweringOn rest } : Port).Held := by
  obtain ⟨hs0, hs1, -⟩ := powerOnSim_calls call hcall
  have hsame := perform_retaken p call
  have huart : p.uartRetaken ≠ true := fun hre => by
    have := h.uartRetaken hre
    simp [PppTask.uartTaken, hppp] at this
  constructor
  · intro htaken
    have hrest : PortCall.setLevel s0Mux 1 ∉ rest := by simpa [PppTask.muxTaken] using htaken
    show (p.perform call).gpio s0Mux = some (if (p.perform call).muxRetaken then 0 else 1)
    rw [perform_gpio, hs0, hsame.1]
    by_cases heq : call = .setLevel s0Mux 1
    · -- The call is the one; no window can have come after it yet.
      have hnot : p.muxRetaken ≠ true := fun hre => by
        have := h.muxRetaken hre
        simp [PppTask.muxTaken, hppp, heq] at this
      simp [heq, hnot]
    · have htaken' : p.ppp.muxTaken = true := by simp [PppTask.muxTaken, hppp, hrest, Ne.symm heq]
      simp [heq, h.s0 htaken']
  · intro htaken
    have hrest : PortCall.setLevel s1Mux 0 ∉ rest := by simpa [PppTask.s1Taken] using htaken
    show (p.perform call).gpio s1Mux = some 0
    rw [perform_gpio, hs1]
    by_cases heq : call = .setLevel s1Mux 0
    · simp [heq]
    · have htaken' : p.ppp.s1Taken = true := by simp [PppTask.s1Taken, hppp, hrest, Ne.symm heq]
      simp [heq, h.s1 htaken']
  · intro htaken
    exact absurd htaken (by simp [PppTask.uartTaken])
  · intro hre
    have htaken := h.muxRetaken (hsame.1 ▸ hre)
    simp only [PppTask.muxTaken, hppp, List.mem_cons, not_or, decide_eq_true_eq] at htaken ⊢
    exact htaken.2
  · intro hre
    exact absurd (hsame.2 ▸ hre) huart

/-- A call of `esp_modem_dte_init`. -/
theorem Held.initDte {p : Port} {call : PortCall} {rest : List PortCall}
    (hppp : p.ppp = .initDte (call :: rest)) (hcall : call ∈ dteInit) (h : p.Held) :
    ({ p.perform call with ppp := .initDte rest } : Port).Held := by
  obtain ⟨hs0, hs1, hconfig⟩ := dteInit_calls call hcall
  have hsame := perform_retaken p call
  have htaken : p.ppp.muxTaken = true ∧ p.ppp.s1Taken = true := by
    simp [PppTask.muxTaken, PppTask.s1Taken, hppp]
  constructor
  · intro _
    show (p.perform call).gpio s0Mux = some (if (p.perform call).muxRetaken then 0 else 1)
    rw [perform_gpio, hs0, hsame.1, Option.none_or, h.s0 htaken.1]
  · intro _
    show (p.perform call).gpio s1Mux = some 0
    rw [perform_gpio, hs1, Option.none_or, h.s1 htaken.2]
  · intro huart
    have hrest : PortCall.paramConfig dteConfig ∉ rest := by simpa [PppTask.uartTaken] using huart
    show (p.perform call).uart =
      some (if (p.perform call).uartRetaken then gpsConfig else dteConfig)
    rw [perform_uart, hconfig, hsame.2]
    by_cases heq : call = .paramConfig dteConfig
    · have hnot : p.uartRetaken ≠ true := fun hre => by
        have := h.uartRetaken hre
        simp [PppTask.uartTaken, hppp, heq] at this
      simp [heq, hnot]
    · have huart' : p.ppp.uartTaken = true := by simp [PppTask.uartTaken, hppp, hrest, Ne.symm heq]
      simp [heq, h.uart huart']
  · intro _
    rfl
  · intro hre
    have huart := h.uartRetaken (hsame.2 ▸ hre)
    simp only [PppTask.uartTaken, hppp, List.mem_cons, not_or, decide_eq_true_eq] at huart ⊢
    exact huart.2

/-- A call of a window. -/
theorem Held.windowCall {p : Port} {call : PortCall} (hcall : call ∈ openWindow) (h : p.Held)
    (rest : List PortCall) : (p.windowCall call rest).Held := by
  obtain ⟨hs0, hs1, hconfig⟩ := openWindow_calls call hcall
  have hppp : (p.windowCall call rest).ppp = p.ppp := (perform_tasks p call).1
  constructor
  · intro htaken
    rw [hppp] at htaken
    show (p.perform call).gpio s0Mux = some (if (p.windowCall call rest).muxRetaken then 0 else 1)
    rw [perform_gpio, hs0]
    by_cases heq : call = .setLevel s0Mux 0
    · simp [Port.windowCall, heq, htaken]
    · simp [Port.windowCall, heq, h.s0 htaken]
  · intro htaken
    rw [hppp] at htaken
    show (p.perform call).gpio s1Mux = some 0
    rw [perform_gpio]
    rcases hs1 with hnone | hzero
    · rw [hnone, Option.none_or, h.s1 htaken]
    · rw [hzero, Option.some_or]
  · intro htaken
    rw [hppp] at htaken
    show (p.perform call).uart =
      some (if (p.windowCall call rest).uartRetaken then gpsConfig else dteConfig)
    rw [perform_uart, hconfig]
    by_cases heq : call = .paramConfig gpsConfig
    · simp [Port.windowCall, heq, htaken]
    · simp [Port.windowCall, heq, h.uart htaken]
  · intro hre
    rw [hppp]
    simp only [Port.windowCall, Bool.or_eq_true, Bool.and_eq_true] at hre
    exact hre.elim h.muxRetaken And.left
  · intro hre
    rw [hppp]
    simp only [Port.windowCall, Bool.or_eq_true, Bool.and_eq_true] at hre
    exact hre.elim h.uartRetaken And.left

theorem Held.pppStep {p : Port} (hprog : p.InProgram) (h : p.Held) : p.pppStep.Held := by
  unfold Port.pppStep
  split
  · rename_i hppp
    have htaken : p.ppp.muxTaken = true ∧ p.ppp.s1Taken = true ∧ p.ppp.uartTaken = false := by
      simp [PppTask.muxTaken, PppTask.s1Taken, PppTask.uartTaken, hppp]
    refine ⟨fun _ => h.s0 htaken.1, fun _ => h.s1 htaken.2.1, fun hu => ?_, fun _ => rfl,
      fun hre => ?_⟩
    · exact absurd hu (show ¬(PppTask.initDte dteInit).uartTaken = true by decide)
    · exact absurd (h.uartRetaken hre) (by simp [htaken.2.2])
  · rename_i call rest hppp
    exact h.powerOn hppp (hprog.poweringOn _ hppp call List.mem_cons_self)
  · rename_i hppp
    have htaken : p.ppp.muxTaken = true ∧ p.ppp.s1Taken = true ∧ p.ppp.uartTaken = true := by
      simp [PppTask.muxTaken, PppTask.s1Taken, PppTask.uartTaken, hppp]
    exact ⟨fun _ => h.s0 htaken.1, fun _ => h.s1 htaken.2.1, fun _ => h.uart htaken.2.2,
      fun _ => rfl, fun _ => rfl⟩
  · rename_i call rest hppp
    split
    · exact ⟨h.s0, h.s1, h.uart, h.muxRetaken, h.uartRetaken⟩
    · exact h.initDte hppp (hprog.initDte _ hppp call List.mem_cons_self)
  · exact h

theorem Held.gpsStep {p : Port} (hprog : p.InProgram) (h : p.Held) (due : Bool) :
    (p.gpsStep due).Held := by
  have hmove : ∀ gps, ({ p with gps := gps } : Port).Held := fun _ =>
    ⟨h.s0, h.s1, h.uart, h.muxRetaken, h.uartRetaken⟩
  unfold Port.gpsStep
  split
  · split
    · exact hmove _
    · exact h
  · exact hmove _
  · rename_i call rest hgps
    exact h.windowCall (hprog.opening _ hgps call List.mem_cons_self) rest
  · split
    · exact hmove _
    · exact h

/-! ## Runs -/

def Inv (p : Port) : Prop := p.InProgram ∧ p.Held

theorem Inv.step (st : PortStep) {p : Port} (h : p.Inv) : (p.step st).Inv := by
  unfold Port.step
  split
  · cases st with
    | ppp => exact ⟨h.1.pppStep, h.2.pppStep h.1⟩
    | gps due => exact ⟨h.1.gpsStep due, h.2.gpsStep h.1 due⟩
  · exact h

/-- Between windows the modem has the port exactly if no window came after it. -/
theorem modemHasPort_iff {p : Port} (h : p.Held) (hquiet : p.Quiet) :
    p.ModemHasPort ↔ p.muxRetaken = false ∧ p.uartRetaken = false := by
  obtain ⟨-, hppp, -⟩ := hquiet
  have htaken : p.ppp.muxTaken = true ∧ p.ppp.s1Taken = true := by
    cases hp : p.ppp with
    | poweringOn rest => exact absurd hp (hppp rest)
    | _ => exact ⟨rfl, rfl⟩
  have hs0 : p.gpio s0Mux = some 1 ↔ p.muxRetaken = false := by
    rw [h.s0 htaken.1]
    cases p.muxRetaken <;> decide
  have huart : (p.ppp.uartTaken = true → p.uart = some dteConfig) ↔ p.uartRetaken = false := by
    by_cases hu : p.ppp.uartTaken = true
    · rw [h.uart hu]
      cases p.uartRetaken <;> simp [hu, gpsConfig, dteConfig]
    · have hnot : p.uartRetaken = false := Bool.eq_false_iff.mpr fun hre => hu (h.uartRetaken hre)
      simp [hu, hnot]
  unfold ModemHasPort
  rw [hs0, huart]
  simp [h.s1 htaken.2]

/-- A step that ends between windows is not a call of one. -/
theorem step_retaken {st : PortStep} {p : Port} (h : (p.step st).Quiet) :
    (p.step st).muxRetaken = p.muxRetaken ∧ (p.step st).uartRetaken = p.uartRetaken := by
  unfold Port.step at h ⊢
  split
  · cases st with
    | ppp =>
      dsimp only
      unfold Port.pppStep
      split
      · exact ⟨rfl, rfl⟩
      · exact perform_retaken p _
      · exact ⟨rfl, rfl⟩
      · split
        · exact ⟨rfl, rfl⟩
        · exact perform_retaken p _
      · exact ⟨rfl, rfl⟩
    | gps due =>
      rename_i hrun
      rw [if_pos hrun] at h
      dsimp only at h ⊢
      unfold Port.gpsStep at h ⊢
      cases hgps : p.gps with
      | waiting => cases due <;> exact ⟨rfl, rfl⟩
      | opening rest =>
        cases rest with
        | nil => exact ⟨rfl, rfl⟩
        | cons call rest =>
          rw [hgps] at h
          exact absurd h.2.2 (by simp [windowCall])
      | acquiring => cases due <;> exact ⟨rfl, rfl⟩
  · exact ⟨rfl, rfl⟩

theorem start_inv : start.Inv := by
  refine ⟨⟨?_, by simp [start], by simp [start]⟩, ⟨?_, ?_, ?_, ?_, ?_⟩⟩
  · rintro rest ⟨rfl⟩ call hcall
    exact hcall
  all_goals exact fun h => absurd h (by decide)

/-- Between windows the modem has the port. -/
def Good (p : Port) : Prop := p.Quiet → p.ModemHasPort

/-- After the step `Power_On_Sim` is over and no window open, and none has come after the
modem's side: none has driven `S0_MUX` since `Power_On_Sim` did or configured the port since
the modem's side did. -/
def NoneAfter (st : PortStep) (p : Port) : Prop :=
  (p.step st).Quiet → p.muxRetaken = false ∧ p.uartRetaken = false

/-- **Who has the port.** For every interleaving of the two tasks: whenever `Power_On_Sim` is
over and no window is open, the modem has the port, exactly if at all these times no window
has come after the modem's side. -/
theorem modem_has_port_iff (sts : List PortStep) :
    Always step Good start sts ↔ Along step NoneAfter start sts := by
  have hstart : start.Good := fun hquiet => absurd rfl (hquiet.2.1 powerOnSim)
  have hinv : ∀ (st : PortStep) (p : Port), p.Inv → (p.step st).Inv := fun st p h => h.step st
  refine always_iff_along hinv ?_ start_inv hstart
  intro st p h _
  have hheld := (h.step st).2
  constructor
  · intro hgood hquiet
    rw [← (step_retaken hquiet).1, ← (step_retaken hquiet).2]
    exact (modemHasPort_iff hheld hquiet).mp (hgood hquiet)
  · intro hnone hquiet
    rw [modemHasPort_iff hheld hquiet, (step_retaken hquiet).1, (step_retaken hquiet).2]
    exact hnone hquiet

/-- `Power_On_Sim` drives the multiplexer; a window opens and closes; `Power_On_Sim` ends. -/
def windowWhilePoweringOn : List PortStep :=
  List.replicate 4 .ppp ++ .gps true :: List.replicate 9 (.gps false) ++ .gps true ::
    List.replicate 8 .ppp

/-- The modem powers up and configures the port; then a window opens and closes. -/
def windowAfterModem : List PortStep :=
  List.replicate 15 .ppp ++ .gps true :: List.replicate 9 (.gps false) ++ [.gps true]

/-- After either the multiplexer selects the receiver, and after the second the port is at the
receiver's speed. -/
theorem window_keeps_port :
    ((after step start windowWhilePoweringOn).Quiet ∧
      (after step start windowWhilePoweringOn).gpio s0Mux = some 0) ∧
    ((after step start windowAfterModem).Quiet ∧
      (after step start windowAfterModem).uart = some gpsConfig) ∧
    ¬Always step Good start windowWhilePoweringOn := by
  have hquiet : (after step start windowWhilePoweringOn).Quiet :=
    ⟨rfl, fun _ h => PppTask.noConfusion h, rfl⟩
  have hquiet' : (after step start windowAfterModem).Quiet :=
    ⟨rfl, fun _ h => PppTask.noConfusion h, rfl⟩
  have hs0 : (after step start windowWhilePoweringOn).gpio s0Mux = some 0 := rfl
  refine ⟨⟨hquiet, hs0⟩, ⟨hquiet', rfl⟩, ?_⟩
  intro halways
  have hmodem : (after step start windowWhilePoweringOn).gpio s0Mux = some 1 :=
    (halways.last hquiet).1
  rw [hs0] at hmodem
  exact absurd hmodem (by decide)

end Port

end Lighting
