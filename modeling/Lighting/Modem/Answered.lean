import Lighting.Modem.Exchange

/-!
# What a success rests on

Any lines at any time, waits that run out, and any order of the steps. A command may then be
ended by the semaphore of an answer that came too late; but it is told a success only if a line
has brought one since the result before (`success_is_answered`), so no line makes two commands
succeed.
-/

set_option autoImplicit false

namespace Lighting.Dialogue

open CString Runs

section

variable (program : ModemProgram) (answer : Nat → ModemCommand → List Bytes) (dce : Dce)

/-- Since the result before, a handler has written `MODEM_STATE_SUCCESS` for a line. -/
def SuccessSince (turns : List ModemTurn) : Prop :=
  ∃ earlier later handler line, turns = earlier ++ .reader :: later ∧
    (reached program answer dce earlier).reader = .calling handler line ∧
    handler.verdict line = some .success ∧
    (reached program answer dce earlier).results = (reached program answer dce turns).results

end

/-- The state of the modem is that of the command at hand. -/
def ReadsState : ModemCaller → Prop
  | .reset _ => True
  | .sent _ => True
  | .ended _ _ => True
  | .cleared _ _ => True
  | _ => False

section

variable {program : ModemProgram} {answer : Nat → ModemCommand → List Bytes} {dce : Dce}
  {turns : List ModemTurn}

theorem reached_concat (t : ModemTurn) : reached program answer dce (turns ++ [t]) =
    Modem.step program answer t (reached program answer dce turns) := by
  unfold reached
  rw [after_append]
  rfl

theorem SuccessSince.concat {t : ModemTurn} (h : SuccessSince program answer dce turns)
    (hsame : (reached program answer dce (turns ++ [t])).results =
      (reached program answer dce turns).results) :
    SuccessSince program answer dce (turns ++ [t]) := by
  obtain ⟨earlier, later, handler, line, rfl, hcalling, hverdict, hresults⟩ := h
  exact ⟨earlier, later ++ [t], handler, line, by simp, hcalling, hverdict,
    hresults.trans hsame.symm⟩

/-- A handler that only stores leaves the state alone. -/
theorem store_state {h : LineHandler} {line : Bytes} {dce dce' : Dce}
    (hstore : h.store line dce = some dce') : dce'.state = dce.state := by
  cases h with
  | bg96HandleCgmm | bg96HandleCgsn | bg96HandleCimi | bg96HandleCops =>
    obtain ⟨memory, -, rfl⟩ := Option.map_eq_some_iff.mp hstore
    rfl
  | _ =>
    cases hstore
    rfl

/-- What a step of the UART task does to the state. -/
theorem stepReader_state (s : Modem) :
    s.stepReader.results = s.results ∧ s.stepReader.caller = s.caller ∧
      (s.stepReader.dce.state = s.dce.state ∨
        ∃ handler line, s.reader = .calling handler line ∧
          handler.verdict line = some s.stepReader.dce.state) := by
  obtain ⟨sdce, sem, caller, reader, lines, results⟩ := s
  unfold Modem.stepReader
  cases reader with
  | idle =>
    dsimp only
    split
    · exact ⟨rfl, rfl, .inl rfl⟩
    · split
      · exact ⟨rfl, rfl, .inl rfl⟩
      · split <;> exact ⟨rfl, rfl, .inl rfl⟩
  | tested line =>
    dsimp only
    split <;> exact ⟨rfl, rfl, .inl rfl⟩
  | calling handler line =>
    dsimp only
    cases hverdict : handler.verdict line with
    | some state => exact ⟨rfl, rfl, .inr ⟨handler, line, rfl, hverdict⟩⟩
    | none =>
      dsimp only
      cases hstore : handler.store line sdce with
      | some dce' => exact ⟨rfl, rfl, .inl (store_state hstore)⟩
      | none => exact ⟨rfl, rfl, .inl rfl⟩
  | done | crashed => exact ⟨rfl, rfl, .inl rfl⟩

/-- What a step of the caller does to the state, from where the state is read. -/
theorem stepCaller_state {s : Modem} {timesOut : Bool}
    (hreads : ReadsState (s.stepCaller program answer timesOut).caller)
    (hsuccess : (s.stepCaller program answer timesOut).dce.state = .success) :
    ReadsState s.caller ∧ s.dce.state = .success ∧
      (s.stepCaller program answer timesOut).results = s.results := by
  obtain ⟨sdce, sem, caller, reader, lines, results⟩ := s
  unfold Modem.stepCaller at hreads hsuccess ⊢
  cases caller with
  | idle =>
    dsimp only at hreads
    split at hreads <;> exact absurd hreads id
  | installed command => cases hsuccess
  | reset command => exact ⟨trivial, hsuccess, rfl⟩
  | sent command =>
    dsimp only at hsuccess ⊢
    refine ⟨trivial, ?_, ?_⟩
    · split at hsuccess
      · exact hsuccess
      · split at hsuccess <;> exact hsuccess
    · split
      · rfl
      · split <;> rfl
  | ended command taken => exact ⟨trivial, hsuccess, rfl⟩
  | cleared command taken => exact absurd hreads id

theorem successSince_of_state (hreads : ReadsState (reached program answer dce turns).caller)
    (hsuccess : (reached program answer dce turns).dce.state = .success) :
    SuccessSince program answer dce turns := by
  induction turns using List.reverseRecOn with
  | nil => exact absurd hreads id
  | append_singleton turns t ih =>
    have hstep : reached program answer dce (turns ++ [t]) =
        Modem.step program answer t (reached program answer dce turns) := reached_concat t
    rw [hstep] at hreads hsuccess
    cases t with
    | caller timesOut =>
      obtain ⟨hreads', hsuccess', hsame⟩ := stepCaller_state hreads hsuccess
      exact (ih hreads' hsuccess').concat (by rw [hstep]; exact hsame)
    | reader =>
      obtain ⟨hresults, hcaller, hstate⟩ := stepReader_state (reached program answer dce turns)
      have hreads' : ReadsState (reached program answer dce turns).caller := by
        rw [← hcaller]
        exact hreads
      have hsame : (reached program answer dce (turns ++ [.reader])).results =
          (reached program answer dce turns).results := by
        rw [hstep]
        exact hresults
      rcases hstate with hstate | ⟨handler, line, hcalling, hverdict⟩
      · exact (ih hreads' (hstate.symm.trans hsuccess)).concat hsame
      · -- The line that brings the success.
        have hline : handler.verdict line = some .success := by
          rw [hverdict]
          exact congrArg some hsuccess
        exact ⟨turns, [], handler, line, rfl, hcalling, hline, hsame.symm⟩
    | receive line => exact (ih hreads hsuccess).concat (by rw [hstep]; rfl)

end

/-- **No success without an answer.** In any run: where a command ends in success, a handler has
found a line that says so since the result before. -/
theorem success_is_answered (program : ModemProgram) (answer : Nat → ModemCommand → List Bytes)
    (dce : Dce) (turns : List ModemTurn) (timesOut : Bool)
    (hresult : (reached program answer dce (turns ++ [.caller timesOut])).results =
      (reached program answer dce turns).results ++ [some .success]) :
    SuccessSince program answer dce turns := by
  rw [reached_concat] at hresult
  change (Modem.stepCaller program answer timesOut _).results = _ at hresult
  unfold Modem.stepCaller at hresult
  have hne : ∀ results : List CommandResult, results ≠ results ++ [some .success] := by
    intro results h
    exact absurd (congrArg List.length h) (by simp)
  cases hcaller : (reached program answer dce turns).caller with
  | idle =>
    rw [hcaller] at hresult
    dsimp only at hresult
    split at hresult <;> exact absurd hresult (hne _)
  | sent command =>
    rw [hcaller] at hresult
    dsimp only at hresult
    split at hresult
    · exact absurd hresult (hne _)
    · split at hresult <;> exact absurd hresult (hne _)
  | installed command | reset command | ended command taken =>
    rw [hcaller] at hresult
    exact absurd hresult (hne _)
  | cleared command taken =>
    rw [hcaller] at hresult
    have hlast := List.append_cancel_left hresult
    cases taken with
    | false => cases hlast
    | true =>
      have hstate : (reached program answer dce turns).dce.state = .success := by
        injection hlast with hhead
        exact Option.some.inj hhead
      apply successSince_of_state _ hstate
      rw [hcaller]
      trivial

theorem success_is_answered_syncTurns :
    SuccessSince pppCommands contentModem freshDce (syncTurns.take 10) :=
  success_is_answered pppCommands contentModem freshDce (syncTurns.take 10) false rfl

end Lighting.Dialogue
