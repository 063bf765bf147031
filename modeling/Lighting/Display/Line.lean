import Mathlib.Algebra.BigOperators.Group.Finset.Piecewise
import Mathlib.Algebra.Order.BigOperators.Group.Finset
import Mathlib.Data.Fintype.Basic
import Lighting.Lib.Terminated
import Lighting.Model.NextionWrite

/-!
# Commands of several tasks on one line

The display takes what it gets apart at three 0xff, which no text contains (`ff_notMem`). Two tasks
can spoil each other's commands in two ways: one formats in `tx_buffer` what another has not yet
written from there, or one writes its text before another has ended its command.

`display_reads_iff` says that there is no third one. It is `Terminated.read_line_iff`, for the acts
of the tasks on the line.
-/

set_option autoImplicit false

namespace Lighting

open CString Runs Terminated Terminated.Op

/-! ## Texts -/

theorem utf8_ne_ff (c : Char) : 0xff ∉ String.utf8EncodeChar c := by
  intro hmem
  have hne : ∀ k : Nat, k < 255 → (0xff : UInt8) ≠ UInt8.ofNat k := by
    intro k hk h
    have hnat := congrArg UInt8.toNat h
    simp at hnat
    omega
  unfold String.utf8EncodeChar at hmem
  dsimp only at hmem
  -- One case for each number of bytes.
  split at hmem
  · exact hne _ (by omega) (List.mem_singleton.mp hmem)
  · split at hmem
    · simp only [List.mem_cons, List.not_mem_nil, or_false] at hmem
      rcases hmem with h | h
      · exact hne _ (by omega) h
      · exact hne _ (by omega) h
    · split at hmem
      · simp only [List.mem_cons, List.not_mem_nil, or_false] at hmem
        rcases hmem with h | h | h
        · exact hne _ (by omega) h
        · exact hne _ (by omega) h
        · exact hne _ (by omega) h
      · simp only [List.mem_cons, List.not_mem_nil, or_false] at hmem
        rcases hmem with h | h | h | h
        · exact hne _ (by omega) h
        · exact hne _ (by omega) h
        · exact hne _ (by omega) h
        · exact hne _ (by omega) h

theorem ff_notMem (s : String) : 0xff ∉ stringBytes s := by
  intro hmem
  have hbytes : (0xff : UInt8) ∈ s.toUTF8.data.toList :=
    (List.takeWhile_sublist _).subset hmem
  obtain ⟨chars, hchars⟩ := s.isValidUTF8
  have hutf8 : s.toUTF8 = chars.utf8Encode := hchars
  rw [hutf8] at hbytes
  simp only [List.utf8Encode, List.data_toByteArray, List.mem_flatMap] at hbytes
  obtain ⟨c, -, hc⟩ := hbytes
  exact utf8_ne_ff c hc

namespace NextionCommand

theorem format_clear (command : NextionCommand) : 0xff ∉ command.format := by
  cases command with
  | sleep => exact ff_notMem _
  | page pageNum => simp [format, ff_notMem]
  | txt component value => simp [format, ff_notMem]
  | val component value => simp [format, ff_notMem]

theorem format_ne_nil (command : NextionCommand) : command.format ≠ [] := by
  have hpage : stringBytes "page page" ≠ [] := by decide
  have htxt : stringBytes ".txt=\"" ≠ [] := by decide
  have hval : stringBytes ".val=" ≠ [] := by decide
  cases command with
  | sleep => decide
  | page pageNum => simp [format, hpage]
  | txt component value => simp [format, htxt]
  | val component value => simp [format, hval]

end NextionCommand

/-! ## The setters

What a setter appends to `sent` is a command. -/

theorem stringBytes_append {a b : String} (h : (0 : UInt8) ∉ a.toUTF8.data.toList) :
    stringBytes (a ++ b) = stringBytes a ++ stringBytes b := by
  have hbytes : (a ++ b).toUTF8.data.toList = a.toUTF8.data.toList ++ b.toUTF8.data.toList := by
    simp
  have hself : cstr a.toUTF8.data.toList = a.toUTF8.data.toList := by
    have hnil : cstr (a.toUTF8.data.toList ++ []) = a.toUTF8.data.toList ++ [] := cstr_append h
    rwa [List.append_nil] at hnil
  unfold stringBytes
  rw [hbytes, cstr_append h, hself]

theorem setPage_sends (handle : Nextion) (pageNum : Int) :
    (appNextionSetPage handle pageNum).sent.map stringBytes =
      handle.sent.map stringBytes ++ [(NextionCommand.page pageNum).format] := by
  show (handle.sent ++ ["page page" ++ toString pageNum]).map stringBytes = _
  rw [List.map_append, List.map_singleton, stringBytes_append (by decide)]
  rfl

theorem setConsole_sends (handle : Nextion) (message : String)
    (h : (0 : UInt8) ∉ message.toUTF8.data.toList) :
    (appNextionSetConsole handle message).sent.map stringBytes =
      handle.sent.map stringBytes ++ [(NextionCommand.txt "console" message).format] := by
  have hkey : stringBytes "console.txt=\"" = stringBytes "console" ++ stringBytes ".txt=\"" := by
    decide
  show (handle.sent ++ ["console.txt=\"" ++ message ++ "\""]).map stringBytes = _
  rw [List.map_append, List.map_singleton, String.append_assoc, stringBytes_append (by decide),
    stringBytes_append h, hkey]
  simp [NextionCommand.format]

theorem setButton_sends (handle : Nextion) (isOn : Bool) :
    (appNextionSetButton handle isOn).sent.map stringBytes =
      handle.sent.map stringBytes ++
        [(NextionCommand.val "bt0" (if isOn then 1 else 0)).format] := by
  show (handle.sent ++ [_]).map stringBytes = _
  rw [List.map_append, List.map_singleton]
  cases isOn with
  | false => rfl
  | true => rfl

theorem setLoading_sends (handle : Nextion) (percent : Nat) (console : String)
    (h : (0 : UInt8) ∉ console.toUTF8.data.toList) :
    (appNextionSetLoading handle percent console).sent.map stringBytes =
      handle.sent.map stringBytes ++
        [(NextionCommand.val "j0" percent).format, (NextionCommand.txt "t2" console).format] := by
  have hpercent : stringBytes ("j0.val=" ++ toString percent) =
      (NextionCommand.val "j0" percent).format := by
    rw [stringBytes_append (by decide)]
    rfl
  have hkey : stringBytes "t2.txt=\"" = stringBytes "t2" ++ stringBytes ".txt=\"" := by
    decide
  show (handle.sent ++ ["j0.val=" ++ toString percent] ++ ["t2.txt=\"" ++ console ++ "\""]).map
    stringBytes = _
  rw [List.map_append, List.map_append, List.map_singleton, List.map_singleton, hpercent,
    String.append_assoc, stringBytes_append (by decide), stringBytes_append h, hkey]
  simp [NextionCommand.format]

/-! ## The acts of the tasks -/

namespace NextionLine

variable {ι : Type*}

/-- What a step does on the line. -/
def act : LineStep ι → NextionLine ι → Option (Op UInt8)
  | .sprintf _ _ _, _ => none
  | .uartWriteBytes task, s =>
    match s.points task with
    | .idle => none
    | .formatted .txBuffer command =>
      some (.text command.format (s.txBuffer.take command.format.length))
    | .formatted .sendBuffer command => some (.text command.format command.format)
    | .ending _ => some .stop

theorem writes_eq (t : LineStep ι) (s : NextionLine ι) :
    writes t s = (act t s).bind fun op => some (op.bytes 0xff) := by
  cases t with
  | sprintf task buffer command => rfl
  | uartWriteBytes task =>
    simp only [writes, act]
    cases s.points task with
    | idle => rfl
    | formatted buffer command => cases buffer <;> rfl
    | ending more => rfl

/-- The command whose text a step writes. -/
def sent : LineStep ι → NextionLine ι → Option NextionCommand
  | .sprintf _ _ _, _ => none
  | .uartWriteBytes task, s =>
    match s.points task with
    | .formatted _ command => some command
    | _ => none

theorem sent_eq (t : LineStep ι) (s : NextionLine ι) :
    ((sent t s).bind fun command => some command.format) = (act t s).bind Op.meant? := by
  cases t with
  | sprintf task buffer command => rfl
  | uartWriteBytes task =>
    simp only [sent, act]
    cases s.points task with
    | idle => rfl
    | formatted buffer command => cases buffer <;> rfl
    | ending more => rfl

/-! ## Ends that are owed -/

/-- The ends a task still has to write. -/
def left : SendPoint → ℕ
  | .ending more => more + 1
  | _ => 0

section owes

variable [Fintype ι]

def owes (s : NextionLine ι) : ℕ := ∑ task, left (s.points task)

theorem left_le (s : NextionLine ι) (task : ι) : left (s.points task) ≤ s.owes :=
  Finset.single_le_sum (f := fun task => left (s.points task)) (fun _ _ => Nat.zero_le _)
    (Finset.mem_univ task)

theorem owes_start (txBuffer : Bytes) : (start txBuffer : NextionLine ι).owes = 0 := by
  simp [owes, start, left]

theorem owes_eq_zero_iff (s : NextionLine ι) :
    s.owes = 0 ↔ ∀ task more, s.points task ≠ .ending more := by
  unfold owes
  rw [Finset.sum_eq_zero_iff]
  constructor
  · intro h task more hpoint
    have hleft := h task (Finset.mem_univ task)
    rw [hpoint] at hleft
    exact Nat.succ_ne_zero more hleft
  · intro h task _
    cases hpoint : s.points task with
    | ending more => exact absurd hpoint (h task more)
    | idle => rfl
    | formatted buffer command => rfl

variable [DecidableEq ι]

theorem owes_update (s : NextionLine ι) (txBuffer : Bytes) (task : ι) (point : SendPoint) :
    owes ⟨txBuffer, Function.update s.points task point⟩ + left (s.points task) =
      s.owes + left point := by
  have hupdate : (fun other => left (Function.update s.points task point other)) =
      Function.update (fun other => left (s.points other)) task (left point) := by
    funext other
    by_cases h : other = task
    · subst h
      simp
    · simp [h]
  unfold owes
  rw [hupdate, Finset.sum_update_of_mem (Finset.mem_univ task),
    Finset.sum_eq_add_sum_sdiff_singleton_of_mem (Finset.mem_univ task)
      fun other => left (s.points other)]
  omega

/-- **One step**, by its act. -/
theorem owes_step (t : LineStep ι) (s : NextionLine ι) :
    (step t s).owes = perform (Op.owed 3) (act t s) s.owes := by
  cases t with
  | sprintf task buffer command =>
    show (step (.sprintf task buffer command) s).owes = s.owes
    cases hpoint : s.points task with
    | idle =>
      have h := s.owes_update (s.sprintf task buffer command).txBuffer task
        (.formatted buffer command)
      rw [hpoint] at h
      simp only [step, hpoint]
      exact h
    | formatted _ _ => simp only [step, hpoint]
    | ending _ => simp only [step, hpoint]
  | uartWriteBytes task =>
    cases hpoint : s.points task with
    | idle => simp only [step, act, hpoint, perform]
    | formatted buffer command =>
      have h := s.owes_update s.txBuffer task (.ending 2)
      rw [hpoint] at h
      cases buffer with
      | txBuffer =>
        simp only [step, act, hpoint, perform]
        exact h
      | sendBuffer =>
        simp only [step, act, hpoint, perform]
        exact h
    | ending more =>
      cases more with
      | zero =>
        have h := s.owes_update s.txBuffer task .idle
        rw [hpoint] at h
        simp only [step, act, hpoint, perform]
        exact Nat.eq_sub_of_add_eq h
      | succ more =>
        have h := s.owes_update s.txBuffer task (.ending more)
        rw [hpoint] at h
        have hone : owes ⟨s.txBuffer, Function.update s.points task (.ending more)⟩ + 1 = s.owes :=
          Nat.add_right_cancel ((Nat.add_right_comm _ 1 _).trans h)
        simp only [step, act, hpoint, perform]
        exact Nat.eq_sub_of_add_eq hone

end owes

/-! ## The shared buffer -/

theorem mem_take_overlay {text buffer : Bytes} {k : ℕ} {b : UInt8}
    (h : b ∈ (Scratch.overlay text buffer).take k) : b ∈ text ∨ b ∈ buffer.take k := by
  unfold Scratch.overlay at h
  rw [List.take_append, List.mem_append] at h
  rcases h with h | h
  · exact .inl (List.mem_of_mem_take h)
  · rw [← List.drop_take] at h
    exact .inr (List.mem_of_mem_drop h)

theorem length_overlay (text buffer : Bytes) :
    (Scratch.overlay text buffer).length = max text.length buffer.length := by
  unfold Scratch.overlay
  rw [List.length_append, List.length_drop]
  omega

/-- Whatever is in the buffer by the time a task writes, there is enough of it, and no end. -/
def Kept (s : NextionLine ι) : Prop :=
  ∀ task command, s.points task = .formatted .txBuffer command →
    command.format.length ≤ s.txBuffer.length ∧
      0xff ∉ s.txBuffer.take command.format.length

section kept

variable [DecidableEq ι]

/-- A task that goes on to another point leaves the others where they are. -/
theorem Kept.move {s : NextionLine ι} (h : s.Kept) (task : ι) {point : SendPoint}
    (hpoint : ∀ command, point ≠ .formatted .txBuffer command) :
    Kept ⟨s.txBuffer, Function.update s.points task point⟩ := by
  intro other command hother
  change Function.update s.points task point other = _ at hother
  by_cases heq : other = task
  · subst heq
    rw [Function.update_self] at hother
    exact absurd hother (hpoint command)
  · rw [Function.update_of_ne heq] at hother
    exact h other command hother

theorem Kept.overlay {s : NextionLine ι} (h : s.Kept) (task : ι) (command : NextionCommand) :
    (s.sprintf task .txBuffer command).Kept := by
  have hclean : ∀ k, 0xff ∉ s.txBuffer.take k →
      0xff ∉ (Scratch.overlay (command.format ++ [0]) s.txBuffer).take k := by
    intro k hk hmem
    rcases mem_take_overlay hmem with htext | hold
    · rcases List.mem_append.mp htext with hformat | hnul
      · exact command.format_clear hformat
      · exact absurd (List.mem_singleton.mp hnul) (by decide)
    · exact hk hold
  intro other command' hother
  change Function.update s.points task (.formatted .txBuffer command) other = _ at hother
  by_cases heq : other = task
  · subst heq
    rw [Function.update_self] at hother
    cases hother
    refine ⟨?_, ?_⟩
    · show command.format.length ≤ (Scratch.overlay _ _).length
      rw [length_overlay, List.length_append]
      omega
    · show 0xff ∉ (Scratch.overlay _ _).take _
      unfold Scratch.overlay
      rw [List.append_assoc, List.take_left]
      exact command.format_clear
  · rw [Function.update_of_ne heq] at hother
    obtain ⟨hlength, hclear⟩ := h other command' hother
    refine ⟨?_, hclean _ hclear⟩
    show command'.format.length ≤ (Scratch.overlay _ _).length
    rw [length_overlay]
    omega

theorem kept_step (t : LineStep ι) (s : NextionLine ι) (h : s.Kept) : (step t s).Kept := by
  cases t with
  | sprintf task buffer command =>
    simp only [step]
    split
    · cases buffer with
      | txBuffer => exact h.overlay task command
      | sendBuffer => exact h.move task fun _ => by simp
    · exact h
  | uartWriteBytes task =>
    simp only [step]
    split
    · exact h
    · exact h.move task fun _ => SendPoint.noConfusion
    · exact h.move task fun _ => SendPoint.noConfusion
    · exact h.move task fun _ => SendPoint.noConfusion

end kept

/-- **What a task writes**: a text as long as the one it formatted, or an end that it owes. -/
theorem act_clear {t : LineStep ι} {s : NextionLine ι} (h : s.Kept) {op : Op UInt8}
    (hop : act t s = some op) : op.Clear 0xff := by
  cases t with
  | sprintf task buffer command => cases hop
  | uartWriteBytes task =>
    simp only [act] at hop
    split at hop
    · cases hop
    · rename_i command hpoint
      cases hop
      obtain ⟨hlength, hclear⟩ := h task command hpoint
      exact ⟨command.format_ne_nil, command.format_clear, hclear, List.length_take_of_le hlength⟩
    · rename_i command hpoint
      cases hop
      exact ⟨command.format_ne_nil, command.format_clear, command.format_clear, rfl⟩
    · cases hop
      trivial

theorem act_owes [Fintype ι] {t : LineStep ι} {s : NextionLine ι} {op : Op UInt8}
    (hop : act t s = some op) : op.Owes s.owes := by
  rintro rfl
  cases t with
  | sprintf task buffer command => cases hop
  | uartWriteBytes task =>
    have hle := s.left_le task
    simp only [act] at hop
    split at hop
    · cases hop
    · cases hop
    · cases hop
    · rename_i more hpoint
      rw [hpoint] at hle
      exact Nat.lt_of_lt_of_le (Nat.succ_pos more) hle

/-- A text is written while no command waits for its end, and from a buffer that still has it. -/
def Undisturbed (t : LineStep ι) (s : NextionLine ι) : Prop :=
  ∀ task buffer command, t = .uartWriteBytes task → s.points task = .formatted buffer command →
    (∀ other more, s.points other ≠ .ending more) ∧
      (buffer = .txBuffer → command.format <+: s.txBuffer)

theorem undisturbed_iff [Fintype ι] (t : LineStep ι) {s : NextionLine ι} :
    Undisturbed t s ↔ ∀ op ∈ act t s, op.Undisturbed s.owes := by
  cases t with
  | sprintf task buffer command =>
    apply iff_of_true
    · intro _ _ _ h
      cases h
    · intro op hop
      cases hop
  | uartWriteBytes task =>
    cases hpoint : s.points task with
    | idle =>
      apply iff_of_true
      · intro _ _ _ h
        cases h
        simp [hpoint]
      · intro op hop
        simp [act, hpoint] at hop
    | formatted buffer command =>
      have hwhen : Undisturbed (.uartWriteBytes task) s ↔
          s.owes = 0 ∧ (buffer = .txBuffer → command.format <+: s.txBuffer) := by
        rw [owes_eq_zero_iff]
        constructor
        · intro h
          exact h task buffer command rfl hpoint
        · intro h _ _ _ heq hsame
          cases heq
          rw [hpoint] at hsame
          cases hsame
          exact h
      rw [hwhen]
      cases buffer with
      | txBuffer =>
        simp only [act, hpoint, Option.mem_some_iff, forall_eq', undisturbed_text]
        rw [List.prefix_iff_eq_take, eq_comm (a := command.format)]
        simp
      | sendBuffer =>
        simp [act, hpoint, undisturbed_text]
    | ending more =>
      apply iff_of_true
      · intro _ _ _ h
        cases h
        simp [hpoint]
      · intro op hop
        have hstop : op = .stop := by simpa [act, hpoint] using hop.symm
        rw [hstop]
        exact undisturbed_stop _

end NextionLine

open NextionLine

/-- **The display reads what was meant.** For any tasks, commands and order of their steps: when
nobody is sending any more, the display has read exactly the commands, in the order in which their
texts were written, if and only if each text was written undisturbed. -/
theorem display_reads_iff {ι : Type*} [DecidableEq ι] [Fintype ι] (txBuffer : Bytes)
    (ts : List (LineStep ι))
    (hdone : ∀ task, (after step (start txBuffer) ts).points task = .idle) :
    Terminated.read 0xff 3 (outputs step writes (start txBuffer) ts).flatten [] =
        ((outputs step sent (start txBuffer) ts).map NextionCommand.format, []) ↔
      Along step NextionLine.Undisturbed (start txBuffer) ts := by
  let acts := outputs step act (start txBuffer) ts
  have hstart : Kept (start txBuffer : NextionLine ι) := by
    intro task command hpoint
    cases hpoint
  have hzero : owes (start txBuffer : NextionLine ι) = 0 := owes_start txBuffer
  -- What is on the line, and what was meant to be, by the acts.
  have hline : (outputs step writes (start txBuffer) ts).flatten = line 0xff acts := by
    rw [funext fun t => funext fun s => writes_eq t s, outputs_bind, List.filterMap_eq_map',
      ← List.flatMap_def]
    rfl
  have hsent : (outputs step sent (start txBuffer) ts).map NextionCommand.format =
      meants acts := by
    rw [← List.filterMap_eq_map', ← outputs_bind, funext fun t => funext fun s => sent_eq t s,
      outputs_bind]
    rfl
  have hclear : ∀ op ∈ acts, op.Clear 0xff := by
    intro op hop
    obtain ⟨js, t, -, hact⟩ := mem_outputs.mp hop
    exact act_clear (after_invariant kept_step hstart) hact
  have howes : Along (owed 3) Owes 0 acts := by
    rw [← hzero, ← along_simulates owes_step]
    exact along_iff_inputs.mpr fun js t _ op hop => act_owes hop
  have hend : after (owed 3) 0 acts = 0 := by
    have hafter := after_simulates owes_step (start txBuffer) ts
    rw [hzero] at hafter
    rw [← hafter, owes_eq_zero_iff]
    intro task more hpoint
    rw [hdone task] at hpoint
    cases hpoint
  have hguard : (fun (t : LineStep ι) s => ∀ op ∈ act t s, op.Undisturbed (owes s)) =
      NextionLine.Undisturbed :=
    funext fun t => funext fun s => propext (undisturbed_iff t).symm
  rw [hline, hsent, read_line_iff 0xff 3 (by decide) hclear howes hend, ← hzero,
    ← along_simulates owes_step, hguard]

/-- The write task is between the text and the first end of a command when the schedule switches
the light on. -/
def switchedOn : List (LineStep Bool) :=
  [.sprintf true .sendBuffer (.val "n0" 18), .uartWriteBytes true,
    .sprintf false .txBuffer (.val "bt0" 1), .uartWriteBytes false, .uartWriteBytes false,
    .uartWriteBytes false, .uartWriteBytes false, .uartWriteBytes true, .uartWriteBytes true,
    .uartWriteBytes true]

theorem display_reads_iff_switchedOn :
    Terminated.read 0xff 3 (outputs step writes (start []) switchedOn).flatten [] =
        ((outputs step sent (start []) switchedOn).map NextionCommand.format, []) ↔
      Along step NextionLine.Undisturbed (start []) switchedOn := by
  exact display_reads_iff [] switchedOn (by decide)

end Lighting
