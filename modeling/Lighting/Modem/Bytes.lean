import Lighting.Lib.Runs
import Lighting.Modem.Positions

/-!
# The bytes of the UART task

Whatever is received, in whatever pieces and whenever the task goes on, what has been taken out of
the driver and handed over, dropped or read by `_gps_task`, what the UART task has in its line
buffer and what the driver has are together what was taken out of the FIFO, unless `_gps_task` gets
`rx_mux` while there is something in the line buffer or a read may be refused (`bytes_in_order`).

The positions of newlines can go wrong in three ways only (`positions_right_iff`): the pattern is
seen when the FIFO has been emptied already, and by then the newline has been read, or there is
more behind it, or it has its position; it is seen with bytes that have no newline and find no
room; or a flush ends with a newline in `rx_data_buf`.
-/

set_option autoImplicit false

namespace Lighting

open CString Runs

def UartPoint.buffer : UartPoint → Bytes
  | .reading _ _ _ buffer => buffer
  | .looping buffer => buffer
  | _ => []

namespace UartLines

/-- In the line buffer, and in the driver. -/
def inside (s : UartLines) : Bytes := s.point.buffer ++ s.uart.content

def taken (cut : Option UartCut) : Bytes := (cut.map UartCut.bytes).getD []

/-- No position is stored that is wrong. -/
def SeenInTime (fifo : RxFifo) (detected : Bool) (u : UartObj) : Prop :=
  detected = true → u.positions.length + 1 < patternQueueSize →
    (fifo.bytes = [] →
      u.content.getLast? = some lfByte ∧ u.positions.getLast? ≠ some (u.content.length - 1 : ℤ)) ∧
    (fifo.bytes ≠ [] → lfByte ∉ fifo.bytes → u.Fits fifo.bytes)

/-- A flush does not end with a newline in `rx_data_buf` that has its position. -/
def FlushedWhole (s : UartLines) : Prop :=
  s.point = .flushing true → s.uart.ring = [] → s.uart.rxBufferFullFlg = true →
    ∀ p ∈ s.uart.positions, p < (s.uart.rest.length : ℤ)

def Prompt (t : UartStep) (s : UartLines) : Prop :=
  match t with
  | .isr fifo detected => s.uart.rxBufferFullFlg = false → SeenInTime fifo detected s.uart
  | .event _ => True
  | .task _ _ _ => s.FlushedWhole
  | .gps _ => True

/-- While `_gps_task` has `rx_mux`, there is no read that would answer -1. -/
def Unrefused (_ : UartStep) (s : UartLines) : Prop :=
  s.gpsHasMux = true → ∀ hasMux call length buffer,
    s.point = .reading hasMux call length buffer → call.patient = true

/-- Besides, there is nothing in the line buffer then. -/
def Apart (t : UartStep) (s : UartLines) : Prop :=
  Unrefused t s ∧ (s.gpsHasMux = true → s.point.buffer = [])

theorem apart_free {t : UartStep} {s : UartLines} (h : s.gpsHasMux = false) : Apart t s := by
  refine ⟨fun hmux => ?_, fun hmux => ?_⟩
  · rw [h] at hmux
    cases hmux
  · rw [h] at hmux
    cases hmux

theorem apart_idle {t : UartStep} {s : UartLines} (h : s.point = .idle) : Apart t s := by
  refine ⟨fun _ hasMux call length buffer hreading => ?_, fun _ => ?_⟩
  · rw [h] at hreading
    cases hreading
  · rw [h]
    rfl

/-! ## What a step does to the bytes -/

section steps

variable {s : UartLines} {u : UartObj}

@[simp] theorem taken_none : taken none = [] := rfl

theorem taken_handOver (hasHandler : Bool) (bytes : Bytes) :
    taken (some (handOver hasHandler bytes)) = bytes := by
  cases hasHandler with
  | false => rfl
  | true => rfl

/-- What was read is handed over or stays in the line buffer. -/
theorem readDone_bytes (call : LineRead) (hasHandler : Bool) (buffer : Bytes) :
    taken (readDone call hasHandler buffer).1 ++ (readDone call hasHandler buffer).2.buffer =
      buffer := by
  cases call with
  | pattern =>
    show taken (if buffer = [] then none else some (.line buffer)) ++ [] = buffer
    rw [List.append_nil]
    split
    · rename_i hempty
      exact hempty.symm
    · rfl
  | log => exact List.append_nil buffer
  | data =>
    unfold readDone
    dsimp only
    split
    · rw [taken_handOver]
      exact List.append_nil buffer
    · rfl
  | more => rfl

/-- Taking an event reads nothing. -/
structure Begins (u : UartObj) (p : UartObj × UartPoint) : Prop where
  buffer : p.2.buffer = []
  live : p.2 ≠ .lost
  content : p.1.content = u.content
  right : u.Right → p.1.Right
  sound : p.1.Sound

theorem begins_self (h : u.Sound) {point : UartPoint}
    (hpoint : point.buffer = [] ∧ point ≠ .lost) : Begins u (u, point) :=
  ⟨hpoint.1, hpoint.2, rfl, id, h⟩

theorem notFound_begins (u : UartObj) :
    (uartPatternNotFound u).buffer = [] ∧ uartPatternNotFound u ≠ .lost := by
  unfold uartPatternNotFound
  dsimp only
  split
  · exact ⟨rfl, UartPoint.noConfusion⟩
  · exact ⟨rfl, UartPoint.noConfusion⟩

theorem begins_pattern (h : u.Sound) : Begins u (espHandleUartPattern u) := by
  unfold espHandleUartPattern
  split
  · exact begins_self h (notFound_begins u)
  · rename_i pos rest hpositions
    have hpop : u.Right → UartObj.Right { u with positions := rest } := by
      intro hright
      unfold UartObj.Right at hright
      rw [hpositions] at hright
      exact hright.pop.1
    have hsound : UartObj.Sound { u with positions := rest } := ⟨h.count, h.head, h.place, h.stash⟩
    dsimp only
    split
    · obtain ⟨hbuffer, hlive⟩ := notFound_begins { u with positions := rest }
      exact ⟨hbuffer, hlive, rfl, hpop, hsound⟩
    · exact ⟨rfl, UartPoint.noConfusion, rfl, hpop, hsound⟩

theorem begins_data (h : u.Sound) : Begins u (espHandleUartData u) := by
  unfold espHandleUartData
  dsimp only
  split
  · exact begins_self h ⟨rfl, UartPoint.noConfusion⟩
  · split
    · exact begins_pattern h
    · exact begins_self h ⟨rfl, UartPoint.noConfusion⟩

theorem begins_event (h : u.Sound) (e : UartEvent) : Begins u (uartEventTaskEntry e u) := by
  cases e with
  | data => exact begins_data h
  | patternDet => exact begins_pattern h
  | overflow => exact begins_self h ⟨rfl, UartPoint.noConfusion⟩

theorem handle_idle (hidle : s.point = .idle) (e : UartEvent) :
    s.handle e =
      ⟨(uartEventTaskEntry e s.uart).1, (uartEventTaskEntry e s.uart).2, s.gpsHasMux⟩ := by
  unfold handle
  rw [hidle]

theorem handle_busy (hbusy : s.point ≠ .idle) (e : UartEvent) : s.handle e = s := by
  unfold handle
  split
  · rename_i hidle
    exact absurd hidle hbusy
  · rfl

theorem readRefused_nil (call : LineRead) : (readRefused call []).buffer = [] := by
  cases call with
  | _ => rfl

theorem readDone_live (call : LineRead) (hasHandler : Bool) (buffer : Bytes) :
    (readDone call hasHandler buffer).2 ≠ .lost := by
  cases call with
  | data =>
    unfold readDone
    dsimp only
    split
    · exact UartPoint.noConfusion
    · exact UartPoint.noConfusion
  | _ => exact UartPoint.noConfusion

/-- What a step of the task can do. -/
inductive Goes (hasHandler processing : Bool) (s : UartLines) :
    Option UartCut → UartLines → Prop where
  | stays (hpoint : s.point ≠ .flushing true) : Goes hasHandler processing s none s
  /-- It gets `rx_mux`. -/
  | enters {call : LineRead} {length : Nat} {buffer : Bytes}
      (hpoint : s.point = .reading false call length buffer) :
      Goes hasHandler processing s none { s with point := .reading true call length buffer }
  | refused {call : LineRead} {length : Nat} {buffer : Bytes}
      (hpoint : s.point = .reading false call length buffer) (hmux : s.gpsHasMux = true)
      (hcall : call.patient = false) :
      Goes hasHandler processing s none { s with point := readRefused call buffer }
  | got {call : LineRead} {length : Nat} {buffer bytes : Bytes} {v : UartObj}
      (hpoint : s.point = .reading true call length buffer) (hle : bytes.length ≤ length)
      (htakes : UartObj.Takes s.uart bytes v) :
      Goes hasHandler processing s none
        { s with uart := v, point := .reading true call (length - bytes.length) (buffer ++ bytes) }
  /-- What was in `rx_data_buf` is in the ring buffer now. -/
  | again {call : LineRead} {length : Nat} {buffer : Bytes} {v : UartObj}
      (hpoint : s.point = .reading true call length buffer)
      (htakes : UartObj.Takes s.uart [] v) : Goes hasHandler processing s none { s with uart := v }
  /-- There is nothing more to read, or nothing to be had. -/
  | done {call : LineRead} {length : Nat} {buffer : Bytes}
      (hpoint : s.point = .reading true call length buffer)
      (hover : length = 0 ∨ s.uart.content = []) :
      Goes hasHandler processing s (readDone call hasHandler buffer).1
        { s with point := (readDone call hasHandler buffer).2 }
  | beginsFlush (hpoint : s.point = .flushing false) :
      Goes hasHandler processing s none { s with point := .flushing true }
  | flushes {bytes : Bytes} {v : UartObj} (hpoint : s.point = .flushing true)
      (hring : s.uart.ring ≠ []) (htakes : UartObj.Takes s.uart bytes v) :
      Goes hasHandler processing s (some (.dropped bytes)) { s with uart := v }
  | flushed {v : UartObj} (hpoint : s.point = .flushing true) (hring : s.uart.ring = [])
      (hnothing : v.content = []) (hpositions : v.positions = (uartReturnHead s.uart).positions)
      (hsound : v.Sound) :
      Goes hasHandler processing s (some (.dropped s.uart.content))
        { s with uart := v, point := .idle }
  | loops {buffer : Bytes} (hpoint : s.point = .looping buffer)
      (hlt : buffer.length < lineBufferSize - 1) :
      Goes hasHandler processing s none { s with point := .reading false .more 1 buffer }
  | hands {buffer : Bytes} (hpoint : s.point = .looping buffer)
      (hstop : ¬(buffer.length < lineBufferSize - 1 ∧ buffer.getLast? ≠ some lfByte ∧
        processing = true)) :
      Goes hasHandler processing s (some (handOver hasHandler buffer)) { s with point := .idle }

theorem goOn_goes (h : s.uart.Sound) (hasHandler processing timesOut : Bool) :
    Goes hasHandler processing s (s.goOn hasHandler processing timesOut).1
      (s.goOn hasHandler processing timesOut).2 := by
  obtain ⟨u, point, gpsHasMux⟩ := s
  unfold goOn
  cases point with
  | idle => exact .stays (by simp)
  | lost => exact .stays (by simp)
  | reading hasMux call length buffer =>
    cases hasMux with
    | false =>
      cases gpsHasMux with
      | false => exact .enters rfl
      | true =>
        cases hcall : call.patient with
        | true => simpa [hcall] using Goes.stays (by simp)
        | false =>
          cases timesOut with
          | false => exact .stays (by simp)
          | true => simpa [hcall] using Goes.refused rfl rfl hcall
    | true =>
      dsimp only
      by_cases hlength : length = 0
      · rw [if_pos hlength]
        exact .done rfl (.inl hlength)
      · rw [if_neg hlength]
        have hturn := UartObj.readTurn_spec h (Nat.pos_of_ne_zero hlength)
        cases hread : uartReadTurn length u with
        | got bytes v =>
          rw [hread] at hturn
          exact .got rfl hturn.2.1 hturn.2.2
        | again v =>
          rw [hread] at hturn
          exact .again rfl hturn
        | nothing v =>
          rw [hread] at hturn
          obtain ⟨rfl, hempty⟩ := hturn
          dsimp only
          split
          · exact .done rfl (.inr hempty)
          · exact .stays (by simp)
  | flushing hasMux =>
    cases hasMux with
    | false =>
      dsimp only
      split
      · exact .stays (by simp)
      · exact .beginsFlush rfl
    | true =>
      dsimp only
      rcases UartObj.flushTurn_spec h with
        ⟨item, v, hturn, hring, htakes⟩ | ⟨v, hturn, hring, hnothing, hpositions, hsound⟩
      · rw [hturn]
        exact .flushes rfl hring htakes
      · rw [hturn]
        exact .flushed rfl hring hnothing hpositions hsound
  | looping buffer =>
    dsimp only
    split
    · rename_i hmore
      exact .loops rfl hmore.1
    · rename_i hstop
      exact .hands rfl hstop

section goes

variable {hasHandler processing : Bool} {cut : Option UartCut} {s' : UartLines}

/-- **A step of the task** takes from the front of what is inside. -/
theorem Goes.bytes (h : Goes hasHandler processing s cut s')
    (hempty : s.gpsHasMux = true → s.point.buffer = []) : taken cut ++ s'.inside = s.inside := by
  obtain ⟨u, point, gpsHasMux⟩ := s
  cases h with
  | stays hpoint => rfl
  | enters hpoint =>
    cases hpoint
    rfl
  | @refused call length buffer hpoint hmux hcall =>
    cases hpoint
    have hbuffer : buffer = [] := hempty hmux
    show (readRefused call buffer).buffer ++ u.content = buffer ++ u.content
    rw [hbuffer, readRefused_nil]
  | @got call length buffer bytes v hpoint hle htakes =>
    cases hpoint
    show [] ++ (buffer ++ bytes ++ v.content) = buffer ++ u.content
    rw [htakes.content, List.nil_append, List.append_assoc]
  | @again call length buffer v hpoint htakes =>
    cases hpoint
    show [] ++ (buffer ++ v.content) = buffer ++ u.content
    rw [htakes.content]
    rfl
  | @done call length buffer hpoint hover =>
    cases hpoint
    show taken _ ++ (_ ++ u.content) = buffer ++ u.content
    rw [← List.append_assoc, readDone_bytes]
  | beginsFlush hpoint =>
    cases hpoint
    rfl
  | @flushes bytes v hpoint hring htakes =>
    cases hpoint
    show bytes ++ ([] ++ v.content) = [] ++ u.content
    rw [htakes.content]
    rfl
  | @flushed v hpoint hring hnothing hpositions hsound =>
    cases hpoint
    show u.content ++ ([] ++ v.content) = [] ++ u.content
    rw [hnothing, List.append_nil]
    exact List.append_nil _
  | loops hpoint hlt =>
    cases hpoint
    rfl
  | hands hpoint hstop =>
    cases hpoint
    rw [taken_handOver]
    rfl

theorem Goes.sound (h : Goes hasHandler processing s cut s') (hsound : s.uart.Sound) :
    s'.uart.Sound := by
  cases h with
  | got hpoint hle htakes => exact htakes.sound
  | again hpoint htakes => exact htakes.sound
  | flushes hpoint hring htakes => exact htakes.sound
  | flushed hpoint hring hnothing hpositions hsound => exact hsound
  | _ => exact hsound

/-- **A step of the task** leaves the positions right unless it ends a flush with a newline in
`rx_data_buf`. -/
theorem Goes.right_iff (h : Goes hasHandler processing s cut s') (hsound : s.uart.Sound)
    (hright : s.uart.Right) : s'.uart.Right ↔ s.FlushedWhole := by
  have hnoFlush : ∀ {v : UartObj}, s.point ≠ .flushing true → v.Right →
      (v.Right ↔ s.FlushedWhole) :=
    fun hpoint hkept => iff_of_true hkept fun hflush => absurd hflush hpoint
  cases h with
  | stays hpoint => exact hnoFlush hpoint hright
  | got hpoint hle htakes => exact hnoFlush (by simp [hpoint]) (htakes.right hright)
  | again hpoint htakes => exact hnoFlush (by simp [hpoint]) (htakes.right hright)
  | flushes hpoint hring htakes =>
    exact iff_of_true (htakes.right hright) fun _ hempty => absurd hempty hring
  | @flushed v hpoint hring hnothing hpositions _ =>
    show RightIn v.content v.positions ↔ _
    rw [hnothing, hpositions, UartObj.last_right_iff hsound hright hring]
    exact ⟨fun hwhen _ _ => hwhen, fun hwhen => hwhen hpoint hring⟩
  | enters hpoint | refused hpoint | done hpoint | beginsFlush hpoint | loops hpoint | hands hpoint =>
    exact hnoFlush (by simp [hpoint]) hright

/-- Only a read that is refused leads in front of the line buffer. -/
theorem Goes.live (h : Goes hasHandler processing s cut s') {t : UartStep} (hfree : Unrefused t s)
    (hlive : s.point ≠ .lost) : s'.point ≠ .lost := by
  cases h with
  | refused hpoint hmux hcall =>
    rw [hfree hmux _ _ _ _ hpoint] at hcall
    cases hcall
  | done hpoint hover => exact readDone_live _ _ _
  | stays hpoint => exact hlive
  | again hpoint htakes => exact hlive
  | flushes hpoint hring htakes => exact hlive
  | _ => exact UartPoint.noConfusion

end goes

/-- **A step of `_gps_task`** takes from the front of what the driver has. -/
theorem gps_spec (h : s.uart.Sound) (t : GpsRead) :
    (s.gps t).2.point = s.point ∧
      UartObj.Takes s.uart (taken (s.gps t).1) (s.gps t).2.uart ∧
      ((s.gps t).1 = none ∨ s.gpsHasMux = true ∧ ∃ bytes, (s.gps t).1 = some (.gps bytes)) := by
  obtain ⟨u, point, gpsHasMux⟩ := s
  have hsame : UartObj.Takes u [] u := UartObj.Takes.refl h
  unfold gps
  cases t with
  | takes => exact ⟨rfl, hsame, .inl rfl⟩
  | gives => exact ⟨rfl, hsame, .inl rfl⟩
  | reads length =>
    dsimp only
    by_cases hidle : gpsHasMux = false ∨ length = 0
    · rw [if_pos hidle]
      exact ⟨rfl, hsame, .inl rfl⟩
    · rw [if_neg hidle]
      obtain ⟨hmux, hlength⟩ := not_or.mp hidle
      have hturn := UartObj.readTurn_spec h (Nat.pos_of_ne_zero hlength)
      cases hread : uartReadTurn length u with
      | got bytes v =>
        rw [hread] at hturn
        exact ⟨rfl, hturn.2.2, .inr ⟨Bool.eq_true_of_not_eq_false hmux, bytes, rfl⟩⟩
      | again v =>
        rw [hread] at hturn
        exact ⟨rfl, hturn, .inl rfl⟩
      | nothing v =>
        rw [hread] at hturn
        obtain ⟨rfl, -⟩ := hturn
        exact ⟨rfl, hsame, .inl rfl⟩

theorem sound_step (t : UartStep) (s : UartLines) (h : s.uart.Sound) : (step t s).uart.Sound := by
  cases t with
  | isr fifo detected => exact UartObj.intr_sound h
  | event e =>
    show (s.handle e).uart.Sound
    by_cases hidle : s.point = .idle
    · rw [handle_idle hidle]
      exact (begins_event h e).sound
    · rw [handle_busy hidle]
      exact h
  | task hasHandler processing timesOut =>
    exact (goOn_goes h hasHandler processing timesOut).sound h
  | gps t => exact (gps_spec h t).2.1.sound

/-- **One step** keeps the positions right exactly if it stores none that is wrong, and forgets no
newline that has one. -/
theorem right_step (t : UartStep) (h : s.uart.Sound) (hright : s.uart.Right) :
    (step t s).uart.Right ↔ Prompt t s := by
  cases t with
  | isr fifo detected =>
    show (uartRxIntr fifo detected s.uart).Right ↔ _
    by_cases hfull : s.uart.rxBufferFullFlg = true
    · rw [UartObj.intr_of_full hfull]
      apply iff_of_true hright
      intro hopen
      rw [hfull] at hopen
      cases hopen
    · have hopen := Bool.eq_false_of_not_eq_true hfull
      rw [UartObj.intr_right_iff h hright hopen]
      exact ⟨fun hseen _ => hseen, fun hwhen => hwhen hopen⟩
  | event e =>
    apply iff_of_true _ trivial
    show (s.handle e).uart.Right
    by_cases hidle : s.point = .idle
    · rw [handle_idle hidle]
      exact (begins_event h e).right hright
    · rw [handle_busy hidle]
      exact hright
  | task hasHandler processing timesOut =>
    exact (goOn_goes h hasHandler processing timesOut).right_iff h hright
  | gps t => exact iff_of_true ((gps_spec h t).2.1.right hright) trivial

theorem live_step (t : UartStep) (hsound : s.uart.Sound) (hfree : Unrefused t s)
    (hlive : s.point ≠ .lost) : (step t s).point ≠ .lost := by
  cases t with
  | isr fifo detected => exact hlive
  | event e =>
    show (s.handle e).point ≠ _
    by_cases hidle : s.point = .idle
    · rw [handle_idle hidle]
      exact (begins_event hsound e).live
    · rw [handle_busy hidle]
      exact hlive
  | task hasHandler processing timesOut =>
    exact (goOn_goes hsound hasHandler processing timesOut).live hfree hlive
  | gps r =>
    show (s.gps r).2.point ≠ _
    rw [(gps_spec hsound r).1]
    exact hlive

/-- **One step** takes from the front of what is inside, and adds what comes in to its end. -/
theorem step_bytes (t : UartStep) (h : s.uart.Sound) (hapart : Apart t s) :
    taken (cuts t s) ++ inside (step t s) = s.inside ++ (received t s).getD [] := by
  cases t with
  | isr fifo detected =>
    show [] ++ (s.point.buffer ++ (uartRxIntr fifo detected s.uart).content) =
      s.inside ++ (if s.uart.rxBufferFullFlg then none else some fifo.bytes).getD []
    by_cases hfull : s.uart.rxBufferFullFlg = true
    · rw [UartObj.intr_of_full hfull, if_pos hfull]
      exact (List.append_nil _).symm
    · rw [UartObj.intr_content (Bool.eq_false_of_not_eq_true hfull), if_neg hfull,
        List.nil_append, ← List.append_assoc]
      rfl
  | event e =>
    show inside (s.handle e) = s.inside ++ []
    rw [List.append_nil]
    by_cases hidle : s.point = .idle
    · obtain ⟨hbuffer, -, hcontent, -, -⟩ := begins_event h e
      rw [handle_idle hidle]
      unfold inside
      dsimp only
      rw [hbuffer, hcontent, hidle]
      rfl
    · rw [handle_busy hidle]
  | task hasHandler processing timesOut =>
    have hgoes := goOn_goes h hasHandler processing timesOut
    exact (hgoes.bytes hapart.2).trans (List.append_nil _).symm
  | gps t =>
    obtain ⟨hpoint, htakes, hwho⟩ := gps_spec h t
    show taken (s.gps t).1 ++ ((s.gps t).2.point.buffer ++ (s.gps t).2.uart.content) =
      s.point.buffer ++ s.uart.content ++ []
    rw [List.append_nil, hpoint, htakes.content]
    rcases hwho with hnone | ⟨hmux, -⟩
    · rw [hnone]
      rfl
    · rw [hapart.2 hmux]
      rfl

theorem start_sound : UartLines.start.uart.Sound :=
  ⟨rfl, iff_of_true rfl rfl, by decide, Nat.zero_le _⟩

theorem run_bytes (ts : List UartStep) : ∀ s : UartLines, s.uart.Sound → Along step Apart s ts →
    (outputs step cuts s ts).flatMap UartCut.bytes ++ inside (after step s ts) =
      s.inside ++ (outputs step received s ts).flatten := by
  induction ts with
  | nil => exact fun s _ _ => (List.append_nil s.inside).symm
  | cons t ts ih =>
    intro s h hapart
    obtain ⟨hnow, hlater⟩ := hapart
    have hcut : (cuts t s).toList.flatMap UartCut.bytes = taken (cuts t s) := by
      cases cuts t s with
      | none => rfl
      | some cut => exact List.append_nil cut.bytes
    have hcome : (received t s).toList.flatten = (received t s).getD [] := by
      cases received t s with
      | none => rfl
      | some bytes => exact List.append_nil bytes
    rw [outputs_cons, outputs_cons, after_cons, List.flatMap_append, List.flatten_append, hcut,
      hcome, List.append_assoc, ih _ (sound_step t s h) hlater, ← List.append_assoc,
      step_bytes t h hnow, List.append_assoc]

end steps

end UartLines

open UartLines

def okLine : Bytes := ascii ['O', 'K', '\r', '\n']

def okFifo : RxFifo := ⟨okLine, by decide⟩

/-- **No byte is lost, doubled or out of order** between the interrupt handler and the tasks. -/
theorem bytes_in_order (ts : List UartStep) (hapart : Along step Apart .start ts) :
    (after step .start ts).point ≠ .lost ∧
      (outputs step cuts .start ts).flatMap UartCut.bytes ++ inside (after step .start ts) =
        (outputs step received .start ts).flatten := by
  have hkeep : ∀ t s, Apart t s → (s.uart.Sound ∧ s.point ≠ .lost) →
      (step t s).uart.Sound ∧ (step t s).point ≠ .lost :=
    fun t s hnow h => ⟨sound_step t s h.1, live_step t h.1 hnow.1 h.2⟩
  constructor
  · exact (after_invariant_of_along hkeep hapart ⟨start_sound, UartPoint.noConfusion⟩).2
  · exact run_bytes ts .start start_sound hapart

/-- `_gps_task` reads a line before the UART task does. -/
def sharedRun : List UartStep :=
  [.gps .takes, .isr okFifo false, .gps (.reads 1023), .gps .gives, .isr okFifo true,
    .event .patternDet, .task true true false]

theorem bytes_in_order_sharedRun :
    (after step .start sharedRun).point ≠ .lost ∧
      (outputs step cuts .start sharedRun).flatMap UartCut.bytes ++
          inside (after step .start sharedRun) =
        (outputs step received .start sharedRun).flatten := by
  apply bytes_in_order
  exact ⟨apart_idle rfl, apart_idle rfl, apart_idle rfl, apart_idle rfl, apart_idle rfl,
    apart_idle rfl, apart_free rfl, trivial⟩

/-- **What goes wrong with the positions.** -/
theorem positions_right_iff (ts : List UartStep) :
    Always step (fun s => s.uart.Right) .start ts ↔ Along step Prompt .start ts :=
  always_iff_along sound_step (fun t _ hsound hright => right_step t hsound hright) start_sound
    rightIn_nil

end Lighting
