import Lighting.Modem.Bytes

/-!
# The lines of the UART task

As long as the positions of newlines are right, and no read may be refused `rx_mux`, what the
pattern handler hands over ends with a newline or fills its buffer (`lines_end`).
-/

set_option autoImplicit false

namespace Lighting

open CString Runs

namespace UartLines

/-- A line with its end, or as much of it as there is room for. -/
def Ended (line : Bytes) : Prop :=
  line.length ≤ lineBufferSize - 1 ∧
    (line.getLast? = some lfByte ∨ line.length = lineBufferSize - 1)

/-- What the task is going to have in its line buffer: for a position, a line; without one, no more
than there is room for. -/
def InHand (s : UartLines) : Prop :=
  match s.point with
  | .reading _ .pattern length buffer =>
    ∃ line back, s.inside = line ++ back ∧ line.length = buffer.length + length ∧ Ended line
  | .reading _ _ length buffer => buffer.length + length ≤ lineBufferSize - 1
  | .looping buffer => buffer.length ≤ lineBufferSize - 1
  | _ => True

section lines

variable {s : UartLines} {u : UartObj} {hasMux hasMux' gpsHasMux gpsHasMux' : Bool}

theorem inHand_of_reading {call : LineRead} {length : Nat} {buffer : Bytes}
    (hcall : call ≠ .pattern) (hle : buffer.length + length ≤ lineBufferSize - 1) :
    InHand ⟨u, .reading hasMux call length buffer, gpsHasMux⟩ := by
  cases call with
  | pattern => exact absurd rfl hcall
  | _ => exact hle

theorem ended_take (front back : Bytes) {pos : Int} (hpos : pos = front.length) :
    ((front ++ lfByte :: back).take (readLen pos)).length = readLen pos ∧
      Ended ((front ++ lfByte :: back).take (readLen pos)) := by
  subst hpos
  unfold Ended readLen lineBufferSize
  split
  · rename_i hroom
    have htoNat : (((front.length : ℤ) + 1) % 2 ^ 32).toNat = (front ++ [lfByte]).length := by
      rw [List.length_append, List.length_singleton]
      omega
    have htake : (front ++ lfByte :: back).take (front ++ [lfByte]).length = front ++ [lfByte] := by
      rw [List.append_cons front lfByte back]
      exact List.take_left
    rw [htoNat, htake]
    refine ⟨rfl, ?_, .inl List.getLast?_concat⟩
    rw [List.length_append, List.length_singleton]
    omega
  · rename_i hlong
    have htoNat : ((((512 : ℕ) : ℤ) - 1) % 2 ^ 32).toNat = 511 := rfl
    have hlength : ((front ++ lfByte :: back).take 511).length = 511 := by
      rw [List.length_take, List.length_append, List.length_cons]
      omega
    rw [htoNat]
    exact ⟨hlength, hlength.le, .inr hlength⟩

theorem inHand_notFound (u v : UartObj) : InHand ⟨u, uartPatternNotFound v, gpsHasMux⟩ := by
  unfold uartPatternNotFound
  dsimp only
  split
  · trivial
  · apply inHand_of_reading (by decide)
    rw [List.length_nil]
    omega

theorem inHand_pattern (hright : u.Right) :
    InHand ⟨(espHandleUartPattern u).1, (espHandleUartPattern u).2, gpsHasMux⟩ := by
  unfold espHandleUartPattern
  split
  · exact inHand_notFound u u
  · rename_i pos rest hpositions
    unfold UartObj.Right at hright
    rw [hpositions] at hright
    obtain ⟨-, front, back, hcontent, hpos⟩ := hright.pop
    dsimp only
    split
    · exact inHand_notFound _ _
    · obtain ⟨hlength, hended⟩ := ended_take front back hpos
      refine ⟨_, u.content.drop (readLen pos), ?_, ?_, hended⟩
      · show [] ++ u.content = _
        rw [← hcontent, List.take_append_drop, List.nil_append]
      · rw [hlength, List.length_nil, Nat.zero_add]

theorem inHand_data (hright : u.Right) :
    InHand ⟨(espHandleUartData u).1, (espHandleUartData u).2, gpsHasMux⟩ := by
  unfold espHandleUartData
  dsimp only
  split
  · trivial
  · split
    · exact inHand_pattern hright
    · apply inHand_of_reading (by decide)
      rw [List.length_nil]
      omega

/-- What follows a read that is no more than the line buffer has room for. -/
theorem inHand_done {call : LineRead} {length : Nat} {buffer : Bytes} (hasHandler : Bool)
    (h : InHand ⟨u, .reading hasMux call length buffer, gpsHasMux⟩) {v : UartObj} :
    InHand ⟨v, (readDone call hasHandler buffer).2, gpsHasMux'⟩ := by
  cases call with
  | pattern | log => trivial
  | data =>
    have hle : buffer.length + length ≤ lineBufferSize - 1 := h
    unfold readDone
    dsimp only
    split
    · trivial
    · show buffer.length ≤ _
      omega
  | more =>
    have hle : buffer.length + length ≤ lineBufferSize - 1 := h
    show buffer.length ≤ _
    omega

/-- A read that was refused leaves no more in the line buffer. -/
theorem inHand_refused {call : LineRead} {length : Nat} {buffer : Bytes}
    (h : InHand ⟨u, .reading hasMux call length buffer, gpsHasMux⟩) :
    InHand ⟨u, readRefused call buffer, gpsHasMux'⟩ := by
  cases call with
  | more =>
    have hle : buffer.length + length ≤ lineBufferSize - 1 := h
    unfold readRefused
    dsimp only
    split
    · trivial
    · show buffer.dropLast.length ≤ _
      rw [List.length_dropLast]
      omega
  | _ => trivial

/-- A read goes on: what is inside gets longer at its end only. -/
theorem inHand_move (extra : Bytes) {call : LineRead} {length length' : Nat}
    {buffer buffer' : Bytes} {v : UartObj}
    (h : InHand ⟨u, .reading hasMux call length buffer, gpsHasMux⟩)
    (hinside : inside ⟨v, .reading hasMux' call length' buffer', gpsHasMux'⟩ =
      inside ⟨u, .reading hasMux call length buffer, gpsHasMux⟩ ++ extra)
    (hlen : buffer'.length + length' = buffer.length + length) :
    InHand ⟨v, .reading hasMux' call length' buffer', gpsHasMux'⟩ := by
  cases call with
  | pattern =>
    obtain ⟨line, back, hline, hlength, hended⟩ := h
    rw [hline, List.append_assoc] at hinside
    exact ⟨line, back ++ extra, hinside, hlength.trans hlen.symm, hended⟩
  | _ => exact Nat.le_trans (Nat.le_of_eq hlen) h

theorem Goes.inHand {hasHandler processing : Bool} {cut : Option UartCut} {s' : UartLines}
    (h : Goes hasHandler processing s cut s') (hhand : s.InHand) : s'.InHand := by
  obtain ⟨u, point, gpsHasMux⟩ := s
  cases h with
  | stays hpoint => exact hhand
  | enters hpoint =>
    cases hpoint
    exact inHand_move [] hhand (List.append_nil _).symm rfl
  | refused hpoint hmux hcall =>
    cases hpoint
    exact inHand_refused hhand
  | @got call length buffer bytes v hpoint hle htakes =>
    cases hpoint
    refine inHand_move [] hhand ?_ ?_
    · show buffer ++ bytes ++ v.content = buffer ++ u.content ++ []
      rw [htakes.content, List.append_nil, List.append_assoc]
    · rw [List.length_append]
      omega
  | @again call length buffer v hpoint htakes =>
    cases hpoint
    refine inHand_move [] hhand ?_ rfl
    show buffer ++ v.content = buffer ++ u.content ++ []
    rw [htakes.content, List.append_nil, List.nil_append]
  | done hpoint hover =>
    cases hpoint
    exact inHand_done hasHandler hhand
  | flushes hpoint hring htakes =>
    cases hpoint
    trivial
  | @loops buffer hpoint hlt =>
    show buffer.length + 1 ≤ _
    omega
  | beginsFlush hpoint | flushed hpoint | hands hpoint => trivial

/-- `_gps_task` takes nothing from a line that is to be read. -/
theorem inHand_gps (hsound : s.uart.Sound) (r : GpsRead) (hfree : Unrefused (.gps r) s)
    (h : s.InHand) : (s.gps r).2.InHand := by
  have hspec := gps_spec hsound r
  obtain ⟨u, point, gpsHasMux⟩ := s
  generalize gps r ⟨u, point, gpsHasMux⟩ = after at hspec ⊢
  obtain ⟨cut, v, point', gpsHasMux'⟩ := after
  obtain ⟨hpoint, htakes, hwho⟩ := hspec
  dsimp only at hpoint htakes hwho
  subst hpoint
  cases point' with
  | reading hasMux call length buffer =>
    cases call with
    | pattern =>
      rcases hwho with hnone | ⟨hmux, -⟩
      · subst hnone
        refine inHand_move [] h ?_ rfl
        show buffer ++ v.content = buffer ++ u.content ++ []
        rw [htakes.content, List.append_nil]
        rfl
      · exact absurd (hfree hmux hasMux .pattern length buffer rfl) (by decide)
    | _ => exact h
  | _ => exact h

theorem inHand_step (t : UartStep) (hsound : s.uart.Sound) (hright : s.uart.Right)
    (hfree : Unrefused t s) (h : s.InHand) : (step t s).InHand := by
  cases t with
  | isr fifo detected =>
    obtain ⟨u, point, gpsHasMux⟩ := s
    cases point with
    | reading hasMux call length buffer =>
      by_cases hfull : u.rxBufferFullFlg = true
      · show InHand ⟨uartRxIntr fifo detected u, _, _⟩
        rw [UartObj.intr_of_full hfull]
        exact h
      · refine inHand_move fifo.bytes h ?_ rfl
        show buffer ++ (uartRxIntr fifo detected u).content = buffer ++ u.content ++ fifo.bytes
        rw [UartObj.intr_content (Bool.eq_false_of_not_eq_true hfull), List.append_assoc]
    | _ => exact h
  | event e =>
    show (s.handle e).InHand
    by_cases hidle : s.point = .idle
    · rw [handle_idle hidle]
      cases e with
      | data => exact inHand_data hright
      | patternDet => exact inHand_pattern hright
      | overflow => trivial
    · rw [handle_busy hidle]
      exact h
  | task hasHandler processing timesOut =>
    exact (goOn_goes hsound hasHandler processing timesOut).inHand h
  | gps r => exact inHand_gps hsound r hfree h

/-- Without a position the handler gets a newline anywhere, or the modem is not at an answer. -/
structure Unplaced (s : UartLines) (t : UartStep) (bytes : Bytes) : Prop where
  point : ∀ hasMux length buffer, s.point ≠ .reading hasMux .pattern length buffer
  newline : lfByte ∈ bytes ∨ ∃ hasHandler timesOut, t = .task hasHandler false timesOut

theorem handOver_eq_line {hasHandler : Bool} {bytes bytes' : Bytes}
    (h : some (handOver hasHandler bytes') = some (UartCut.line bytes)) : bytes' = bytes := by
  cases hasHandler with
  | false => cases h
  | true =>
    cases h
    rfl

/-- What was read for a position is the line, whether or not the read ran out of time. -/
theorem ended_of_over {length : Nat} {buffer : Bytes}
    (h : InHand ⟨u, .reading hasMux .pattern length buffer, gpsHasMux⟩)
    (hover : length = 0 ∨ u.content = []) : Ended buffer := by
  obtain ⟨line, back, hinside, hlength, hended⟩ := h
  have hsame : line = buffer := by
    change buffer ++ u.content = line ++ back at hinside
    rcases hover with hzero | hempty
    · exact (List.append_inj hinside (by omega)).1.symm
    · rw [hempty, List.append_nil] at hinside
      have hlen := congrArg List.length hinside
      rw [List.length_append] at hlen
      have hback : back = [] := List.eq_nil_of_length_eq_zero (by omega)
      rw [hinside, hback, List.append_nil]
  rw [hsame] at hended
  exact hended

theorem Goes.line {hasHandler processing timesOut : Bool} {cut : Option UartCut} {s' : UartLines}
    (h : Goes hasHandler processing s cut s') (hhand : s.InHand) {bytes : Bytes}
    (hcut : cut = some (.line bytes)) : bytes.length ≤ lineBufferSize - 1 ∧
      (bytes.getLast? = some lfByte ∨ bytes.length = lineBufferSize - 1 ∨
        Unplaced s (.task hasHandler processing timesOut) bytes) := by
  obtain ⟨u, point, gpsHasMux⟩ := s
  cases h with
  | @done call length buffer hpoint hover =>
    cases hpoint
    cases call with
    | pattern =>
      unfold readDone at hcut
      dsimp only at hcut
      split at hcut
      · cases hcut
      · cases hcut
        obtain ⟨hfits, hended⟩ := ended_of_over hhand hover
        exact ⟨hfits, hended.imp id .inl⟩
    | log | more => cases hcut
    | data =>
      have hle : buffer.length + length ≤ lineBufferSize - 1 := hhand
      unfold readDone at hcut
      dsimp only at hcut
      split at hcut
      · rename_i hnewline
        have hsame := handOver_eq_line hcut
        subst hsame
        refine ⟨by omega, .inr (.inr ⟨?_, .inl ?_⟩)⟩
        · intro hasMux length' buffer' heq
          cases heq
        · exact (List.takeWhile_sublist _).subset hnewline
      · cases hcut
  | @hands buffer hpoint hstop =>
    cases hpoint
    have hsame := handOver_eq_line hcut
    subst hsame
    have hle : buffer.length ≤ lineBufferSize - 1 := hhand
    refine ⟨hle, ?_⟩
    by_cases hfull : buffer.length = lineBufferSize - 1
    · exact .inr (.inl hfull)
    · by_cases hlast : buffer.getLast? = some lfByte
      · exact .inl hlast
      · have hidle : ¬processing = true :=
          fun hyes => hstop ⟨Nat.lt_of_le_of_ne hle hfull, hlast, hyes⟩
        refine .inr (.inr ⟨?_, .inr ⟨hasHandler, timesOut, ?_⟩⟩)
        · intro hasMux length' buffer' heq
          cases heq
        · rw [Bool.eq_false_of_not_eq_true hidle]
  | _ => cases hcut

/-- **What a handler gets.** -/
theorem cut_line (hsound : s.uart.Sound) (h : s.InHand) {t : UartStep} {bytes : Bytes}
    (hline : cuts t s = some (.line bytes)) : bytes.length ≤ lineBufferSize - 1 ∧
      (bytes.getLast? = some lfByte ∨ bytes.length = lineBufferSize - 1 ∨ Unplaced s t bytes) := by
  cases t with
  | isr fifo detected => cases hline
  | event e => cases hline
  | gps r =>
    change (s.gps r).1 = _ at hline
    obtain ⟨-, -, hnone | ⟨-, bytes', hgps⟩⟩ := gps_spec hsound r
    · rw [hnone] at hline
      cases hline
    · rw [hgps] at hline
      cases hline
  | task hasHandler processing timesOut =>
    have hgoes := goOn_goes hsound hasHandler processing timesOut
    change (s.goOn hasHandler processing timesOut).1 = _ at hline
    rw [hline] at hgoes
    exact hgoes.line h rfl

end lines

end UartLines

open UartLines

/-- **Lines.** As long as the positions are right, whatever the handlers get fits the buffer, and
ends with a newline or fills it; or it was read without a position, and there is a newline in it or
the modem was not at an answer. -/
theorem lines_end (ts : List UartStep) (hprompt : Along step Prompt .start ts)
    (hfree : Along step Unrefused .start ts) (js : List UartStep) (t : UartStep)
    (hjs : js ++ [t] <+: ts) (bytes : Bytes)
    (hline : cuts t (after step .start js) = some (.line bytes)) :
    bytes.length ≤ lineBufferSize - 1 ∧
      (bytes.getLast? = some lfByte ∨ bytes.length = lineBufferSize - 1 ∨
        Unplaced (after step .start js) t bytes) := by
  obtain ⟨rest, rfl⟩ := hjs
  rw [List.append_assoc] at hprompt hfree
  have hearlier : Along step (fun t s => Prompt t s ∧ Unrefused t s) .start js :=
    along_and.mpr
      ⟨((along_append step Prompt .start js (t :: rest)).mp hprompt).1,
        ((along_append step Unrefused .start js (t :: rest)).mp hfree).1⟩
  have hkeep : ∀ t s, Prompt t s ∧ Unrefused t s → (s.uart.Sound ∧ s.uart.Right ∧ s.InHand) →
      (step t s).uart.Sound ∧ (step t s).uart.Right ∧ (step t s).InHand := by
    intro t s hcalm h
    obtain ⟨hprompt, hfree⟩ := hcalm
    obtain ⟨hsound, hright, hhand⟩ := h
    exact ⟨sound_step t s hsound, (right_step t hsound hright).mpr hprompt,
      inHand_step t hsound hright hfree hhand⟩
  obtain ⟨hsound, -, hhand⟩ :=
    after_invariant_of_along hkeep hearlier ⟨start_sound, rightIn_nil, trivial⟩
  exact cut_line hsound hhand hline

/-- An answer of one line comes in at once. -/
def okRun : List UartStep :=
  [.isr okFifo true, .event .patternDet, .task true true false, .task true true false,
    .task true true false]

theorem lines_end_okLine : okLine.length ≤ lineBufferSize - 1 ∧
    (okLine.getLast? = some lfByte ∨ okLine.length = lineBufferSize - 1 ∨
      Unplaced (after step .start (okRun.take 4)) (.task true true false) okLine) := by
  have hprompt : Along step Prompt .start okRun := by
    refine ⟨?_, trivial, ?_, ?_, ?_, trivial⟩
    · intro _ _ _
      exact ⟨fun hnil => absurd hnil (by decide), fun _ hno => absurd (by decide) hno⟩
    · intro hflush
      cases hflush
    · intro hflush
      cases hflush
    · intro hflush
      cases hflush
  have hfree : Along step Unrefused .start okRun :=
    ⟨(apart_free rfl).1, (apart_free rfl).1, (apart_free rfl).1, (apart_free rfl).1,
      (apart_free rfl).1, trivial⟩
  have hline : cuts (.task true true false) (after step .start (okRun.take 4)) =
      some (.line okLine) := by
    decide
  exact lines_end okRun hprompt hfree (okRun.take 4) (.task true true false) (List.prefix_refl _)
    okLine hline

/-- The line has been read when its newline is detected: the position is -1, and what comes next is
dropped. -/
example : outputs step cuts .start
    [.isr okFifo false, .event .data, .task true true false, .task true true false,
      .task true true false, .isr ⟨[], by decide⟩ true, .isr okFifo false, .event .patternDet,
      .task true true false, .task true true false, .task true true false, .task true true false,
      .task true true false] =
      [.line okLine, .dropped okLine, .dropped []] := by
  decide

end Lighting
