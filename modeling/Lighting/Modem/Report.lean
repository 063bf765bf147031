import Lighting.Modem.Strings
import Mathlib.Data.List.Infix

/-!
# What the modem reports

A `Report` is what a modem has to say of itself: its name, the two numbers, the operator, the
signal and the battery, in the lines of its answers. The texts have a place in their fields, and
none contains a result code: `strstr` would take it for the end of the answer.

Whatever the order of the steps, the program of `_ppp_task` ends in success, and the object then
holds the report (`modem_reports`).
-/

set_option autoImplicit false

namespace Lighting.Dialogue

open CString ByteMemory Runs

/-! ## A key in a line -/

section keys

variable {key a b : Bytes} {c : UInt8}

theorem strstr_iff {data : Bytes} : strstr data key = true ↔ key <:+: data := by
  unfold strstr
  rw [List.any_eq_true, List.infix_iff_prefix_suffix]
  constructor
  · intro h
    obtain ⟨t, ht, hkey⟩ := h
    exact ⟨t, memcmpEq_iff.mp hkey, (List.mem_tails _ _).mp ht⟩
  · intro h
    obtain ⟨t, hkey, ht⟩ := h
    exact ⟨t, (List.mem_tails _ _).mpr ht, memcmpEq_iff.mpr hkey⟩

/-- A key lies on one side of a byte it does not contain. -/
theorem infix_of_infix_append (hc : c ∉ key) (h : key <:+: a ++ c :: b) :
    key <:+: a ∨ key <:+: b := by
  obtain ⟨s, t, heq⟩ := h
  rw [List.append_assoc] at heq
  rcases List.append_eq_append_iff.mp heq with ⟨a', ha, hrest⟩ | ⟨c', hs, hrest⟩
  · rcases List.append_eq_append_iff.mp hrest with ⟨x, ha', ht⟩ | ⟨x, hkey, hx⟩
    · left
      rw [ha, ha']
      exact ⟨s, x, by rw [List.append_assoc]⟩
    · cases x with
      | nil =>
        left
        rw [ha, hkey, List.append_nil]
        exact ⟨s, [], by rw [List.append_nil]⟩
      | cons y x =>
        injection hx with hy _
        subst hy
        exact absurd (by rw [hkey]; simp) hc
  · cases c' with
    | nil =>
      cases key with
      | nil => exact .inl List.nil_infix
      | cons y key =>
        injection hrest with hy _
        subst hy
        exact absurd List.mem_cons_self hc
    | cons y c' =>
      injection hrest with _ hb
      right
      rw [hb]
      exact ⟨c', t, List.append_assoc c' key t⟩

theorem strstr_append (hc : c ∉ key) (ha : strstr a key = false) (hb : strstr b key = false) :
    strstr (a ++ c :: b) key = false := by
  rw [Bool.eq_false_iff] at *
  intro h
  rcases infix_of_infix_append hc (strstr_iff.mp h) with h | h
  · exact ha (strstr_iff.mpr h)
  · exact hb (strstr_iff.mpr h)

theorem strstr_of_not_mem {data : Bytes} (hc : c ∈ key) (hdata : c ∉ data) :
    strstr data key = false := by
  rw [Bool.eq_false_iff]
  intro h
  exact hdata ((strstr_iff.mp h).subset hc)

end keys

/-- A text without a result code. -/
structure Silent (s : Bytes) : Prop where
  success : strstr s resultCodeSuccess = false
  error : strstr s resultCodeError = false

section silent

variable {a b : Bytes} {c : UInt8}

theorem Silent.append (ha : Silent a) (hb : Silent b) (hc : c ∉ resultCodeSuccess)
    (hc' : c ∉ resultCodeError) : Silent (a ++ c :: b) :=
  ⟨strstr_append hc ha.success hb.success, strstr_append hc' ha.error hb.error⟩

theorem Silent.resultCode {s : Bytes} (h : Silent s) : resultCode s = none := by
  unfold Lighting.resultCode
  rw [h.success, h.error]
  rfl

/-- Digits are no letters. -/
theorem silent_digits (n : Numeral) : Silent n.digits := by
  have hno : ∀ c : UInt8, isDigit c = false → c ∉ n.digits := by
    intro c hc hmem
    rw [n.isDigit_of_mem c hmem] at hc
    cases hc
  exact ⟨strstr_of_not_mem (c := 0x4f) (by decide) (hno _ (by decide)),
    strstr_of_not_mem (c := 0x45) (by decide) (hno _ (by decide))⟩

theorem silent_crLf {s : Bytes} (h : Silent s) : Silent (s ++ crLf) :=
  h.append (b := [lfByte]) ⟨by decide, by decide⟩ (by decide) (by decide)

end silent

/-! ## The answers -/

/-- What a modem has to say of itself. -/
structure Report where
  name : Bytes
  imei : Bytes
  imsi : Bytes
  oper : Bytes
  mode : Numeral
  format : Numeral
  act : Numeral
  rssi : Numeral
  ber : Numeral
  volts : Numeral
  fraction : Numeral
  name_fits : Fits .name name
  imei_fits : Fits .imei imei
  imsi_fits : Fits .imsi imsi
  oper_fits : Fits .oper oper
  name_silent : Silent name
  imei_silent : Silent imei
  imsi_silent : Silent imsi
  oper_silent : Silent oper
  oper_comma : commaByte ∉ oper
  voltage_lt : volts.value * 1000 + fraction.value < 2 ^ 31

def okLine : Bytes := resultCodeSuccess ++ crLf

def colonBlank : Bytes := ascii [':', ' ']

def Report.csqLine (r : Report) : Bytes :=
  (csqKey ++ colonBlank) ++ (r.rssi.digits ++ commaByte :: (r.ber.digits ++ crLf))

def Report.cbcLine (r : Report) : Bytes :=
  (cbcKey ++ colonBlank) ++ (r.volts.digits ++ 0x2e :: (r.fraction.digits ++ 0x56 :: crLf))

def Report.copsLine (r : Report) : Bytes :=
  (copsKey ++ colonBlank ++ r.mode.digits) ++ commaByte ::
    (r.format.digits ++ commaByte :: (r.oper ++ commaByte :: (r.act.digits ++ crLf)))

/-- The line of an answer before its result code. -/
def Report.line? (r : Report) : LineHandler → Option Bytes
  | .bg96HandleCgmm => some (r.name ++ crLf)
  | .bg96HandleCgsn => some (r.imei ++ crLf)
  | .bg96HandleCimi => some (r.imsi ++ crLf)
  | .bg96HandleCops => some r.copsLine
  | .bg96HandleCsq => some r.csqLine
  | .sim7600HandleCbc => some r.cbcLine
  | _ => none

def Report.answer (r : Report) (h : LineHandler) : List Bytes :=
  match r.line? h with
  | some line => [line, crLf, okLine]
  | none =>
    match h with
    | .bg96HandleAtdPpp => [resultCodeConnect ++ crLf]
    | _ => [crLf, okLine]

/-! ## One answer -/

section answer

variable {h : LineHandler} {line : Bytes} {r : Report} {d : Dce}

/-- A line that is handled, and is not the last. -/
structure Tells (h : LineHandler) (line : Bytes) : Prop where
  whole : cstr line = line
  handled : skippedLine line = false
  verdict : h.verdict line = none

theorem takeLines_told (htells : Tells h line) (hok : h.verdict okLine = some .success) :
    takeLines h [line, crLf, okLine] d =
      (h.store line d).map fun d' => { d' with state := .success } := by
  have hline : takeLine h line d = h.store line d := by
    unfold takeLine LineHandler.handle
    rw [htells.whole, htells.handled, htells.verdict]
    rfl
  have hrest : ∀ d' : Dce, takeLines h [crLf, okLine] d' = some { d' with state := .success } := by
    intro d'
    have hcrLf : takeLine h crLf d' = some d' := takeLine_of_skipped (by decide)
    have hokLine : takeLine h okLine d' = some { d' with state := .success } :=
      takeLine_of_verdict (by decide) hok
    rw [takeLines_cons, hcrLf, Option.bind_some, takeLines_cons, hokLine]
    rfl
  rw [takeLines_cons, hline]
  cases h.store line d with
  | none => rfl
  | some d' => exact hrest d'

theorem ends_told (htells : Tells h line) (hok : h.verdict okLine = some .success) :
    EndsCommand h [line, crLf, okLine] := by
  have hskip : skippedLine (cstr line) = false := by rw [htells.whole, htells.handled]
  have hverdict : h.verdict (cstr line) = none := by rw [htells.whole, htells.verdict]
  rw [endsCommand_of_store hskip hverdict, endsCommand_of_skipped (by decide),
    endsCommand_of_verdict (by decide) hok]
  exact fun raw hraw => absurd hraw List.not_mem_nil

/-- A text and its end of line are handled. -/
theorem handled_crLf {s : Bytes} {b : UInt8} (hb : b ∈ s) (hcr : b ≠ crByte) (hlf : b ≠ lfByte) :
    skippedLine (s ++ crLf) = false := by
  have hlen : (s ++ crLf).length = s.length + 2 := List.length_append
  have hpos := List.length_pos_of_mem hb
  unfold skippedLine
  rw [Bool.or_eq_false_iff]
  constructor
  · exact decide_eq_false (by omega)
  · rw [List.all_eq_false]
    refine ⟨b, List.mem_append_left crLf hb, ?_⟩
    rw [Bool.or_eq_true, beq_iff_eq, beq_iff_eq]
    tauto

theorem whole_of_not_mem {s : Bytes} (h : (0 : UInt8) ∉ s) : cstr s = s := by
  have happend : cstr (s ++ []) = s ++ cstr [] := cstr_append h
  rwa [List.append_nil, show cstr [] = [] from rfl, List.append_nil] at happend

theorem digits_not_mem (n : Numeral) {c : UInt8} (hc : isDigit c = false) : c ∉ n.digits := by
  intro hmem
  rw [n.isDigit_of_mem c hmem] at hc
  cases hc

theorem tells_text {f : CharField} {s : Bytes} (hfits : Fits f s) (hsilent : Silent s)
    (hverdict : ∀ line, h.verdict line = Lighting.resultCode line) : Tells h (s ++ crLf) := by
  have hnul : (0 : UInt8) ∉ s ++ crLf := by
    rw [List.mem_append]
    rintro (hmem | hmem)
    · exact hfits.nul hmem
    · exact absurd hmem (by decide)
  obtain ⟨b, hb⟩ := List.exists_mem_of_length_pos hfits.pos
  refine ⟨whole_of_not_mem hnul, handled_crLf hb ?_ ?_, ?_⟩
  · intro hcr
    subst hcr
    exact hfits.cr hb
  · intro hlf
    subst hlf
    exact hfits.lf hb
  · rw [hverdict]
    exact (silent_crLf hsilent).resultCode

theorem tells_csq : Tells .bg96HandleCsq r.csqLine := by
  have hnul : (0 : UInt8) ∉ r.csqLine := by
    simp only [Report.csqLine, List.mem_append, List.mem_cons, not_or]
    exact ⟨by decide, digits_not_mem _ (by decide), by decide, digits_not_mem _ (by decide),
      by decide⟩
  refine ⟨whole_of_not_mem hnul, rfl, ?_⟩
  show Lighting.resultCode r.csqLine = none
  have hcomma : Silent (r.rssi.digits ++ commaByte :: (r.ber.digits ++ crLf)) :=
    (silent_digits _).append (silent_crLf (silent_digits _)) (by decide) (by decide)
  have hline : r.csqLine = (csqKey ++ [0x3a]) ++ 0x20 ::
      (r.rssi.digits ++ commaByte :: (r.ber.digits ++ crLf)) := rfl
  rw [hline]
  exact (Silent.append ⟨by decide, by decide⟩ hcomma (by decide) (by decide)).resultCode

theorem tells_cbc : Tells .sim7600HandleCbc r.cbcLine := by
  have hnul : (0 : UInt8) ∉ r.cbcLine := by
    simp only [Report.cbcLine, List.mem_append, List.mem_cons, not_or]
    exact ⟨by decide, digits_not_mem _ (by decide), by decide, digits_not_mem _ (by decide),
      by decide, by decide⟩
  refine ⟨whole_of_not_mem hnul, rfl, ?_⟩
  show Lighting.resultCode r.cbcLine = none
  have hunit : Silent (r.fraction.digits ++ 0x56 :: crLf) :=
    (silent_digits _).append ⟨by decide, by decide⟩ (by decide) (by decide)
  have hpoint : Silent (r.volts.digits ++ 0x2e :: (r.fraction.digits ++ 0x56 :: crLf)) :=
    (silent_digits _).append hunit (by decide) (by decide)
  have hline : r.cbcLine = (cbcKey ++ [0x3a]) ++ 0x20 ::
      (r.volts.digits ++ 0x2e :: (r.fraction.digits ++ 0x56 :: crLf)) := rfl
  rw [hline]
  exact (Silent.append ⟨by decide, by decide⟩ hpoint (by decide) (by decide)).resultCode

theorem tells_cops : Tells .bg96HandleCops r.copsLine := by
  have hnul : (0 : UInt8) ∉ r.copsLine := by
    simp only [Report.copsLine, List.mem_append, List.mem_cons, not_or]
    exact ⟨⟨⟨by decide, by decide⟩, digits_not_mem _ (by decide)⟩, by decide,
      digits_not_mem _ (by decide), by decide, r.oper_fits.nul, by decide,
      digits_not_mem _ (by decide), by decide⟩
  refine ⟨whole_of_not_mem hnul, rfl, ?_⟩
  show Lighting.resultCode r.copsLine = none
  have hact : Silent (r.oper ++ commaByte :: (r.act.digits ++ crLf)) :=
    r.oper_silent.append (silent_crLf (silent_digits _)) (by decide) (by decide)
  have hformat : Silent (r.format.digits ++ commaByte ::
      (r.oper ++ commaByte :: (r.act.digits ++ crLf))) :=
    (silent_digits _).append hact (by decide) (by decide)
  have hmode : Silent ((copsKey ++ [0x3a]) ++ 0x20 :: r.mode.digits) :=
    Silent.append ⟨by decide, by decide⟩ (silent_digits _) (by decide) (by decide)
  have hline : r.copsLine = ((copsKey ++ [0x3a]) ++ 0x20 :: r.mode.digits) ++ commaByte ::
      (r.format.digits ++ commaByte :: (r.oper ++ commaByte :: (r.act.digits ++ crLf))) := rfl
  rw [hline]
  exact (hmode.append hformat (by decide) (by decide)).resultCode

/-- Every line of the report is handled, and is not the last of its answer. -/
theorem tells_line (hline : r.line? h = some line) : Tells h line := by
  cases h with
  | bg96HandleCgmm =>
    cases hline
    exact tells_text r.name_fits r.name_silent fun _ => rfl
  | bg96HandleCgsn =>
    cases hline
    exact tells_text r.imei_fits r.imei_silent fun _ => rfl
  | bg96HandleCimi =>
    cases hline
    exact tells_text r.imsi_fits r.imsi_silent fun _ => rfl
  | bg96HandleCops =>
    cases hline
    exact tells_cops
  | bg96HandleCsq =>
    cases hline
    exact tells_csq
  | sim7600HandleCbc =>
    cases hline
    exact tells_cbc
  | _ => cases hline

theorem okLine_verdict (hline : r.line? h = some line) : h.verdict okLine = some .success := by
  cases h with
  | bg96HandleAtdPpp => cases hline
  | _ => decide

theorem answer_ends : EndsCommand h (r.answer h) := by
  unfold Report.answer
  cases hline : r.line? h with
  | some line => exact ends_told (tells_line hline) (okLine_verdict hline)
  | none => cases h <;> decide

end answer

/-! ## What is stored -/

section stored

variable {r : Report}

theorem scanInt_blank (s : Bytes) : scanInt (0x20 :: s) = scanInt s := by
  unfold scanInt
  rw [List.dropWhile_cons_of_pos (by decide)]

theorem scan_blank (f : List Directive) (s : Bytes) : scan (.int :: f) (0x20 :: s) =
    scan (.int :: f) s := by
  rw [scan, scan, scanInt_blank]

theorem storeCsq_eq (readings : Readings) : storeCsq r.csqLine readings =
    { readings with rssi := r.rssi.value, ber := r.ber.value } := by
  have hkey : memcmpEq r.csqLine csqKey = true := memcmpEq_append_self csqKey _
  have hskip : skipWord r.csqLine =
      0x20 :: (r.rssi.digits ++ commaByte :: (r.ber.digits ++ crLf)) := rfl
  have hnul : (0 : UInt8) ∉ 0x20 :: (r.rssi.digits ++ commaByte :: (r.ber.digits ++ crLf)) := by
    simp only [List.mem_append, List.mem_cons, not_or]
    exact ⟨by decide, digits_not_mem _ (by decide), by decide, digits_not_mem _ (by decide),
      by decide⟩
  have hvalues : sscanf (skipWord r.csqLine) [.int, .lit commaByte, .int] =
      [r.rssi.value, r.ber.value] := by
    unfold sscanf
    rw [hskip, whole_of_not_mem hnul, scan_blank, scan_numeral r.rssi (by decide), scan,
      if_pos rfl]
    show _ :: scan _ (r.ber.digits ++ crByte :: [lfByte]) = _
    rw [scan_numeral r.ber (by decide)]
    rfl
  unfold storeCsq
  rw [if_pos hkey, hvalues]
  rfl

theorem storeCbc_eq (readings : Readings) : storeCbc r.cbcLine readings =
    { readings with
      bcs := -1
      bcl := -1
      voltage := r.volts.value * 1000 + r.fraction.value } := by
  have hkey : memcmpEq r.cbcLine cbcKey = true := memcmpEq_append_self cbcKey _
  have hkey' : memcmpEq r.cbcLine (ascii ['+', 'C', 'B', 'C', ':']) = true :=
    memcmpEq_append_self (ascii ['+', 'C', 'B', 'C', ':']) _
  obtain ⟨d, ds, hdigits⟩ := List.exists_cons_of_ne_nil r.volts.digits_ne
  have hspace : isSpace d = false :=
    (isDigit_ne (r.volts.isDigit_of_mem d (by rw [hdigits]; exact List.mem_cons_self))).2.2.2.2
  have hdrop : (r.cbcLine.drop 5).dropWhile isSpace =
      r.volts.digits ++ 0x2e :: (r.fraction.digits ++ 0x56 :: crLf) := by
    have hrest : r.cbcLine.drop 5 =
        0x20 :: (r.volts.digits ++ 0x2e :: (r.fraction.digits ++ 0x56 :: crLf)) := rfl
    rw [hrest, List.dropWhile_cons_of_pos (by decide), hdigits, List.cons_append,
      List.dropWhile_cons_of_neg (by rw [hspace]; exact Bool.false_ne_true)]
  have hnul : (0 : UInt8) ∉ r.volts.digits ++ 0x2e :: (r.fraction.digits ++ 0x56 :: crLf) := by
    simp only [List.mem_append, List.mem_cons, not_or]
    exact ⟨digits_not_mem _ (by decide), by decide, digits_not_mem _ (by decide), by decide,
      by decide⟩
  have hvalues : cbcFormat r.cbcLine = [r.volts.value, r.fraction.value] := by
    unfold cbcFormat
    rw [if_pos hkey', hdrop]
    unfold sscanf
    rw [whole_of_not_mem hnul, scan_numeral r.volts (by decide), scan, if_pos rfl,
      scan_numeral r.fraction (by decide)]
    rfl
  have hwrap : wrap32 (r.volts.value * 1000 + r.fraction.value) =
      r.volts.value * 1000 + r.fraction.value := by
    have hlt := r.voltage_lt
    have hvolts : 0 ≤ r.volts.value := Int.natCast_nonneg _
    have hfraction : 0 ≤ r.fraction.value := Int.natCast_nonneg _
    unfold wrap32
    omega
  unfold storeCbc
  rw [if_pos hkey, hvalues]
  show { readings with
    bcs := -1
    bcl := -1
    voltage := wrap32 (r.volts.value * 1000 + r.fraction.value) } = _
  rw [hwrap]

theorem cops_fields : Strtok.tokens commaByte r.copsLine =
    [copsKey ++ colonBlank ++ r.mode.digits, r.format.digits, r.oper, r.act.digits ++ crLf] := by
  have hmode : commaByte ∉ copsKey ++ colonBlank ++ r.mode.digits := by
    simp only [List.mem_append, not_or]
    exact ⟨⟨by decide, by decide⟩, digits_not_mem _ (by decide)⟩
  have hact : commaByte ∉ r.act.digits ++ crLf := by
    rw [List.mem_append, not_or]
    exact ⟨digits_not_mem _ (by decide), by decide⟩
  have hoper : r.oper ≠ [] := List.ne_nil_of_length_pos r.oper_fits.pos
  unfold Report.copsLine
  rw [Strtok.tokens_field hmode, if_neg (List.append_ne_nil_of_right_ne_nil _ r.mode.digits_ne),
    Strtok.tokens_field (digits_not_mem _ (by decide)), if_neg r.format.digits_ne,
    Strtok.tokens_field r.oper_comma, if_neg hoper,
    Strtok.tokens_of_not_mem hact (List.append_ne_nil_of_right_ne_nil _ (List.cons_ne_nil _ _))]

theorem textOf_act {m : Mem} {b : UInt8} {f : CharField} (hf : f ∈ fields) :
    text f (copyIn m actAddress [b]) = text f m := by
  apply textAt_congr
  intro i hi
  exact copyIn_outside (.inl (within_lt hf hi))

theorem text_congr {m m' : Mem} {f g : CharField} (hf : f ∈ fields) (hg : g ∈ fields) (hne : f ≠ g)
    (h : ∀ i, ¬InField g i → m'.byte i = m.byte i) : text f m' = text f m := by
  apply textAt_congr
  intro i hi
  exact h i (fields_apart hf hg hne hi)

theorem storeCops_eq {m : Mem} (hcr : NoCr m) : ∃ m', storeCops r.copsLine m = some m' ∧ NoCr m' ∧
    text .oper m' = r.oper ∧
    ∀ f ∈ fields, f ≠ .oper → text f m' = text f m := by
  have hkey : memcmpEq r.copsLine copsKey = true := memcmpEq_append_self copsKey _
  have hsplit := splitFields_eq 5 (some r.copsLine)
  have hremaining : Strtok.remaining commaByte (some r.copsLine) =
    [copsKey ++ colonBlank ++ r.mode.digits, r.format.digits, r.oper, r.act.digits ++ crLf] :=
    cops_fields
  rw [hremaining] at hsplit
  have hfour := hsplit.trans (if_pos (Nat.lt_succ_self 4))
  obtain ⟨m1, hstore, hcr1, htext, hsame⟩ := storeString_text (m := m) (by decide) hcr r.oper_fits
  refine ⟨copyIn m1 actAddress [UInt8.ofNat (strtolAuto (r.act.digits ++ crLf) % 2 ^ 8).toNat],
    ?_, ?_, ?_, ?_⟩
  · unfold storeCops
    rw [if_pos hkey, hfour]
    show (storeString .oper r.oper m).map _ = _
    rw [hstore]
    rfl
  · intro i hi
    rw [copyIn_outside (.inl hi)]
    exact hcr1 i hi
  · rw [textOf_act (by simp [fields]), htext]
  · intro f hf hne
    rw [textOf_act hf]
    exact text_congr hf (by simp [fields]) hne hsame

end stored

/-! ## The whole program -/

/-- What the object holds behind the answer to a handler. -/
def Report.Held (r : Report) (h : LineHandler) (d : Dce) : Prop :=
  match h with
  | .bg96HandleCgmm => text .name d.memory = r.name
  | .bg96HandleCgsn => text .imei d.memory = r.imei
  | .bg96HandleCimi => text .imsi d.memory = r.imsi
  | .bg96HandleCops => text .oper d.memory = r.oper
  | .bg96HandleCsq => d.readings.rssi = r.rssi.value ∧ d.readings.ber = r.ber.value
  | .sim7600HandleCbc => d.readings.voltage = r.volts.value * 1000 + r.fraction.value
  | _ => True

/-- The string a handler writes. -/
def fieldOf : LineHandler → Option CharField
  | .bg96HandleCgmm => some .name
  | .bg96HandleCgsn => some .imei
  | .bg96HandleCimi => some .imsi
  | .bg96HandleCops => some .oper
  | _ => none

/-- What the object holds behind the answers to some handlers. -/
structure Known (r : Report) (told : List LineHandler) (d : Dce) : Prop where
  noCr : NoCr d.memory
  held : ∀ h ∈ told, r.Held h d

section whole

variable {r : Report} {told : List LineHandler} {d d' : Dce} {h h' : LineHandler} {line : Bytes}

theorem held_congr (hreadings : d'.readings = d.readings)
    (htext : ∀ f ∈ fields, fieldOf h = some f → text f d'.memory = text f d.memory)
    (hheld : r.Held h d) : r.Held h d' := by
  cases h with
  | bg96HandleCgmm => exact (htext .name (by simp [fields]) rfl).trans hheld
  | bg96HandleCgsn => exact (htext .imei (by simp [fields]) rfl).trans hheld
  | bg96HandleCimi => exact (htext .imsi (by simp [fields]) rfl).trans hheld
  | bg96HandleCops => exact (htext .oper (by simp [fields]) rfl).trans hheld
  | bg96HandleCsq =>
    show d'.readings.rssi = _ ∧ d'.readings.ber = _
    rw [hreadings]
    exact hheld
  | sim7600HandleCbc =>
    show d'.readings.voltage = _
    rw [hreadings]
    exact hheld
  | _ => trivial

/-- A string is added to what is known. -/
theorem Known.add_text {g : CharField} {m' : Mem} (hknown : Known r told d)
    (hg : fieldOf h = some g)
    (hcr : NoCr m') (hheld : r.Held h { d with memory := m' })
    (hsame : ∀ f ∈ fields, f ≠ g → text f m' = text f d.memory) :
    Known r (h :: told) { d with memory := m' } := by
  refine ⟨hcr, fun h' hmem => ?_⟩
  by_cases heq : h' = h
  · rw [heq]
    exact hheld
  · have htold := hknown.held h' ((List.mem_cons.mp hmem).resolve_left heq)
    have hreadings : ({ d with memory := m' } : Dce).readings = d.readings := rfl
    apply held_congr hreadings _ htold
    intro f hf hfield
    apply hsame f hf
    intro hfg
    apply heq
    -- No two handlers write the same string.
    rw [hfg] at hfield
    cases h <;> cases hg <;> cases h' <;> first | rfl | cases hfield

theorem Known.add_line (hknown : Known r told d) {f : CharField} {s : Bytes}
    (hfield : fieldOf h = some f)
    (hf : f ∈ fields) (hlt : f.start + f.size < actAddress) (hfits : Fits f s)
    (hheld : ∀ m', text f m' = s → r.Held h { d with memory := m' }) :
    ∃ m', storeString f (s ++ crLf) d.memory = some m' ∧
      Known r (h :: told) { d with memory := m' } := by
  obtain ⟨m', hstore, hcr, htext, hsame⟩ := storeString_line hlt hknown.noCr hfits
  exact ⟨m', hstore, hknown.add_text hfield hcr (hheld m' htext)
    fun g hg hne => text_congr hg hf hne hsame⟩

/-- A line of the report adds to what is known. -/
theorem Known.store (hknown : Known r told d) (hline : r.line? h = some line) :
    ∃ d', h.store line d = some d' ∧ Known r (h :: told) d' := by
  cases h with
  | bg96HandleCgmm =>
    cases hline
    obtain ⟨m', hstore, hknown'⟩ := hknown.add_line (h := .bg96HandleCgmm) (f := .name) rfl
      (by simp [fields]) (by decide) r.name_fits fun m' htext => htext
    exact ⟨_, congrArg (Option.map _) hstore, hknown'⟩
  | bg96HandleCgsn =>
    cases hline
    obtain ⟨m', hstore, hknown'⟩ := hknown.add_line (h := .bg96HandleCgsn) (f := .imei) rfl
      (by simp [fields]) (by decide) r.imei_fits fun m' htext => htext
    exact ⟨_, congrArg (Option.map _) hstore, hknown'⟩
  | bg96HandleCimi =>
    cases hline
    obtain ⟨m', hstore, hknown'⟩ := hknown.add_line (h := .bg96HandleCimi) (f := .imsi) rfl
      (by simp [fields]) (by decide) r.imsi_fits fun m' htext => htext
    exact ⟨_, congrArg (Option.map _) hstore, hknown'⟩
  | bg96HandleCops =>
    cases hline
    obtain ⟨m', hstore, hcr, htext, hsame⟩ := storeCops_eq (r := r) hknown.noCr
    exact ⟨_, congrArg (Option.map _) hstore, hknown.add_text rfl hcr htext hsame⟩
  | bg96HandleCsq =>
    cases hline
    refine ⟨_, rfl, hknown.noCr, fun h' hmem => ?_⟩
    rw [storeCsq_eq]
    rcases List.mem_cons.mp hmem with heq | htold
    · rw [heq]
      exact ⟨rfl, rfl⟩
    · have hheld := hknown.held h' htold
      cases h' with
      | bg96HandleCsq => exact ⟨rfl, rfl⟩
      | _ => exact hheld
  | sim7600HandleCbc =>
    cases hline
    refine ⟨_, rfl, hknown.noCr, fun h' hmem => ?_⟩
    rw [storeCbc_eq]
    rcases List.mem_cons.mp hmem with heq | htold
    · rw [heq]
      rfl
    · have hheld := hknown.held h' htold
      cases h' with
      | sim7600HandleCbc => rfl
      | _ => exact hheld
  | _ => cases hline

theorem Known.congr (hknown : Known r told d) (hmemory : d'.memory = d.memory)
    (hreadings : d'.readings = d.readings) : Known r told d' := by
  refine ⟨by rw [hmemory]; exact hknown.noCr, fun h hmem => ?_⟩
  exact held_congr hreadings (fun f _ _ => by rw [hmemory]) (hknown.held h hmem)

/-- Nothing is told but the result. -/
theorem Known.no_line (hknown : Known r told d) (hline : r.line? h = none) :
    Known r (h :: told) d := by
  refine ⟨hknown.noCr, fun h' hmem => ?_⟩
  rcases List.mem_cons.mp hmem with heq | htold
  · rw [heq]
    cases h with
    | handleResponseDefault | bg96HandleExitDataMode | bg96HandleAtdPpp => exact trivial
    | _ => cases hline
  · exact hknown.held h' htold

theorem takeLines_no_line (hline : r.line? h = none) :
    takeLines h (r.answer h) d = some { d with state := .success } := by
  cases h with
  | handleResponseDefault | bg96HandleExitDataMode | bg96HandleAtdPpp => rfl
  | _ => cases hline

theorem takeLines_line (hline : r.line? h = some line) : takeLines h (r.answer h) d =
    (h.store line d).map fun d' => { d' with state := .success } := by
  unfold Report.answer
  rw [hline]
  exact takeLines_told (tells_line hline) (okLine_verdict hline)

/-- The whole answer to a command. -/
theorem Known.exchange (hknown : Known r told d) (command : ModemCommand) :
    ∃ d', Dialogue.exchange command (r.answer command.handler) d = some d' ∧
      d'.state = .success ∧ Known r (command.handler :: told) d' := by
  have hbegun : Known r told (begun d command.handler) := hknown.congr rfl rfl
  unfold Dialogue.exchange
  cases hline : r.line? command.handler with
  | some line =>
    obtain ⟨d', hstore, hknown'⟩ := hbegun.store hline
    rw [takeLines_line hline, hstore]
    exact ⟨_, rfl, rfl, hknown'.congr rfl rfl⟩
  | none =>
    rw [takeLines_no_line hline]
    exact ⟨_, rfl, rfl, (hbegun.no_line hline).congr rfl rfl⟩

end whole

section program

variable {r : Report} {d : Dce}

/-- The modem of a report. -/
def Report.modem (r : Report) (_ : Nat) (command : ModemCommand) : List Bytes :=
  r.answer command.handler

/-- The commands of `_ppp_task`, where each succeeds. -/
def pppOrder : List ModemCommand :=
  [dceSync, dceEchoOff, getModuleName, getImeiNumber, getImsiNumber, getOperatorName, setFlowCtrl,
    dceStoreProfile, getSignalQuality, getBatteryStatus, definePdpContext, dialPpp]

theorem pppCommands_succeeded (n : Nat) :
    pppCommands (List.replicate n (some .success)) = pppOrder[n]? := by
  have hall : (List.replicate n (some ModemState.success)).all (· = some .success) = true := by
    rw [List.all_replicate]
    split <;> simp
  unfold pppCommands
  dsimp only
  rw [if_pos hall, List.length_replicate]
  rfl

/-- The program succeeds, and what is told is known. -/
theorem report_inTurn (hcr : NoCr d.memory) (n : Nat) :
    ∃ d', inTurn pppCommands r.modem d n =
        some (d', List.replicate (min n pppOrder.length) (some .success)) ∧
      Known r ((pppOrder.take n).map ModemCommand.handler) d' := by
  induction n with
  | zero => exact ⟨d, rfl, hcr, fun h hmem => absurd hmem List.not_mem_nil⟩
  | succ n ih =>
    obtain ⟨d', hturn, hknown⟩ := ih
    rw [inTurn, hturn, Option.bind_some]
    dsimp only
    rw [pppCommands_succeeded]
    by_cases hlt : n < pppOrder.length
    · have hmin : min n pppOrder.length = n := Nat.min_eq_left (Nat.le_of_lt hlt)
      have hmin' : min (n + 1) pppOrder.length = n + 1 := Nat.min_eq_left hlt
      obtain ⟨d1, hexchange, hstate, hknown1⟩ := hknown.exchange pppOrder[n]
      rw [hmin, hmin', List.getElem?_eq_getElem hlt]
      dsimp only
      refine ⟨d1, ?_, hknown1.noCr, ?_⟩
      · show (Dialogue.exchange pppOrder[n] (r.answer pppOrder[n].handler) d').map _ = _
        rw [hexchange, Option.map_some, hstate, List.replicate_succ']
      · intro h hmem
        apply hknown1.held
        rw [List.take_succ_eq_append_getElem hlt, List.map_append, List.mem_append] at hmem
        rcases hmem with hmem | hmem
        · exact List.mem_cons_of_mem _ hmem
        · exact List.mem_cons.mpr (.inl (List.mem_singleton.mp hmem))
    · have hmin : min n pppOrder.length = pppOrder.length := Nat.min_eq_right (by omega)
      have hmin' : min (n + 1) pppOrder.length = pppOrder.length := Nat.min_eq_right (by omega)
      rw [hmin, hmin', List.getElem?_eq_none (Nat.le_refl _)]
      refine ⟨d', rfl, ?_⟩
      rw [List.take_of_length_le (by omega)] at hknown ⊢
      exact hknown

end program

/-- **What the modem says of itself is what the program has.** In any order of steps, when the
program is through every command has succeeded, and the object holds the report. -/
theorem modem_reports (r : Report) (d : Dce) (hcr : NoCr d.memory) (turns : List ModemTurn)
    (hquiet : ∀ t ∈ turns, Undisturbed t)
    (hidle : (reached pppCommands r.modem d turns).caller = .idle)
    (hthrough : pppCommands (reached pppCommands r.modem d turns).results = none) :
    (reached pppCommands r.modem d turns).results = List.replicate 12 (some .success) ∧
      text .name (reached pppCommands r.modem d turns).dce.memory = r.name ∧
      text .imei (reached pppCommands r.modem d turns).dce.memory = r.imei ∧
      text .imsi (reached pppCommands r.modem d turns).dce.memory = r.imsi ∧
      text .oper (reached pppCommands r.modem d turns).dce.memory = r.oper ∧
      (reached pppCommands r.modem d turns).dce.readings.rssi = r.rssi.value ∧
      (reached pppCommands r.modem d turns).dce.readings.ber = r.ber.value ∧
      (reached pppCommands r.modem d turns).dce.readings.voltage =
        r.volts.value * 1000 + r.fraction.value := by
  have hends : Ends pppCommands r.modem := fun _ command _ => answer_ends
  have hsafe : ∀ n, (inTurn pppCommands r.modem d n).isSome := by
    intro n
    obtain ⟨d', hturn, -⟩ := report_inTurn (r := r) hcr n
    rw [hturn]
    rfl
  obtain ⟨d', hturn, hstage⟩ := inTurn_after hends hsafe hquiet
  generalize reached pppCommands r.modem d turns = s at *
  obtain ⟨d1, hturn1, hknown⟩ := report_inTurn (r := r) hcr s.results.length
  rw [hturn] at hturn1
  injection hturn1 with hpair
  injection hpair with hd hresults
  subst hd
  have hdce : s.dce = d' := by
    unfold Stage at hstage
    rw [hidle] at hstage
    exact hstage.2
  -- The program is not through before its last command.
  have hlast : 12 ≤ s.results.length := by
    by_contra hlt
    have hmin : min s.results.length pppOrder.length = s.results.length :=
      Nat.min_eq_left (by show _ ≤ 12; omega)
    rw [hmin] at hresults
    rw [hresults, pppCommands_succeeded, List.getElem?_eq_none_iff] at hthrough
    rw [hdce] at *
    exact hlt hthrough
  have hall : (pppOrder.take s.results.length).map ModemCommand.handler =
      pppOrder.map ModemCommand.handler := by
    rw [List.take_of_length_le hlast]
  rw [hall] at hknown
  have hmin : min s.results.length pppOrder.length = 12 := Nat.min_eq_right hlast
  rw [hmin] at hresults
  rw [hdce]
  exact ⟨hresults, hknown.held .bg96HandleCgmm (by decide), hknown.held .bg96HandleCgsn (by decide),
    hknown.held .bg96HandleCimi (by decide), hknown.held .bg96HandleCops (by decide),
    (hknown.held .bg96HandleCsq (by decide)).1, (hknown.held .bg96HandleCsq (by decide)).2,
    hknown.held .sim7600HandleCbc (by decide)⟩

/-- A modem with a short report. -/
def shortReport : Report where
  name := ascii ['S', 'I', 'M']
  imei := ascii ['8', '6']
  imsi := ascii ['4', '5']
  oper := ascii ['V', 'N']
  mode := ⟨ascii ['0'], List.cons_ne_nil _ _, List.all_eq_true.mp rfl, by decide⟩
  format := ⟨ascii ['0'], List.cons_ne_nil _ _, List.all_eq_true.mp rfl, by decide⟩
  act := ⟨ascii ['7'], List.cons_ne_nil _ _, List.all_eq_true.mp rfl, by decide⟩
  rssi := ⟨ascii ['1', '9'], List.cons_ne_nil _ _, List.all_eq_true.mp rfl, by decide⟩
  ber := ⟨ascii ['9', '9'], List.cons_ne_nil _ _, List.all_eq_true.mp rfl, by decide⟩
  volts := ⟨ascii ['3'], List.cons_ne_nil _ _, List.all_eq_true.mp rfl, by decide⟩
  fraction := ⟨ascii ['8', '9', '1'], List.cons_ne_nil _ _, List.all_eq_true.mp rfl, by decide⟩
  name_fits := ⟨by decide, by decide, by decide, by decide, by decide⟩
  imei_fits := ⟨by decide, by decide, by decide, by decide, by decide⟩
  imsi_fits := ⟨by decide, by decide, by decide, by decide, by decide⟩
  oper_fits := ⟨by decide, by decide, by decide, by decide, by decide⟩
  name_silent := ⟨by decide, by decide⟩
  imei_silent := ⟨by decide, by decide⟩
  imsi_silent := ⟨by decide, by decide⟩
  oper_silent := ⟨by decide, by decide⟩
  oper_comma := by decide
  voltage_lt := by decide

/-- The steps of one command, with an answer of three lines or fewer. -/
def commandTurns : List ModemTurn :=
  List.replicate 3 (.caller false) ++ List.replicate 8 .reader ++ List.replicate 3 (.caller false)

def pppTurns : List ModemTurn := (List.replicate 12 commandTurns).flatten

theorem pppTurns_undisturbed : ∀ t ∈ pppTurns, Undisturbed t := by
  intro t ht
  obtain ⟨l, hl, ht⟩ := List.mem_flatten.mp ht
  rw [List.eq_of_mem_replicate hl] at ht
  unfold commandTurns at ht
  simp only [List.mem_append, List.mem_replicate] at ht
  rcases ht with (⟨_, heq⟩ | ⟨_, heq⟩) | ⟨_, heq⟩ <;> subst heq <;> trivial

theorem modem_reports_shortReport :
    (reached pppCommands shortReport.modem freshDce pppTurns).results =
        List.replicate 12 (some .success) ∧
      text .name (reached pppCommands shortReport.modem freshDce pppTurns).dce.memory =
        shortReport.name ∧
      text .imei (reached pppCommands shortReport.modem freshDce pppTurns).dce.memory =
        shortReport.imei ∧
      text .imsi (reached pppCommands shortReport.modem freshDce pppTurns).dce.memory =
        shortReport.imsi ∧
      text .oper (reached pppCommands shortReport.modem freshDce pppTurns).dce.memory =
        shortReport.oper ∧
      (reached pppCommands shortReport.modem freshDce pppTurns).dce.readings.rssi =
        shortReport.rssi.value ∧
      (reached pppCommands shortReport.modem freshDce pppTurns).dce.readings.ber =
        shortReport.ber.value ∧
      (reached pppCommands shortReport.modem freshDce pppTurns).dce.readings.voltage =
        shortReport.volts.value * 1000 + shortReport.fraction.value := by
  apply modem_reports shortReport freshDce ?_ pppTurns pppTurns_undisturbed
  · decide +kernel
  · decide +kernel
  · intro i _ hcr
    cases hcr

end Lighting.Dialogue
