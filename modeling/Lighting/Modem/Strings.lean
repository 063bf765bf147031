import Lighting.Modem.Answered

/-!
# The strings of the modem object

What a line leaves in `imei`, `imsi`, `name` and `oper`. `snprintf` ends the string within the
field, but it answers the length of the line, and `strip_cr_lf_tail` takes this for the length of
the string: a line too long for its field has its tail looked for behind the field. All it can
write there are zeros, so in every run the four strings end within their fields
(`strings_end`), whatever lines come.
-/

set_option autoImplicit false

namespace Lighting.Dialogue

open CString ByteMemory Runs

/-- The four strings. -/
def fields : List CharField := [.imei, .imsi, .name, .oper]

def text (f : CharField) (m : Mem) : Bytes := textAt m f.start f.size

def InField (f : CharField) (i : Nat) : Prop := f.start ≤ i ∧ i < f.start + f.size

section strip

variable {m m' : Mem} {i str len : Nat}

theorem clearByte_byte (h : clearByte m i = some m') (k : Nat) :
    m'.byte k = if k = i then 0 else m.byte k := by
  unfold clearByte at h
  split at h
  · cases h
    split
    · rename_i hk
      subst hk
      exact copyIn_inside (k := 0) (b := [0]) Nat.one_pos
    · exact copyIn_outside (by rw [List.length_singleton]; omega)
  · cases h

/-- What is stripped becomes zero, at one of two places. -/
theorem strip_byte (h : stripCrLfTail m str len = some m') (k : Nat) :
    m'.byte k = m.byte k ∨
      m'.byte k = 0 ∧ m.byte k = crByte ∧ (k = str + len - 2 ∨ k = str + len - 1) := by
  unfold stripCrLfTail at h
  split at h
  · rename_i hcr
    rw [clearByte_byte h]
    split
    · rename_i hk
      rw [hk]
      exact .inr ⟨rfl, hcr, .inl rfl⟩
    · exact .inl rfl
  · split at h
    · rename_i hcr
      rw [clearByte_byte h]
      split
      · rename_i hk
        rw [hk]
        exact .inr ⟨rfl, hcr, .inr rfl⟩
      · exact .inl rfl
    · cases h
      exact .inl rfl

theorem strip_zero (h : stripCrLfTail m str len = some m') {k : Nat} (hk : m.byte k = 0) :
    m'.byte k = 0 := by
  rcases strip_byte h k with hsame | ⟨hzero, -⟩
  · rw [hsame, hk]
  · exact hzero

theorem strip_of_ne (hcr : m.byte (str + len - 2) ≠ crByte)
    (hcr' : m.byte (str + len - 1) ≠ crByte) :
    stripCrLfTail m str len = some m := by
  unfold stripCrLfTail
  rw [if_neg hcr, if_neg hcr']

end strip

section store

variable {m m' : Mem} {f : CharField} {line : Bytes}

theorem length_snprintf (f : CharField) (line : Bytes) :
    (line.take (f.size - 1) ++ [(0 : UInt8)]).length = min (f.size - 1) line.length + 1 := by
  rw [List.length_append, List.length_take, List.length_singleton]

theorem snprintf_outside (hf : 0 < f.size) {i : Nat} (hi : ¬InField f i) :
    (snprintfString m f line).byte i = m.byte i := by
  unfold InField at hi
  apply copyIn_outside
  rw [length_snprintf]
  omega

theorem snprintf_inside {raw : Bytes} {k : Nat} (hk : k < min (f.size - 1) raw.length) :
    (snprintfString m f raw).byte (f.start + k) = raw[k] := by
  have hlen : k < (raw.take (f.size - 1) ++ [(0 : UInt8)]).length := by
    rw [length_snprintf]
    omega
  unfold snprintfString
  rw [copyIn_inside hlen, List.getElem_append_left (by rw [List.length_take]; exact hk),
    List.getElem_take]

/-- The string ends within the field. -/
theorem snprintf_zero : (snprintfString m f line).byte
    (f.start + min (f.size - 1) line.length) = 0 := by
  have hlen : min (f.size - 1) line.length < (line.take (f.size - 1) ++ [(0 : UInt8)]).length := by
    rw [length_snprintf]
    omega
  unfold snprintfString
  rw [copyIn_inside hlen, List.getElem_append_right (by rw [List.length_take])]
  simp

/-- Where a line was stored, a byte outside its field is as before or zero. -/
theorem storeString_outside (hf : 0 < f.size) (h : storeString f line m = some m') {i : Nat}
    (hi : ¬InField f i) : m'.byte i = m.byte i ∨ m'.byte i = 0 := by
  unfold storeString at h
  dsimp only at h
  split at h
  · rcases strip_byte h i with hsame | ⟨hzero, -⟩
    · exact .inl (hsame.trans (snprintf_outside hf hi))
    · exact .inr hzero
  · cases h
    exact .inl (snprintf_outside hf hi)

theorem storeString_ends (hf : 0 < f.size) (h : storeString f line m = some m') :
    EndsWithin m' f.start f.size := by
  refine ⟨min (f.size - 1) line.length, by omega, ?_⟩
  unfold storeString at h
  dsimp only at h
  split at h
  · exact strip_zero h snprintf_zero
  · cases h
    exact snprintf_zero

theorem size_pos (hf : f ∈ fields) : 0 < f.size := by
  simp only [fields, List.mem_cons, List.not_mem_nil, or_false] at hf
  rcases hf with h | h | h | h <;> subst h <;> decide

/-- Two of the strings have no byte in common. -/
theorem fields_apart {g : CharField} (hf : f ∈ fields) (hg : g ∈ fields) (hne : f ≠ g) {i : Nat}
    (hi : InField f i) : ¬InField g i := by
  unfold InField at *
  simp only [fields, List.mem_cons, List.not_mem_nil, or_false] at hf hg
  rcases hf with h | h | h | h <;> rcases hg with h' | h' | h' | h' <;> subst h <;> subst h' <;>
    first
      | exact absurd rfl hne
      | simp only [CharField.imei, CharField.imsi, CharField.name, CharField.oper] at *; omega

theorem within_lt (hf : f ∈ fields) {i : Nat} (hi : InField f i) : i < actAddress := by
  unfold InField at hi
  simp only [fields, List.mem_cons, List.not_mem_nil, or_false] at hf
  rcases hf with h | h | h | h <;> subst h <;>
    simp only [CharField.imei, CharField.imsi, CharField.name, CharField.oper] at hi <;>
    unfold actAddress <;> omega

/-- All the strings end. -/
def AllEnd (m : Mem) : Prop := ∀ f ∈ fields, EndsWithin m f.start f.size

theorem allEnd_storeString (hf : f ∈ fields) (hends : AllEnd m)
    (h : storeString f line m = some m') : AllEnd m' := by
  intro g hg
  by_cases heq : g = f
  · subst heq
    exact storeString_ends (size_pos hf) h
  · obtain ⟨k, hk, hzero⟩ := hends g hg
    have hwithin : InField g (g.start + k) := ⟨Nat.le_add_right _ _, by omega⟩
    refine ⟨k, hk, ?_⟩
    rcases storeString_outside (size_pos hf) h (fields_apart hg hf heq hwithin) with hsame | hclear
    · rw [hsame, hzero]
    · exact hclear

theorem allEnd_storeCops (hends : AllEnd m) (h : storeCops line m = some m') : AllEnd m' := by
  have hact : ∀ (m1 : Mem) (b : UInt8), AllEnd m1 → AllEnd (copyIn m1 actAddress [b]) := by
    intro m1 b hends1 g hg
    obtain ⟨k, hk, hzero⟩ := hends1 g hg
    have hlt := within_lt hg (i := g.start + k) ⟨Nat.le_add_right _ _, by omega⟩
    refine ⟨k, hk, ?_⟩
    rw [copyIn_outside (.inl hlt), hzero]
  unfold storeCops at h
  split at h
  · split at h
    · cases h
    · rename_i p _
      dsimp only at h
      -- The operator's name, and behind it the access technology.
      have hoper : ∀ m1, (if 3 ≤ p.length then storeString .oper (p.getD 2 []) m else some m) =
          some m1 → AllEnd m1 := by
        intro m1 h1
        split at h1
        · exact allEnd_storeString (by simp [fields]) hends h1
        · cases h1
          exact hends
      split at h
      · obtain ⟨m1, h1, h2⟩ := Option.map_eq_some_iff.mp h
        subst h2
        exact hact m1 _ (hoper m1 h1)
      · exact hoper m' h
  · cases h
    exact hends

end store

/-! ## A line that fits -/

/-- No byte of the strings is a carriage return. -/
def NoCr (m : Mem) : Prop := ∀ i, i < actAddress → m.byte i ≠ crByte

def crLf : Bytes := [crByte, lfByte]

/-- A text of one line has a place in a field. -/
structure Fits (f : CharField) (s : Bytes) : Prop where
  nul : (0 : UInt8) ∉ s
  cr : crByte ∉ s
  lf : lfByte ∉ s
  pos : 0 < s.length
  lt : s.length < f.size

section fits

variable {m m' : Mem} {f : CharField} {line s : Bytes}

/-- The carriage returns in memory are those of the line. -/
theorem snprintf_cr {raw : Bytes} (hf : 0 < f.size) (hcr : NoCr m) {i : Nat} (hi : i < actAddress)
    (hat : (snprintfString m f raw).byte i = crByte) :
    ∃ k, i = f.start + k ∧ k < f.size - 1 ∧ raw[k]? = some crByte := by
  by_cases hin : InField f i
  · obtain ⟨k, rfl⟩ : ∃ k, i = f.start + k := ⟨i - f.start, by unfold InField at hin; omega⟩
    refine ⟨k, rfl, ?_⟩
    rcases Nat.lt_trichotomy k (min (f.size - 1) raw.length) with hlt | heq | hgt
    · rw [snprintf_inside hlt] at hat
      refine ⟨by omega, ?_⟩
      rw [List.getElem?_eq_getElem (by omega), hat]
    · rw [heq, snprintf_zero] at hat
      exact absurd hat (by decide)
    · -- Behind the string the field is as before.
      have hsame : (snprintfString m f raw).byte (f.start + k) = m.byte (f.start + k) :=
        copyIn_outside (.inr (by rw [length_snprintf]; omega))
      rw [hsame] at hat
      exact absurd hat (hcr _ hi)
  · rw [snprintf_outside hf hin] at hat
    exact absurd hat (hcr i hi)

/-- The text of a field, where the line that was stored starts with it. -/
theorem text_of_bytes (hfits : Fits f s) {r : Bytes}
    (hsame : ∀ k, k < s.length → m'.byte (f.start + k) =
      (snprintfString m f (s ++ r)).byte (f.start + k))
    (hend : m'.byte (f.start + s.length) = 0) : text f m' = s := by
  have hlt := hfits.lt
  apply textAt_eq hfits.nul hlt _ hend
  unfold bytesAt
  apply List.ext_getElem
  · simp
  · intro k hk hk'
    rw [List.getElem_map, List.getElem_range, hsame k hk',
      snprintf_inside (by rw [List.length_append]; omega), List.getElem_append_left hk']

theorem storeString_line (hf : f.start + f.size < actAddress) (hcr : NoCr m) (hfits : Fits f s) :
    ∃ m', storeString f (s ++ crLf) m = some m' ∧ NoCr m' ∧ text f m' = s ∧
      ∀ i, ¬InField f i → m'.byte i = m.byte i := by
  obtain ⟨hnul, hscr, -, hpos, hlt⟩ := id hfits
  have hsize : 0 < f.size := by omega
  have hlen : (s ++ crLf).length = s.length + 2 := List.length_append
  have hat2 : f.start + (s ++ crLf).length - 2 = f.start + s.length := by omega
  have hat1 : f.start + (s ++ crLf).length - 1 = f.start + s.length + 1 := by omega
  have hline : ∀ k, (s ++ crLf)[k]? = some crByte → k = s.length := by
    intro k hk
    rcases Nat.lt_trichotomy k s.length with h | h | h
    · rw [List.getElem?_append_left h] at hk
      exact absurd (List.mem_of_getElem? hk) hscr
    · exact h
    · rw [List.getElem?_append_right (Nat.le_of_lt h)] at hk
      obtain ⟨j, hj⟩ : ∃ j, k - s.length = j + 1 := ⟨k - s.length - 1, by omega⟩
      rw [hj] at hk
      cases j with
      | zero => exact absurd hk (by decide)
      | succ j => cases hk
  have hcrs : ∀ i, i < actAddress → (snprintfString m f (s ++ crLf)).byte i = crByte →
      i = f.start + s.length ∧ s.length < f.size - 1 := by
    intro i hi hat
    obtain ⟨k, rfl, hk, hget⟩ := snprintf_cr hsize hcr hi hat
    obtain rfl := hline k hget
    exact ⟨rfl, hk⟩
  unfold storeString
  dsimp only
  rw [if_pos (by omega)]
  by_cases hroom : s.length < f.size - 1
  · -- The carriage return is in the field, and is stripped.
    have hat : (snprintfString m f (s ++ crLf)).byte (f.start + s.length) = crByte := by
      rw [snprintf_inside (by omega), List.getElem_append_right (Nat.le_refl _)]
      simp [crLf]
    have hclear : stripCrLfTail (snprintfString m f (s ++ crLf)) f.start (s ++ crLf).length =
        clearByte (snprintfString m f (s ++ crLf)) (f.start + s.length) := by
      unfold stripCrLfTail
      rw [hat2, if_pos hat]
    have hsome : clearByte (snprintfString m f (s ++ crLf)) (f.start + s.length) =
        some (copyIn (snprintfString m f (s ++ crLf)) (f.start + s.length) [0]) :=
      if_pos (by omega)
    refine ⟨_, hclear.trans hsome, ?_, ?_, ?_⟩
    · intro i hi hbyte
      rw [clearByte_byte hsome] at hbyte
      split at hbyte
      · exact absurd hbyte (by decide)
      · rename_i hne
        exact hne (hcrs i hi hbyte).1
    · apply text_of_bytes hfits (r := crLf)
      · intro k hk
        rw [clearByte_byte hsome, if_neg (by omega)]
      · rw [clearByte_byte hsome, if_pos rfl]
    · intro i hi
      rw [clearByte_byte hsome, if_neg, snprintf_outside hsize hi]
      intro heq
      apply hi
      unfold InField
      omega
  · -- The string fills the field, and behind it there is no carriage return.
    have hno : ∀ i, i < actAddress → (snprintfString m f (s ++ crLf)).byte i ≠ crByte :=
      fun i hi hat => hroom (hcrs i hi hat).2
    refine ⟨_, strip_of_ne (hno _ (by omega)) (hno _ (by omega)), hno, ?_, ?_⟩
    · apply text_of_bytes hfits (r := crLf) (fun _ _ => rfl)
      have hmin : s.length = min (f.size - 1) (s ++ crLf).length := by omega
      rw [hmin]
      exact snprintf_zero
    · exact fun i hi => snprintf_outside hsize hi

/-- A text without an end of line. -/
theorem storeString_text (hf : f.start + f.size ≤ actAddress) (hcr : NoCr m) (hfits : Fits f s) :
    ∃ m', storeString f s m = some m' ∧ NoCr m' ∧ text f m' = s ∧
      ∀ i, ¬InField f i → m'.byte i = m.byte i := by
  obtain ⟨hnul, hscr, -, hpos, hlt⟩ := id hfits
  have hsize : 0 < f.size := by omega
  have hno : ∀ i, i < actAddress → (snprintfString m f s).byte i ≠ crByte := by
    intro i hi hat
    obtain ⟨k, -, -, hget⟩ := snprintf_cr hsize hcr hi hat
    exact hscr (List.mem_of_getElem? hget)
  have hstore : storeString f s m = some (snprintfString m f s) := by
    unfold storeString
    dsimp only
    split
    · exact strip_of_ne (hno _ (by omega)) (hno _ (by omega))
    · rfl
  refine ⟨_, hstore, hno, ?_, fun i hi => snprintf_outside hsize hi⟩
  have hmin : s.length = min (f.size - 1) s.length := by omega
  apply textAt_eq hnul hlt
  · unfold bytesAt
    apply List.ext_getElem
    · simp
    · intro k hk hk'
      rw [List.getElem_map, List.getElem_range, snprintf_inside (by omega)]
  · rw [hmin]
    exact snprintf_zero

end fits

/-! ## In every run -/

theorem allEnd_store {h : LineHandler} {line : Bytes} {d d' : Dce} (hends : AllEnd d.memory)
    (hstore : h.store line d = some d') : AllEnd d'.memory := by
  cases h with
  | bg96HandleCgmm | bg96HandleCgsn | bg96HandleCimi =>
    obtain ⟨memory, hmem, rfl⟩ := Option.map_eq_some_iff.mp hstore
    exact allEnd_storeString (by simp [fields]) hends hmem
  | bg96HandleCops =>
    obtain ⟨memory, hmem, rfl⟩ := Option.map_eq_some_iff.mp hstore
    exact allEnd_storeCops hends hmem
  | _ =>
    cases hstore
    exact hends

def StringsEnd (s : Modem) : Prop := AllEnd s.dce.memory

theorem stringsEnd_step (program : ModemProgram) (answer : Nat → ModemCommand → List Bytes)
    (t : ModemTurn) (s : Modem) (h : StringsEnd s) :
    StringsEnd (Modem.step program answer t s) := by
  cases t with
  | caller timesOut =>
    show StringsEnd (s.stepCaller program answer timesOut)
    unfold Modem.stepCaller
    repeat' split
    all_goals exact h
  | reader =>
    show StringsEnd s.stepReader
    unfold Modem.stepReader
    split
    · split
      · exact h
      · split
        · exact h
        · split <;> exact h
    · split <;> exact h
    · split
      · exact h
      · split
        · rename_i hstore
          exact allEnd_store h hstore
        · exact h
    · exact h
    · exact h
  | receive line => exact h

/-- **The strings the modem reports end within their fields**, in every state of every run,
whatever lines come and in whatever order the tasks go on. -/
theorem strings_end (program : ModemProgram) (answer : Nat → ModemCommand → List Bytes) (dce : Dce)
    (hends : AllEnd dce.memory) (turns : List ModemTurn) :
    AllEnd (reached program answer dce turns).dce.memory := by
  have hstart : StringsEnd (.start dce) := hends
  exact after_invariant (stringsEnd_step program answer) hstart

theorem strings_end_fresh :
    AllEnd (reached pppCommands contentModem freshDce syncTurns).dce.memory :=
  strings_end pppCommands contentModem freshDce
    (fun _ hf => ⟨0, size_pos hf, rfl⟩) syncTurns

end Lighting.Dialogue
