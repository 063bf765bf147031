import Lighting.Model.Nextion

/-!
# The commands of the display

What the display sends when a button is pressed or a time is entered, and the event each
command stands for. `Command.Holds` is what the read task needs to find at the head of its
memory to raise that event, and it raises it for nothing else (`dispatch_event_iff`). A command
that is there as a whole is enough (`Command.holds_whole`).
-/

set_option autoImplicit false

namespace Lighting

open CString

def atSign : UInt8 := 0x40

/-- The commands that stand for an event. The numbers of a schedule are times of day. -/
inductive Command where
  | manualOn
  | manualOff
  | upTime (startHour startMinute endHour endMinute : Numeral)
      (hours : startHour.value ≤ 23 ∧ endHour.value ≤ 23)
      (minutes : startMinute.value ≤ 59 ∧ endMinute.value ≤ 59)
  | rtc (hour minute day month year : Numeral)
  | timeSync

/-- Numbers with a comma behind each. -/
def fields (ns : List Numeral) : Bytes := ns.flatMap fun n => n.digits ++ [commaByte]

def Command.encode : Command → Bytes
  | .manualOn => manualOnKey
  | .manualOff => manualOffKey
  | .upTime startHour startMinute endHour endMinute _ _ =>
    upTimeKey ++ ascii [','] ++ fields [startHour, startMinute, endHour, endMinute] ++ ascii ['$']
  | .rtc hour minute day month year =>
    rtcPrefix ++ ascii [','] ++ fields [hour, minute, day, month, year] ++ ascii ['$']
  | .timeSync => syncTimeKey

def Command.event : Command → Event
  | .manualOn => .nextionManualOn
  | .manualOff => .nextionManualOff
  | .upTime startHour startMinute endHour endMinute _ _ =>
    .nextionSetSchedule (some
      { startHour := startHour.value
        startMinute := startMinute.value
        endHour := endHour.value
        endMinute := endMinute.value })
  | .rtc hour minute day month year =>
    .nextionSetTime (some
      { hour := hour.value
        minute := minute.value
        day := day.value
        month := month.value
        year := year.value
        second := 0 })
  | .timeSync => .nextionSyncTime

/-- The key of the command is at the head of memory, and `sscanf` reads its numbers there. -/
def Command.Holds (memory : Bytes) (stack : ActiveTime) : Command → Prop
  | .manualOn => memcmpEq memory manualOnKey = true
  | .manualOff => memcmpEq memory manualOffKey = true
  | .upTime startHour startMinute endHour endMinute _ _ =>
    memcmpEq memory upTimeKey = true ∧ upTimeLocals memory stack =
      { startHour := startHour.value
        startMinute := startMinute.value
        endHour := endHour.value
        endMinute := endMinute.value }
  | .rtc hour minute day month year =>
    memcmpEq memory rtcPrefix = true ∧ rtcForm memory =
      { hour := hour.value
        minute := minute.value
        day := day.value
        month := month.value
        year := year.value
        second := 0 }
  | .timeSync => memcmpEq memory syncTimeKey = true

/-! ## The bytes of a command -/

theorem fields_cons (n : Numeral) (ns : List Numeral) (s : Bytes) :
    fields (n :: ns) ++ s = n.digits ++ commaByte :: (fields ns ++ s) := by
  simp [fields]

theorem not_mem_fields {b : UInt8} (hb : ∀ d, isDigit d = true → d ≠ b) (hcomma : b ≠ commaByte)
    (ns : List Numeral) : b ∉ fields ns := by
  intro hmem
  obtain ⟨n, -, hn⟩ := List.mem_flatMap.mp hmem
  rcases List.mem_append.mp hn with hdigit | hsign
  · exact hb b (n.isDigit_of_mem b hdigit) rfl
  · exact hcomma (List.mem_singleton.mp hsign)

theorem Command.encode_head (c : Command) : c.encode.head? = some atSign := by
  cases c <;> rfl

/-- A command has one `@`. -/
theorem Command.encode_count (c : Command) : c.encode.count atSign = 1 := by
  have hfields : ∀ ns, (fields ns).count atSign = 0 := fun ns =>
    List.count_eq_zero.mpr
      (not_mem_fields (fun d hd => (isDigit_ne hd).2.2.2.1) (by decide) ns)
  cases c with
  | manualOn | manualOff | timeSync => rfl
  | upTime =>
    simp only [encode, List.count_append, hfields]
    rfl
  | rtc =>
    simp only [encode, List.count_append, hfields]
    rfl

/-- A command has no NUL. -/
theorem Command.zero_not_mem (c : Command) : (0 : UInt8) ∉ c.encode := by
  have hfields : ∀ ns, (0 : UInt8) ∉ fields ns :=
    not_mem_fields (fun d hd => (isDigit_ne hd).1) (by decide)
  cases c with
  | manualOn | manualOff | timeSync => decide
  | upTime =>
    simp only [encode, List.mem_append, hfields, not_or]
    decide
  | rtc =>
    simp only [encode, List.mem_append, hfields, not_or]
    decide

/-! ## A whole command is understood -/

/-- `%d,` on the next of some numbers. -/
theorem scan_field (n : Numeral) (ns : List Numeral) (f : List Directive) (s : Bytes) :
    scan (.int :: .lit commaByte :: f) (fields (n :: ns) ++ s) =
      n.value :: scan f (fields ns ++ s) := by
  rw [fields_cons, scan_numeral n (by decide), scan, if_pos rfl]

theorem scan_upTime (startHour startMinute endHour endMinute : Numeral) (s : Bytes) :
    scan upTimeFormat
        (upTimeKey ++ ascii [','] ++ fields [startHour, startMinute, endHour, endMinute] ++ s) =
      [startHour.value, startMinute.value, endHour.value, endMinute.value] ++
        scan [.lit 0x24] s := by
  have hformat : upTimeFormat = lits ['@', 'u', 'p', '_', 't', 'i', 'm', 'e', ','] ++
      [.int, .lit commaByte, .int, .lit commaByte, .int, .lit commaByte, .int, .lit commaByte,
        .lit 0x24] := rfl
  have hkey : upTimeKey ++ ascii [','] =
      ascii ['@', 'u', 'p', '_', 't', 'i', 'm', 'e', ','] := rfl
  rw [hformat, hkey, List.append_assoc, scan_lits, scan_field, scan_field, scan_field, scan_field]
  rfl

theorem scan_rtc (hour minute day month year : Numeral) (s : Bytes) :
    scan rtcFormat
        (rtcPrefix ++ ascii [','] ++ fields [hour, minute, day, month, year] ++ s) =
      [hour.value, minute.value, day.value, month.value, year.value] ++ scan [.lit 0x24] s := by
  have hformat : rtcFormat = lits ['@', 'r', 't', 'c', ','] ++
      [.int, .lit commaByte, .int, .lit commaByte, .int, .lit commaByte, .int, .lit commaByte,
        .int, .lit commaByte, .lit 0x24] := rfl
  have hkey : rtcPrefix ++ ascii [','] = ascii ['@', 'r', 't', 'c', ','] := rfl
  rw [hformat, hkey, List.append_assoc, scan_lits, scan_field, scan_field, scan_field, scan_field,
    scan_field]
  rfl

/-- **A command that is there as a whole is understood**, whatever follows it. -/
theorem Command.holds_whole (c : Command) (rest : Bytes) (stack : ActiveTime) :
    c.Holds (c.encode ++ rest) stack := by
  have hcstr := @cstr_append _ rest c.zero_not_mem
  cases c with
  | manualOn => exact memcmpEq_append_self manualOnKey rest
  | manualOff => exact memcmpEq_append_self manualOffKey rest
  | timeSync => exact memcmpEq_append_self syncTimeKey rest
  | upTime startHour startMinute endHour endMinute hours minutes =>
    refine ⟨?_, ?_⟩
    · simp only [encode, List.append_assoc]
      exact memcmpEq_append_self upTimeKey _
    · have hscan := scan_upTime startHour startMinute endHour endMinute (ascii ['$'] ++ cstr rest)
      rw [← List.append_assoc] at hscan
      unfold upTimeLocals sscanf
      rw [hcstr]
      simp only [encode]
      rw [hscan]
      rfl
  | rtc hour minute day month year =>
    refine ⟨?_, ?_⟩
    · simp only [encode, List.append_assoc]
      exact memcmpEq_append_self rtcPrefix _
    · have hscan := scan_rtc hour minute day month year (ascii ['$'] ++ cstr rest)
      rw [← List.append_assoc] at hscan
      unfold rtcForm sscanf
      rw [hcstr]
      simp only [encode]
      rw [hscan]
      rfl

/-! ## What the read task raises -/

/-- A schedule of times of day is not rejected. -/
theorem upTimeRejected_of_le {t : ActiveTime} (hours : t.startHour ≤ 23 ∧ t.endHour ≤ 23)
    (minutes : t.startMinute ≤ 59 ∧ t.endMinute ≤ 59) : upTimeRejected t = false := by
  simp only [upTimeRejected, Bool.or_eq_false_iff, decide_eq_false_iff_not]
  omega

/-- **The read task raises the event of a command exactly if the command holds.** -/
theorem dispatch_event_iff {handle : Nextion} (hcb : handle.callback = true) (memory : Bytes)
    (stack : ActiveTime) (c : Command) :
    (nextionDispatch memory stack handle).2 = some c.event ↔ c.Holds memory stack := by
  constructor
  · intro h
    unfold nextionDispatch at h
    dsimp only at h
    split_ifs at h with hon hoff hup hrejected hpage hrtc hsync hsleep
    · cases c <;> simp_all [Nextion.raise, Command.event, Command.Holds]
    · cases c <;> simp_all [Nextion.raise, Command.event, Command.Holds]
    · cases c <;> simp_all [Nextion.raise, Command.event, Command.Holds]
    · cases c <;> simp_all [Nextion.raise, Command.event, Command.Holds]
    · cases c <;> simp_all [Nextion.raise, Command.event, Command.Holds]
  · intro h
    cases c with
    | manualOn =>
      rw [dispatch_manualOn stack handle h]
      simp [Nextion.raise, hcb, Command.event]
    | manualOff =>
      rw [dispatch_manualOff stack handle h]
      simp [Nextion.raise, hcb, Command.event]
    | upTime startHour startMinute endHour endMinute hours minutes =>
      obtain ⟨hkey, hlocals⟩ := h
      have hok : upTimeRejected ⟨startHour.value, startMinute.value, endHour.value,
          endMinute.value⟩ = false := upTimeRejected_of_le hours minutes
      rw [dispatch_upTime stack handle hkey, hlocals]
      simp [hok, Nextion.raise, hcb, Command.event]
    | rtc hour minute day month year =>
      obtain ⟨hkey, hform⟩ := h
      rw [dispatch_rtc stack handle hkey, hform]
      simp [Nextion.raise, hcb, Command.event]
    | timeSync =>
      rw [dispatch_syncTime stack handle h]
      simp [Nextion.raise, hcb, Command.event]

end Lighting
