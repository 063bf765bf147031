import Lighting.Display.Residue
import Lighting.Lib.Calendar

/-!
# What the display may send, and what the firmware takes for it

A schedule is four numbers, each with a comma behind it, and a `$`; so is a time, with five
numbers. `Schedules` and `SetsTime` say so of the bytes of a read. `_nextion_read_task` compares
the key, and leaves the rest to an `sscanf` whose result it does not look at: the numbers may be
missing, or have a sign, and nothing tests what stands behind them. Of a schedule it tests the
upper bounds, of a time nothing.

So a read is handled by its grammar (`ByGrammar`) exactly if it is not one of those that have
the key, but not the rest, and slip through (`by_grammar_iff`).
-/

set_option autoImplicit false

namespace Lighting

open CString Calendar

/-! ## The grammar -/

/-- The bytes begin with a schedule, of these times. -/
def Schedules (bytes : Bytes) (times : ActiveTime) : Prop :=
  ∃ startHour startMinute endHour endMinute : Numeral,
    upTimeKey ++ ascii [','] ++ fields [startHour, startMinute, endHour, endMinute] ++
        ascii ['$'] <+: bytes ∧
      (startHour.value ≤ 23 ∧ endHour.value ≤ 23) ∧
        (startMinute.value ≤ 59 ∧ endMinute.value ≤ 59) ∧
          times = ⟨startHour.value, startMinute.value, endHour.value, endMinute.value⟩

/-- The bytes begin with a time of day of an existing date, and this is its form. -/
def SetsTime (bytes : Bytes) (form : DateTimeForm) : Prop :=
  ∃ (hour minute day month year : Numeral) (date : Date),
    rtcPrefix ++ ascii [','] ++ fields [hour, minute, day, month, year] ++ ascii ['$'] <+: bytes ∧
      hour.value ≤ 23 ∧ minute.value ≤ 59 ∧
        (day.value = date.day ∧ month.value = date.month ∧ year.value = date.year) ∧
          form = ⟨hour.value, minute.value, day.value, month.value, year.value, 0⟩

/-- A read into the cleared buffer, and the handle, which has its callback. -/
structure ClearedRead extends NextionRead where
  handle : Nextion
  callback_eq : handle.callback = true

namespace ClearedRead

/-- The memory at `data` after the read. -/
def memory (r : ClearedRead) : Bytes :=
  (Transmission.zeroBuffer.store r.toNextionRead).bytes ++ r.beyond

/-- The handle and the event after the read. -/
def outcome (r : ClearedRead) : Nextion × Option Event :=
  (nextionReadTask r.toNextionRead Transmission.zeroBuffer r.handle).2

end ClearedRead

/-- The read is handled by its grammar: a schedule is raised and kept, a time is raised, and
nothing else is taken for one of them. -/
structure ByGrammar (r : ClearedRead) : Prop where
  schedule : ∀ payload, r.outcome.2 = some (.nextionSetSchedule payload) ↔
    ∃ times, payload = some times ∧ Schedules r.bytes times
  time : ∀ payload, r.outcome.2 = some (.nextionSetTime payload) ↔
    ∃ form, payload = some form ∧ SetsTime r.bytes form
  kept : ∀ times, Schedules r.bytes times → r.outcome.1.activeTime = times
  unchanged : (∀ times, ¬Schedules r.bytes times) →
    r.outcome.1.activeTime = r.handle.activeTime

/-- What begins with the key of a schedule is one, or is thrown away for a number that is too
large, where the stack stands in for the numbers that are missing; what begins with the key of
a time is one. -/
structure NotMistaken (r : ClearedRead) : Prop where
  schedule : upTimeKey <+: r.bytes → (∃ times, Schedules r.bytes times) ∨
    TooLarge timeBounds r.stack.times (r.memory.drop upTimeKey.length)
  time : rtcPrefix <+: r.bytes → ∃ form, SetsTime r.bytes form

/-! ## What a command in the bytes comes to -/

section grammar

variable {bytes : Bytes} {times : ActiveTime} {form : DateTimeForm}

theorem Schedules.command (h : Schedules bytes times) :
    ∃ c : Command, c.encode <+: bytes ∧ c.event = .nextionSetSchedule (some times) := by
  obtain ⟨startHour, startMinute, endHour, endMinute, hpre, hours, minutes, rfl⟩ := h
  exact ⟨.upTime startHour startMinute endHour endMinute hours minutes, hpre, rfl⟩

theorem SetsTime.command (h : SetsTime bytes form) :
    ∃ c : Command, c.encode <+: bytes ∧ c.event = .nextionSetTime (some form) := by
  obtain ⟨hour, minute, day, month, year, -, hpre, -, -, -, rfl⟩ := h
  exact ⟨.rtc hour minute day month year, hpre, rfl⟩

/-- No hour of a schedule is negative. -/
theorem Schedules.startHour_nonneg (h : Schedules bytes times) : 0 ≤ times.startHour := by
  obtain ⟨startHour, startMinute, endHour, endMinute, -, -, -, rfl⟩ := h
  exact Int.natCast_nonneg _

/-- A schedule is more than its key. -/
theorem Schedules.length_lt (h : Schedules bytes times) : upTimeKey.length < bytes.length := by
  obtain ⟨startHour, startMinute, endHour, endMinute, hpre, -⟩ := h
  have hle := hpre.length_le
  simp only [List.length_append] at hle
  have hdollar : (ascii ['$']).length = 1 := rfl
  omega

end grammar

/-! ## What the read task makes of it -/

namespace ClearedRead

variable (r : ClearedRead)

theorem bytes_prefix : r.bytes <+: r.memory :=
  (List.prefix_append r.bytes _).trans (List.prefix_append _ r.beyond)

/-- A key is found in the memory only if it has been read: behind the read there is a NUL. -/
theorem key_iff {key : Bytes} (hzero : (0 : UInt8) ∉ key) (hlen : key.length ≤ bufSize) :
    memcmpEq r.memory key = true ↔ key <+: r.bytes := by
  constructor
  · intro hkey
    by_cases hle : key.length ≤ r.bytes.length
    · exact List.prefix_of_prefix_length_le (memcmpEq_iff.mp hkey) r.bytes_prefix hle
    · obtain ⟨n, hn⟩ : ∃ n, bufSize - r.bytes.length = n + 1 :=
        ⟨bufSize - r.bytes.length - 1, by omega⟩
      have hmemory : r.memory = r.bytes ++ 0 :: (List.replicate n 0 ++ r.beyond) := by
        show r.bytes ++ (List.replicate bufSize 0).drop r.bytes.length ++ r.beyond = _
        rw [List.drop_replicate, hn, List.replicate_succ, List.append_assoc, List.cons_append]
      rw [hmemory, memcmpEq_nul hzero (by omega)] at hkey
      exact absurd hkey Bool.false_ne_true
  · intro hpre
    exact memcmpEq_iff.mpr (hpre.trans r.bytes_prefix)

theorem upTimeKey_iff : memcmpEq r.memory upTimeKey = true ↔ upTimeKey <+: r.bytes :=
  r.key_iff (by decide) (by decide)

theorem rtcPrefix_iff : memcmpEq r.memory rtcPrefix = true ↔ rtcPrefix <+: r.bytes :=
  r.key_iff (by decide) (by decide)

/-- A read of nothing is as good as one of zeros. -/
theorem outcome_eq : r.outcome = nextionDispatch r.memory r.stack r.handle := by
  unfold outcome nextionReadTask
  by_cases hlen : r.bytes.length = 0
  · rw [if_pos hlen]
    have hnil : r.bytes = [] := List.length_eq_zero_iff.mp hlen
    have hsleep : memcmpEq r.memory sleepKey = false := by
      rw [Bool.eq_false_iff]
      intro hfound
      have hpre := (r.key_iff (by decide) (by decide)).mp hfound
      rw [hnil] at hpre
      exact absurd hpre (by decide)
    have hhead : r.memory.head? ≠ some atSign := by
      show (r.bytes ++ (List.replicate bufSize 0).drop r.bytes.length ++ r.beyond).head? ≠ _
      rw [hnil]
      exact fun h => absurd (Option.some.inj h) (by decide)
    rw [dispatch_no_at hhead, hsleep]
    rfl
  · rw [if_neg hlen]
    rfl

theorem raise_eq (event : Event) : r.handle.raise event = some event := by
  unfold Nextion.raise
  rw [if_pos r.callback_eq]

/-- A command in the bytes is one at the head of the memory. -/
theorem holds {c : Command} (h : c.encode <+: r.bytes) : c.Holds r.memory r.stack := by
  obtain ⟨rest, hrest⟩ := h.trans r.bytes_prefix
  rw [← hrest]
  exact c.holds_whole rest r.stack

/-- **A schedule is raised and kept.** -/
theorem schedule_outcome {times : ActiveTime} (h : Schedules r.bytes times) :
    r.outcome =
      ({ r.handle with activeTime := times }, some (.nextionSetSchedule (some times))) := by
  obtain ⟨c, hpre, hevent⟩ := h.command
  have hraised := (dispatch_event_iff r.callback_eq r.memory r.stack c).mpr (r.holds hpre)
  rw [hevent] at hraised
  obtain ⟨hkey, hok, hpayload⟩ := dispatch_setSchedule hraised
  have htimes : times = upTimeLocals r.memory r.stack := Option.some.inj hpayload
  rw [r.outcome_eq, dispatch_upTime _ _ hkey, hok, htimes]
  simp [Nextion.raise, r.callback_eq]

/-- **A time is raised**, and the schedule stays. -/
theorem time_outcome {form : DateTimeForm} (h : SetsTime r.bytes form) :
    r.outcome = (r.handle, some (.nextionSetTime (some form))) := by
  obtain ⟨c, hpre, hevent⟩ := h.command
  have hraised := (dispatch_event_iff r.callback_eq r.memory r.stack c).mpr (r.holds hpre)
  rw [hevent] at hraised
  have hkey := dispatch_setTime hraised
  rw [r.outcome_eq]
  rw [dispatch_rtc _ _ hkey] at hraised ⊢
  rw [← hraised]

/-- The numbers behind the key decide whether it is thrown away. -/
theorem rejected_iff (h : upTimeKey <+: r.bytes) :
    upTimeRejected (upTimeLocals r.memory r.stack) = true ↔
      TooLarge timeBounds r.stack.times (r.memory.drop upTimeKey.length) := by
  obtain ⟨s, hs⟩ := h.trans r.bytes_prefix
  rw [← hs, List.drop_left, upTimeRejected_iff, times_upTimeLocals, exceeds_readOn_iff]

end ClearedRead

/-! ## Reads that are handled by their grammar -/

section byGrammar

variable {r : ClearedRead}

theorem NotMistaken.of_byGrammar (h : ByGrammar r) : NotMistaken r where
  schedule := by
    intro hkey
    by_cases hrejected : upTimeRejected (upTimeLocals r.memory r.stack) = true
    · exact .inr ((r.rejected_iff hkey).mp hrejected)
    · left
      have hraised : r.outcome.2 =
          some (.nextionSetSchedule (some (upTimeLocals r.memory r.stack))) := by
        rw [r.outcome_eq, dispatch_upTime _ _ (r.upTimeKey_iff.mpr hkey), if_neg hrejected]
        exact r.raise_eq _
      obtain ⟨times, -, htimes⟩ := (h.schedule _).mp hraised
      exact ⟨times, htimes⟩
  time := by
    intro hkey
    have hraised : r.outcome.2 = some (.nextionSetTime (some (rtcForm r.memory))) := by
      rw [r.outcome_eq, dispatch_rtc _ _ (r.rtcPrefix_iff.mpr hkey)]
      exact r.raise_eq _
    obtain ⟨form, -, hform⟩ := (h.time _).mp hraised
    exact ⟨form, hform⟩

namespace NotMistaken

/-- What is raised as a schedule is one. -/
theorem exists_schedule (h : NotMistaken r) {payload : Option ActiveTime}
    (hraised : r.outcome.2 = some (.nextionSetSchedule payload)) :
    ∃ times, Schedules r.bytes times := by
  rw [r.outcome_eq] at hraised
  obtain ⟨hkey, hok, -⟩ := dispatch_setSchedule hraised
  rw [r.upTimeKey_iff] at hkey
  apply (h.schedule hkey).resolve_right
  intro hlarge
  rw [(r.rejected_iff hkey).mpr hlarge] at hok
  exact absurd hok (by decide)

theorem activeTime (h : NotMistaken r) (hnone : ∀ times, ¬Schedules r.bytes times) :
    r.outcome.1.activeTime = r.handle.activeTime := by
  rw [r.outcome_eq]
  by_cases hkey : upTimeKey <+: r.bytes
  · have hlarge := (h.schedule hkey).resolve_left fun ⟨times, htimes⟩ => hnone times htimes
    rw [dispatch_upTime _ _ (r.upTimeKey_iff.mpr hkey), if_pos ((r.rejected_iff hkey).mpr hlarge)]
    rfl
  · apply dispatch_activeTime
    rw [Bool.eq_false_iff]
    exact fun hfound => hkey (r.upTimeKey_iff.mp hfound)

theorem byGrammar (h : NotMistaken r) : ByGrammar r where
  schedule := by
    intro payload
    constructor
    · intro hraised
      obtain ⟨times, htimes⟩ := h.exists_schedule hraised
      rw [r.schedule_outcome htimes] at hraised
      simp only [Option.some.injEq, Event.nextionSetSchedule.injEq] at hraised
      exact ⟨times, hraised.symm, htimes⟩
    · intro hwritten
      obtain ⟨times, rfl, htimes⟩ := hwritten
      rw [r.schedule_outcome htimes]
  time := by
    intro payload
    constructor
    · intro hraised
      have hkey := dispatch_setTime (r.outcome_eq ▸ hraised)
      obtain ⟨form, hform⟩ := h.time (r.rtcPrefix_iff.mp hkey)
      rw [r.time_outcome hform] at hraised
      simp only [Option.some.injEq, Event.nextionSetTime.injEq] at hraised
      exact ⟨form, hraised.symm, hform⟩
    · intro hwritten
      obtain ⟨form, rfl, hform⟩ := hwritten
      rw [r.time_outcome hform]
  kept := by
    intro times htimes
    rw [r.schedule_outcome htimes]
  unchanged := h.activeTime

end NotMistaken

end byGrammar

/-- **Which reads are handled by their grammar.** For every read into the cleared buffer,
whatever the stack and the memory behind the buffer hold: a schedule is raised, with the times
that are written, exactly if the bytes begin with one, and so is a time, and nothing else
changes the times shown, exactly if the read is not mistaken. -/
theorem by_grammar_iff (r : ClearedRead) : ByGrammar r ↔ NotMistaken r :=
  ⟨NotMistaken.of_byGrammar, NotMistaken.byGrammar⟩

/-! ## Three reads that are mistaken -/

def clearedRead (bytes : Bytes) (length_le : bytes.length ≤ bufSize) (stack : ActiveTime) :
    ClearedRead where
  bytes := bytes
  length_le := length_le
  stack := stack
  beyond := []
  handle := appNextionInit true ⟨8, 0, 17, 0⟩ 0
  callback_eq := rfl

/-- A schedule from an hour before midnight. -/
def negativeHour : ClearedRead :=
  clearedRead (upTimeKey ++ ascii [',', '-', '1', ',', '0', ',', '8', ',', '0', ',', '$'])
    (by decide) ⟨0, 0, 0, 0⟩

/-- The key of a schedule and nothing else, where the stack holds times of day. -/
def bareKey : ClearedRead := clearedRead upTimeKey (by decide) ⟨18, 0, 6, 0⟩

/-- The 31st of February. -/
def noDate : ClearedRead :=
  clearedRead
    (rtcPrefix ++ ascii [',', '0', ',', '0', ',', '3', '1', ',', '2', ',', '2', '0', '2', '4', ',',
      '$'])
    (by decide) ⟨0, 0, 0, 0⟩

/-- A negative hour, a schedule without numbers and a day that is not in the calendar are all
taken for what they are not. -/
theorem mistaken_reads : ¬ByGrammar negativeHour ∧ ¬ByGrammar bareKey ∧ ¬ByGrammar noDate := by
  refine ⟨?_, ?_, ?_⟩
  · intro h
    have hraised : negativeHour.outcome.2 = some (.nextionSetSchedule (some ⟨-1, 0, 8, 0⟩)) := rfl
    obtain ⟨times, hpayload, htimes⟩ := (h.schedule _).mp hraised
    obtain rfl := Option.some.inj hpayload
    exact absurd htimes.startHour_nonneg (by decide)
  · intro h
    have hraised : bareKey.outcome.2 = some (.nextionSetSchedule (some ⟨18, 0, 6, 0⟩)) := rfl
    obtain ⟨times, -, htimes⟩ := (h.schedule _).mp hraised
    exact absurd htimes.length_lt (by decide)
  · intro h
    have hraised : noDate.outcome.2 = some (.nextionSetTime (some ⟨0, 0, 31, 2, 2024, 0⟩)) := rfl
    obtain ⟨form, hpayload, hform⟩ := (h.time _).mp hraised
    obtain rfl := Option.some.inj hpayload
    obtain ⟨hour, minute, day, month, year, date, -, -, -, ⟨hday, hmonth, hyear⟩, hsame⟩ := hform
    rw [DateTimeForm.mk.injEq] at hsame
    obtain ⟨-, -, hday', hmonth', hyear', -⟩ := hsame
    have hle := date.day_range.2
    rw [← hday, ← hyear, ← hday', ← hyear', show date.month = 2 by omega] at hle
    exact absurd hle (by decide)

end Lighting
