import Lighting.Lib.OpenText
import Lighting.Lib.Runs
import Lighting.Display.Stream

/-!
# What older reads leave behind a short one

`_nextion_read_task` reads into one buffer, and does not end the bytes it has read with a NUL:
every `memcmp` compares as many bytes as its key has, and every `sscanf` runs on until its
format fails. What lies behind the bytes of a read is what older reads left there, and behind
the buffer whatever the heap holds.

Two runs that end in the same read, with the same handle, need not end alike
(`residue_repeats`: a short read is completed with the end of an older command). They do for
exactly the reads that are `SelfContained`: no proper beginning of a key, and with every number
settled (`outcome_same_iff`).
-/

set_option autoImplicit false

namespace Lighting

open CString Runs

/-! ## Runs of the read task -/

/-- What the display sends: the commands that stand for an event, a page it shows, or that it
goes to sleep. -/
inductive Sent where
  | command (c : Command)
  | page (n : Numeral)
  | sleep

def Sent.encode : Sent → Bytes
  | .command c => c.encode
  | .page n => pagePrefix ++ n.digits
  | .sleep => sleepKey

/-- A run of the read task: what `malloc` gave it for a buffer, earlier reads, each of complete
commands, and the next one. -/
structure DisplayRun where
  buffer : RxBuffer
  reads : List DisplayRead
  complete : ∀ r ∈ reads, ∃ commands : List Sent, r.bytes = commands.flatMap Sent.encode
  next : DisplayRead

namespace DisplayRun

/-- The buffer the next read goes into. -/
def used (run : DisplayRun) : RxBuffer := after DisplayRead.step run.buffer run.reads

/-- The handle and the event after the next read. -/
def outcome (run : DisplayRun) : Nextion × Option Event :=
  (nextionReadTask run.next.toNextionRead run.used run.next.handle).2

/-- The next read has the same bytes and finds the same handle. The stack and the heap are not
the read's. -/
def SameNext (run run' : DisplayRun) : Prop :=
  run.next.bytes = run'.next.bytes ∧ run.next.handle = run'.next.handle

theorem outcome_eq (run : DisplayRun) :
    run.outcome =
      nextionDispatch
        (run.next.bytes ++ (run.used.bytes.drop run.next.bytes.length ++ run.next.beyond))
        run.next.stack run.next.handle := by
  have hlen : ¬run.next.bytes.length = 0 := by simpa using run.next.bytes_ne
  unfold outcome nextionReadTask
  rw [if_neg hlen, ← List.append_assoc]
  rfl

/-- Where nothing has been read yet, anything can be behind the read. -/
theorem exists_outcome (run : DisplayRun) (residue : Bytes) (stack : ActiveTime) :
    ∃ run' : DisplayRun, run'.SameNext run ∧ run'.outcome =
      nextionDispatch (run.next.bytes ++ (residue ++ List.replicate bufSize 0)) stack
        run.next.handle := by
  let memory := run.next.bytes ++ (residue ++ List.replicate bufSize 0)
  have hlen : bufSize ≤ memory.length := by
    simp only [memory, List.length_append, List.length_replicate]
    omega
  have hle := run.next.length_le
  let run' : DisplayRun :=
    { buffer := ⟨memory.take bufSize, by simpa using hlen⟩
      reads := []
      complete := fun r hr => absurd hr List.not_mem_nil
      next := { run.next with stack := stack, beyond := memory.drop bufSize } }
  refine ⟨run', ⟨rfl, rfl⟩, ?_⟩
  rw [run'.outcome_eq]
  show nextionDispatch (run.next.bytes ++ ((memory.take bufSize).drop run.next.bytes.length ++
    memory.drop bufSize)) stack run.next.handle = _
  congr 1
  have htake : run.next.bytes.length ≤ (memory.take bufSize).length := by
    rw [List.length_take]
    omega
  rw [← List.drop_append_of_le_length htake, List.take_append_drop, List.drop_left]

end DisplayRun

/-! ## What is read behind a key -/

def ActiveTime.times (t : ActiveTime) : List Int :=
  [t.startHour, t.startMinute, t.endHour, t.endMinute]

def DateTimeForm.numbers (form : DateTimeForm) : List Int :=
  [form.hour, form.minute, form.day, form.month, form.year]

/-- The last hour and the last minute, twice. -/
def timeBounds : List Int := [23, 59, 23, 59]

theorem bounds_timeBounds : Bounds timeBounds := by
  unfold Bounds timeBounds
  decide

theorem ActiveTime.times_inj {t t' : ActiveTime} (h : t.times = t'.times) : t = t' := by
  cases t
  cases t'
  simpa [times] using h

theorem ActiveTime.exists_times {xs : List Int} (h : xs.length = timeBounds.length) :
    ∃ t : ActiveTime, t.times = xs := by
  obtain ⟨a, b, c, d, rfl⟩ : ∃ a b c d, xs = [a, b, c, d] := by
    match xs, h with
    | [a, b, c, d], _ => exact ⟨a, b, c, d, rfl⟩
  exact ⟨⟨a, b, c, d⟩, rfl⟩

theorem upTimeRejected_iff (t : ActiveTime) :
    upTimeRejected t = true ↔ Exceeds timeBounds t.times := by
  simp [upTimeRejected, timeBounds, ActiveTime.times, Exceeds, or_assoc]

theorem times_upTimeLocals (s : Bytes) (stack : ActiveTime) :
    (upTimeLocals (upTimeKey ++ s) stack).times = readOn stack.times s := by
  have hscan : sscanf (upTimeKey ++ s) upTimeFormat =
      scan (.lit commaByte :: (numberFormat 4 ++ [.lit 0x24])) s :=
    sscanf_key ['@', 'u', 'p', '_', 't', 'i', 'm', 'e'] (by decide) s
  rw [← assigned_readOn [.lit 0x24], upTimeLocals, hscan]
  rfl

theorem numbers_rtcForm (s : Bytes) :
    (rtcForm (rtcPrefix ++ s)).numbers = readOn [0, 0, 0, 0, 0] s := by
  have hscan : sscanf (rtcPrefix ++ s) rtcFormat =
      scan (.lit commaByte :: (numberFormat 5 ++ [.lit 0x24])) s :=
    sscanf_key ['@', 'r', 't', 'c'] (by decide) s
  rw [← assigned_readOn [.lit 0x24], rtcForm, hscan]
  rfl

theorem rtcForm_inj {memory memory' : Bytes}
    (h : (rtcForm memory).numbers = (rtcForm memory').numbers) :
    rtcForm memory = rtcForm memory' := by
  simpa [DateTimeForm.numbers, rtcForm] using h

theorem page_read (s : Bytes) :
    [assigned (sscanf (pagePrefix ++ s) pageFormat) 0 0] = readInto [0] s := by
  have hscan : sscanf (pagePrefix ++ s) pageFormat = scan [.int] s :=
    sscanf_key ['@', 'p', 'a', 'g', 'e', '_'] (by decide) s
  rw [hscan, assigned_int]

theorem pageSelected_inj {memory memory' : Bytes} {handle : Nextion}
    (h : pageSelected memory handle = pageSelected memory' handle) :
    assigned (sscanf memory pageFormat) 0 0 = assigned (sscanf memory' pageFormat) 0 0 := by
  unfold pageSelected at h
  dsimp only at h
  split_ifs at h with hhome hsleeping hhome' hmanual hhome'
  all_goals simp_all [appNextionSetPage, sendCommand]

/-! ## Reads that say everything -/

/-- The keys that begin with an `@`. -/
def displayKeys : List Bytes :=
  [manualOnKey, manualOffKey, upTimeKey, pagePrefix, rtcPrefix, syncTimeKey]

/-- A read in which nothing is missing: it does not end inside a key, and the numbers it has
are settled. A display that sleeps may go to sleep again. -/
structure SelfContained (handle : Nextion) (read : Bytes) : Prop where
  key : ∀ key ∈ displayKeys, read <+: key → read = key
  sleep : read <+: sleepKey → read = sleepKey ∨ handle.isSleeping = true
  upTime : ∀ s, read = upTimeKey ++ s →
    ∃ times, s = commaByte :: times ∧ SettledWithin timeBounds times
  page : ∀ s, read = pagePrefix ++ s → Settled 1 s
  rtc : ∀ s, read = rtcPrefix ++ s →
    s ≠ [] ∧ ∀ numbers, s = commaByte :: numbers → Settled 5 numbers

namespace SelfContained

variable {handle : Nextion} {read : Bytes}

theorem upTime_eq {s : Bytes} (h : SelfContained handle (upTimeKey ++ s)) (t t' : Bytes)
    (stack stack' : ActiveTime) :
    nextionDispatch (upTimeKey ++ s ++ t) stack handle =
      nextionDispatch (upTimeKey ++ s ++ t') stack' handle := by
  obtain ⟨times, rfl, hsettled⟩ := h.upTime s rfl
  rw [List.append_assoc, List.append_assoc, dispatch_upTime _ _ (memcmpEq_append_self upTimeKey _),
    dispatch_upTime _ _ (memcmpEq_append_self upTimeKey _)]
  have hread : ∀ (t : Bytes) (stack : ActiveTime),
      (upTimeLocals (upTimeKey ++ (commaByte :: times ++ t)) stack).times =
        readInto stack.times (times ++ t) := by
    intro t stack
    rw [times_upTimeLocals, List.cons_append, readOn_comma]
  rcases decidedWithin_of_settled bounds_timeBounds hsettled with hexceeds | ⟨ys, hfixed⟩
  · have hrejected : ∀ (t : Bytes) (stack : ActiveTime),
        upTimeRejected (upTimeLocals (upTimeKey ++ (commaByte :: times ++ t)) stack) = true := by
      intro t stack
      rw [upTimeRejected_iff, hread]
      exact hexceeds stack.times t rfl
    rw [if_pos (hrejected t stack), if_pos (hrejected t' stack')]
  · have hlocals : upTimeLocals (upTimeKey ++ (commaByte :: times ++ t)) stack =
        upTimeLocals (upTimeKey ++ (commaByte :: times ++ t')) stack' := by
      apply ActiveTime.times_inj
      rw [hread, hread, hfixed stack.times t rfl, hfixed stack'.times t' rfl]
    rw [hlocals]

theorem page_eq {s : Bytes} (h : SelfContained handle (pagePrefix ++ s)) (t t' : Bytes)
    (stack stack' : ActiveTime) :
    nextionDispatch (pagePrefix ++ s ++ t) stack handle =
      nextionDispatch (pagePrefix ++ s ++ t') stack' handle := by
  rw [List.append_assoc, List.append_assoc, dispatch_page _ _ (memcmpEq_append_self pagePrefix _),
    dispatch_page _ _ (memcmpEq_append_self pagePrefix _)]
  have hsettled : ∀ t, readInto [0] (s ++ t) = readInto [0] s :=
    readInto_settled rfl (h.page s rfl)
  have hread : ∀ t : Bytes,
      [assigned (sscanf (pagePrefix ++ (s ++ t)) pageFormat) 0 0] = readInto [0] s := by
    intro t
    rw [page_read, hsettled]
  have hpage := List.cons.inj ((hread t).trans (hread t').symm)
  unfold pageSelected
  rw [hpage.1]

theorem rtc_eq {s : Bytes} (h : SelfContained handle (rtcPrefix ++ s)) (t t' : Bytes)
    (stack stack' : ActiveTime) :
    nextionDispatch (rtcPrefix ++ s ++ t) stack handle =
      nextionDispatch (rtcPrefix ++ s ++ t') stack' handle := by
  rw [List.append_assoc, List.append_assoc, dispatch_rtc _ _ (memcmpEq_append_self rtcPrefix _),
    dispatch_rtc _ _ (memcmpEq_append_self rtcPrefix _)]
  obtain ⟨hs, hsettled⟩ := h.rtc s rfl
  have hnumbers : ∀ t : Bytes,
      (rtcForm (rtcPrefix ++ (s ++ t))).numbers = readOn [0, 0, 0, 0, 0] s := by
    intro t
    rw [numbers_rtcForm]
    cases s with
    | nil => exact absurd rfl hs
    | cons c numbers =>
      rw [List.cons_append]
      by_cases hc : c = commaByte
      · subst hc
        have hread : readInto [0, 0, 0, 0, 0] (numbers ++ t) = readInto [0, 0, 0, 0, 0] numbers :=
          readInto_settled (k := 5) rfl (hsettled numbers rfl) t
        rw [readOn_comma, readOn_comma, hread]
      · rw [readOn_ne hc, readOn_ne hc]
  rw [rtcForm_inj ((hnumbers t).trans (hnumbers t').symm)]

/-- **A read that is self-contained** is handled the same whatever stands behind it. -/
theorem dispatch_eq (h : SelfContained handle read) (t t' : Bytes) (stack stack' : ActiveTime) :
    nextionDispatch (read ++ t) stack handle = nextionDispatch (read ++ t') stack' handle := by
  by_cases hup : upTimeKey <+: read
  · obtain ⟨s, rfl⟩ := hup
    exact h.upTime_eq t t' stack stack'
  by_cases hpage : pagePrefix <+: read
  · obtain ⟨s, rfl⟩ := hpage
    exact h.page_eq t t' stack stack'
  by_cases hrtc : rtcPrefix <+: read
  · obtain ⟨s, rfl⟩ := hrtc
    exact h.rtc_eq t t' stack stack'
  -- No numbers are read: only the keys are compared.
  have hkey : ∀ key ∈ displayKeys, ∀ t, memcmpEq (read ++ t) key = memcmpEq read key :=
    fun key hmem t => memcmpEq_append_of_whole (h.key key hmem) t
  have hnone : ∀ key : Bytes, ¬key <+: read → memcmpEq read key = false := by
    intro key hnot
    rw [Bool.eq_false_iff]
    exact fun hfound => hnot (memcmpEq_iff.mp hfound)
  have hasleep : ∀ t, (if memcmpEq (read ++ t) sleepKey then
      ({ handle with isSleeping := true }, none) else (handle, (none : Option Event))) =
        if memcmpEq read sleepKey then ({ handle with isSleeping := true }, none)
        else (handle, none) := by
    intro t
    by_cases hwhole : read <+: sleepKey → read = sleepKey
    · rw [memcmpEq_append_of_whole hwhole]
    · obtain ⟨hpre, hne⟩ := Classical.not_imp.mp hwhole
      have hsleeping : { handle with isSleeping := true } = handle := by
        rw [← (h.sleep hpre).resolve_left hne]
      rw [hsleeping, ite_self, ite_self]
  unfold nextionDispatch
  dsimp only
  simp only [hkey manualOnKey (by simp [displayKeys]), hkey manualOffKey (by simp [displayKeys]),
    hkey upTimeKey (by simp [displayKeys]), hkey pagePrefix (by simp [displayKeys]),
    hkey rtcPrefix (by simp [displayKeys]), hkey syncTimeKey (by simp [displayKeys]),
    hnone upTimeKey hup, hnone pagePrefix hpage, hnone rtcPrefix hrtc, hasleep,
    Bool.false_eq_true, if_false]

end SelfContained

/-! ## Reads that something can be added to -/

/-- What stands behind the read, up to a NUL, and what the stack holds make no difference. -/
def Unheard (handle : Nextion) (read rest : Bytes) : Prop :=
  ∀ (residue residue' : Bytes) (stack stack' : ActiveTime),
    nextionDispatch (read ++ (residue ++ 0 :: rest)) stack handle =
      nextionDispatch (read ++ (residue' ++ 0 :: rest)) stack' handle

namespace Unheard

variable {handle : Nextion} {read rest : Bytes}

/-- The same for a longer read. -/
theorem extend (h : Unheard handle read rest) (more : Bytes) :
    Unheard handle (read ++ more) rest := by
  intro residue residue' stack stack'
  have heq := h (more ++ residue) (more ++ residue') stack stack'
  simpa only [List.append_assoc] using heq

/-- A schedule that is accepted is the schedule of every other time. -/
theorem times_eq {s : Bytes} (h : Unheard handle (upTimeKey ++ s) rest)
    (hcb : handle.callback = true) {residue residue' : Bytes} {stack stack' : ActiveTime}
    (hok : ¬Exceeds timeBounds (readOn stack.times (s ++ (residue ++ 0 :: rest)))) :
    readOn stack.times (s ++ (residue ++ 0 :: rest)) =
      readOn stack'.times (s ++ (residue' ++ 0 :: rest)) := by
  have heq := congrArg Prod.snd (h residue residue' stack stack')
  rw [List.append_assoc, List.append_assoc, dispatch_upTime _ _ (memcmpEq_append_self upTimeKey _),
    dispatch_upTime _ _ (memcmpEq_append_self upTimeKey _)] at heq
  rw [← times_upTimeLocals, ← upTimeRejected_iff] at hok
  rw [if_neg hok] at heq
  rw [← times_upTimeLocals, ← times_upTimeLocals]
  split at heq
  · simp [Nextion.raise, hcb] at heq
  · simp only [Nextion.raise, hcb, if_true, Option.some.injEq,
      Event.nextionSetSchedule.injEq] at heq
    rw [heq]

theorem upTime {s : Bytes} (h : Unheard handle (upTimeKey ++ s) rest)
    (hcb : handle.callback = true) :
    ∃ times, s = commaByte :: times ∧ SettledWithin timeBounds times := by
  by_cases hcomma : ∃ times, s = commaByte :: times
  · obtain ⟨times, rfl⟩ := hcomma
    refine ⟨times, rfl, ?_⟩
    by_contra hnot
    obtain ⟨t, t', xs, xs', hlen, hlen', hdiffer⟩ :=
      undecidedWithin_of_not_settled bounds_timeBounds hnot
    obtain ⟨stack, rfl⟩ := ActiveTime.exists_times hlen
    obtain ⟨stack', rfl⟩ := ActiveTime.exists_times hlen'
    have htimes := @times_eq _ _ _ h hcb t t' stack stack'
    rw [List.cons_append, List.cons_append, readOn_comma, readOn_comma] at htimes
    exact (hdiffer rest rest).2 (htimes (hdiffer rest rest).1)
  · -- Nothing is read, and the schedule is what the stack held.
    have hread : ∀ xs : List Int, readOn xs (s ++ ([] ++ 0 :: rest)) = xs := by
      intro xs
      cases s with
      | nil => exact readOn_ne (by decide) xs rest
      | cons c times =>
        have hc : c ≠ commaByte := fun hc => hcomma ⟨times, congrArg (· :: times) hc⟩
        exact readOn_ne hc xs (times ++ ([] ++ 0 :: rest))
    have htimes := @times_eq _ _ _ h hcb [] [] ⟨0, 0, 0, 0⟩ ⟨1, 1, 1, 1⟩
    rw [hread, hread] at htimes
    exact absurd (htimes (not_exceeds_replicate (by decide) bounds_timeBounds 4)) (by decide)

theorem page {s : Bytes} (h : Unheard handle (pagePrefix ++ s) rest) : Settled 1 s := by
  by_contra hnot
  obtain ⟨t, t', hne⟩ := @undecided_of_not_settled 1 [0] _ rfl hnot
  refine hne rest rest ?_
  have heq := congrArg Prod.fst (h t t' ⟨0, 0, 0, 0⟩ ⟨0, 0, 0, 0⟩)
  rw [List.append_assoc, List.append_assoc, dispatch_page _ _ (memcmpEq_append_self pagePrefix _),
    dispatch_page _ _ (memcmpEq_append_self pagePrefix _)] at heq
  rw [← page_read, ← page_read, pageSelected_inj heq]

theorem rtc {s : Bytes} (h : Unheard handle (rtcPrefix ++ s) rest)
    (hcb : handle.callback = true) :
    s ≠ [] ∧ ∀ numbers, s = commaByte :: numbers → Settled 5 numbers := by
  have hread : ∀ t t' : Bytes, readOn [0, 0, 0, 0, 0] (s ++ (t ++ 0 :: rest)) =
      readOn [0, 0, 0, 0, 0] (s ++ (t' ++ 0 :: rest)) := by
    intro t t'
    have heq := congrArg Prod.snd (h t t' ⟨0, 0, 0, 0⟩ ⟨0, 0, 0, 0⟩)
    rw [List.append_assoc, List.append_assoc, dispatch_rtc _ _ (memcmpEq_append_self rtcPrefix _),
      dispatch_rtc _ _ (memcmpEq_append_self rtcPrefix _)] at heq
    simp only [Nextion.raise, hcb, if_true, Option.some.injEq, Event.nextionSetTime.injEq] at heq
    rw [← numbers_rtcForm, ← numbers_rtcForm, heq]
  have hsettled : ∀ numbers, (∀ t t' : Bytes,
      readInto [0, 0, 0, 0, 0] (numbers ++ (t ++ 0 :: rest)) =
        readInto [0, 0, 0, 0, 0] (numbers ++ (t' ++ 0 :: rest))) → Settled 5 numbers := by
    intro numbers heq
    by_contra hnot
    obtain ⟨t, t', hne⟩ := @undecided_of_not_settled 5 [0, 0, 0, 0, 0] _ rfl hnot
    exact hne rest rest (heq t t')
  constructor
  · rintro rfl
    -- A comma may follow, and then numbers.
    have hnone : Settled 5 [] := by
      apply hsettled
      intro t t'
      have heq := hread (commaByte :: t) (commaByte :: t')
      rwa [List.nil_append, List.nil_append, List.cons_append, List.cons_append, readOn_comma,
        readOn_comma] at heq
    exact absurd hnone.1 (by decide)
  · rintro numbers rfl
    apply hsettled
    intro t t'
    have heq := hread t t'
    rwa [List.cons_append, List.cons_append, readOn_comma, readOn_comma] at heq

/-- A command that is its key is not begun and left. -/
theorem command (h : Unheard handle read rest) (hcb : handle.callback = true) (c : Command)
    (hholds : ∀ memory stack, c.Holds memory stack → memcmpEq memory c.encode = true)
    (hpre : read <+: c.encode) : read = c.encode := by
  by_contra hne
  have hlen : read.length < c.encode.length :=
    Nat.lt_of_le_of_ne hpre.length_le fun heq => hne (hpre.eq_of_length heq)
  obtain ⟨more, hmore⟩ := hpre
  -- With the rest of the command behind it, the event is that of the command.
  have hwhole : (nextionDispatch (read ++ (more ++ 0 :: rest)) ⟨0, 0, 0, 0⟩ handle).2 =
      some c.event := by
    rw [dispatch_event_iff hcb, ← List.append_assoc, hmore]
    exact c.holds_whole (0 :: rest) ⟨0, 0, 0, 0⟩
  rw [h more [] ⟨0, 0, 0, 0⟩ ⟨0, 0, 0, 0⟩, dispatch_event_iff hcb] at hwhole
  have hnul : memcmpEq (read ++ ([] ++ 0 :: rest)) c.encode = false :=
    memcmpEq_nul c.zero_not_mem hlen rest
  exact absurd (hholds _ _ hwhole) (by rw [hnul]; exact Bool.false_ne_true)

theorem sleep (h : Unheard handle read rest) (hpre : read <+: sleepKey) :
    read = sleepKey ∨ handle.isSleeping = true := by
  by_contra hnot
  obtain ⟨hne, hawake⟩ := not_or.mp hnot
  have hlen : read.length < sleepKey.length :=
    Nat.lt_of_le_of_ne hpre.length_le fun heq => hne (hpre.eq_of_length heq)
  obtain ⟨more, hmore⟩ := hpre
  have hwhole : memcmpEq (read ++ (more ++ 0 :: rest)) sleepKey = true := by
    rw [← List.append_assoc, hmore]
    exact memcmpEq_append_self sleepKey (0 :: rest)
  have hnul : memcmpEq (read ++ ([] ++ 0 :: rest)) sleepKey = false :=
    memcmpEq_nul (by decide) hlen rest
  have hat : (read ++ ([] ++ 0 :: rest)).head? ≠ some atSign := by
    cases read with
    | nil => exact fun h => absurd (Option.some.inj h) (by decide)
    | cons b read =>
      have hb : b = 0x86 := (List.cons.inj hmore).1
      subst hb
      exact fun h => absurd (Option.some.inj h) (by decide)
  have hat' : (read ++ (more ++ 0 :: rest)).head? ≠ some atSign := by
    rw [← List.append_assoc, hmore]
    exact fun h => absurd (Option.some.inj h) (by decide)
  have heq := h more [] ⟨0, 0, 0, 0⟩ ⟨0, 0, 0, 0⟩
  rw [dispatch_no_at hat, dispatch_no_at hat', hwhole, hnul] at heq
  have hsleeping := congrArg (fun r => r.1.isSleeping) heq
  exact hawake hsleeping.symm

theorem selfContained (h : Unheard handle read rest) (hcb : handle.callback = true) :
    SelfContained handle read where
  key := by
    -- A key with numbers behind it is not there without them.
    have hnumbers : ∀ key : Bytes, (Unheard handle (key ++ []) rest → False) →
        read <+: key → read = key := by
      rintro key hfalse ⟨more, rfl⟩
      exact absurd (by simpa using h.extend more) hfalse
    intro key hmem
    simp only [displayKeys, List.mem_cons, List.not_mem_nil, or_false] at hmem
    rcases hmem with rfl | rfl | rfl | rfl | rfl | rfl
    · exact h.command hcb .manualOn (fun _ _ h => h)
    · exact h.command hcb .manualOff (fun _ _ h => h)
    · apply hnumbers
      intro hup
      obtain ⟨times, hnil, -⟩ := hup.upTime hcb
      exact absurd hnil.symm (List.cons_ne_nil _ _)
    · apply hnumbers
      intro hpage
      exact hpage.page.2.1 rfl
    · apply hnumbers
      intro hrtc
      exact (hrtc.rtc hcb).1 rfl
    · exact h.command hcb .timeSync (fun _ _ h => h)
  sleep := h.sleep
  upTime := by
    rintro s rfl
    exact h.upTime hcb
  page := by
    rintro s rfl
    exact h.page
  rtc := by
    rintro s rfl
    exact h.rtc hcb

end Unheard

/-- **What older reads left is not heard.** For every run of the read task: every other run
that ends in the same read, with the same handle, leaves the same handle and raises the same
event, exactly if the read is self-contained. -/
theorem outcome_same_iff (run : DisplayRun) :
    (∀ run' : DisplayRun, run'.SameNext run → run'.outcome = run.outcome) ↔
      SelfContained run.next.handle run.next.bytes := by
  constructor
  · intro h
    have hunheard : Unheard run.next.handle run.next.bytes (List.replicate 1023 0) := by
      intro residue residue' stack stack'
      obtain ⟨run₁, hsame₁, houtcome₁⟩ := run.exists_outcome residue stack
      obtain ⟨run₂, hsame₂, houtcome₂⟩ := run.exists_outcome residue' stack'
      have heq : run₁.outcome = run₂.outcome := (h run₁ hsame₁).trans (h run₂ hsame₂).symm
      rwa [houtcome₁, houtcome₂] at heq
    exact hunheard.selfContained run.next.callback_eq
  · rintro h run' ⟨hbytes, hhandle⟩
    rw [run'.outcome_eq, run.outcome_eq, hbytes, hhandle]
    exact h.dispatch_eq _ _ _ _

/-! ## A short read that becomes a command -/

/-- One command, and then ten bytes. -/
def shortAfter (c : Command) (length_le : c.encode.length ≤ bufSize) (encode_ne : c.encode ≠ []) :
    DisplayRun where
  buffer := Transmission.zeroBuffer
  reads := [Transmission.readOf c.encode length_le encode_ne]
  complete := by
    intro r hr
    refine ⟨[.command c], ?_⟩
    rw [List.mem_singleton.mp hr]
    exact (List.append_nil c.encode).symm
  next := Transmission.readOf (manualOnKey.take 10) (by decide) (by decide)

/-- The bytes of a handled on-command turn `@manual_on` into another one; those of an
off-command do not. -/
theorem residue_repeats :
    ∃ run run' : DisplayRun,
      run.buffer = run'.buffer ∧ run.next = run'.next ∧
        run.outcome = (run.next.handle, some .nextionManualOn) ∧
          run'.outcome = (run'.next.handle, none) :=
  ⟨shortAfter .manualOn (by decide) (by decide), shortAfter .manualOff (by decide) (by decide),
    rfl, rfl, rfl, rfl⟩

end Lighting
