import Lighting.Lib.Runs
import Lighting.Alarms.Copies

/-!
# Which times of day reach the schedule

The server's hours and minutes are unsigned and unchecked and become signed on the way. The
display's are checked from above only, after an `sscanf` that may have set none of them. And a
boot copies whatever it finds: the record of the flash if it could be read, and what `malloc`
returned for the two alarms, which `app_schedule_init` does not assign.

What the three places of `Alarms/Copies` hold after a step is the schedule that came in, so
`times_valid_iff` reads off the exact condition: every schedule that arrived was a time of day,
and every boot found what it copies to be one. Between two boots the flash may or may not have
taken over the last records; a boot comes with the number of accepted writes that survived.
-/

set_option autoImplicit false

namespace Lighting

open Runs WriteBack CString

/-- A time of day. -/
def ValidTime (hour minute : Int) : Prop := 0 ≤ hour ∧ hour ≤ 23 ∧ 0 ≤ minute ∧ minute ≤ 59

instance (hour minute : Int) : Decidable (ValidTime hour minute) :=
  inferInstanceAs (Decidable (_ ∧ _))

/-- An alarm that is enabled is set to a time of day. -/
def Job.Valid (job : Job) : Prop := job.enable = true → ValidTime job.startHour job.startMinute

instance (job : Job) : Decidable job.Valid := inferInstanceAs (Decidable (_ → _))

def ActiveTime.Valid (t : ActiveTime) : Prop :=
  ValidTime t.startHour t.startMinute ∧ ValidTime t.endHour t.endMinute

def AppStorageData.Valid (data : AppStorageData) : Prop :=
  ValidTime data.startHour data.startMinute ∧ ValidTime data.endHour data.endMinute

def Blob.Valid : Blob → Prop
  | .record data => data.Valid
  | .damaged bytes => ∀ data, bytes = some data → data.Valid
  | .foreign _ _ => True

/-- What a load takes from a flash that holds times of day. -/
theorem loadedRecord_valid {blob : Option Blob} (h : ∀ b, blob = some b → b.Valid) :
    (loadedRecord blob).Valid := by
  have hzero : AppStorageData.zero.Valid := by
    constructor <;> decide
  rcases blob with - | (data | (- | bytes) | ⟨size, ne⟩)
  · exact hzero
  · exact h _ rfl
  · exact hzero
  · exact h _ rfl bytes rfl
  · exact hzero

/-- The alarms and the record in memory. -/
structure App.MemoryValid (app : App) : Prop where
  startJob : app.schedule.startJob.Valid
  endJob : app.schedule.endJob.Valid
  storage : ∀ handle, app.storage = some handle → handle.data.Valid

/-- Everything the device holds: the flash always, the memory while the device runs. -/
structure App.TimesValid (app : App) : Prop where
  flash : app.nvs.All Blob.Valid
  memory : app.power = .running → app.MemoryValid

section frame

variable {a b : App}

theorem SameTimes.memoryValid (hs : SameTimes a b) (h : a.MemoryValid) : b.MemoryValid :=
  ⟨hs.startJob ▸ h.startJob, hs.endJob ▸ h.endJob, hs.storage ▸ h.storage⟩

/-- A running device that keeps its times keeps them valid. -/
theorem SameTimes.timesValid (hs : SameTimes a b) (hrun : a.power = .running)
    (h : a.TimesValid) : b.TimesValid :=
  ⟨hs.nvs ▸ h.flash, fun _ => hs.memoryValid (h.memory hrun)⟩

theorem Scheduled.timesValid_iff {t : ActiveTime} (hs : Scheduled t a b) (ha : a.TimesValid)
    (hrun : b.power = .running) : b.TimesValid ↔ t.Valid := by
  obtain ⟨hen, hhour, hminute⟩ := hs.startJob
  obtain ⟨hen', hhour', hminute'⟩ := hs.endJob
  constructor
  · intro h
    have hstart := (h.memory hrun).startJob hen
    have hend := (h.memory hrun).endJob hen'
    rw [hhour, hminute] at hstart
    rw [hhour', hminute'] at hend
    exact ⟨hstart, hend⟩
  · intro ht
    refine ⟨?_, fun _ => ⟨fun _ => ?_, fun _ => ?_, fun handle hh => ?_⟩⟩
    · rcases hs.nvs with hn | hn
      · rw [hn]; exact ha.flash
      · rw [hn]; exact ha.flash.write ht
    · rw [hhour, hminute]; exact ht.1
    · rw [hhour', hminute']; exact ht.2
    · rw [hs.storage handle hh]; exact ht

end frame

/-! ## What may come in -/

/-- An hour and a minute of the server. -/
def HMTime.Valid (t : HMTime) : Prop := t.hour.toNat ≤ 23 ∧ t.minute.toNat ≤ 59

instance (t : HMTime) : Decidable t.Valid := inferInstanceAs (Decidable (_ ∧ _))

/-- An input brings no schedule but one of times of day. For the server that is a bound on what
it sends; for the display, whose upper bounds are tested, that no local is negative. -/
def Input.BringsTimes (app : App) : Input → Prop
  | .message (some m) =>
    ∀ first last, m.dispatch = .setActiveTime ⟨some ⟨some first, some last⟩⟩ →
      first.Valid ∧ last.Valid
  | .nextion r =>
    r.bytes ≠ [] → memcmpEq (app.readBuffer.store r).bytes upTimeKey = true →
      let t := upTimeLocals ((app.readBuffer.store r).bytes ++ r.beyond) r.stack
      upTimeRejected t = false →
        0 ≤ t.startHour ∧ 0 ≤ t.startMinute ∧ 0 ≤ t.endHour ∧ 0 ≤ t.endMinute
  | _ => True

theorem upTimeRejected_eq_false {t : ActiveTime} (h : upTimeRejected t = false) :
    t.Valid ↔ 0 ≤ t.startHour ∧ 0 ≤ t.startMinute ∧ 0 ≤ t.endHour ∧ 0 ≤ t.endMinute := by
  simp only [upTimeRejected, Bool.or_eq_false_iff, decide_eq_false_iff_not] at h
  unfold ActiveTime.Valid ValidTime
  omega

/-- An unsigned hour or minute survives the narrowing exactly if it is in range. -/
theorem validTime_wrap32 (hour minute : UInt32) :
    ValidTime (wrap32 hour.toNat) (wrap32 minute.toNat) ↔
      hour.toNat ≤ 23 ∧ minute.toNat ≤ 59 := by
  have hh := hour.toNat_lt
  have hm := minute.toNat_lt
  have h23 := wrap32_mem_iff (x := hour.toNat) (k := 23) (by omega) (by omega)
  have h59 := wrap32_mem_iff (x := minute.toNat) (k := 59) (by omega) (by omega)
  unfold ValidTime
  omega

/-- A request of the server is one for times of day exactly if its hours and minutes are. -/
theorem request_valid_iff (r : SetActiveTimeDeviceRequest) :
    (∀ first last, r = ⟨some ⟨some first, some last⟩⟩ → first.Valid ∧ last.Valid) ↔
      ∀ t, r.activeTime? = some t → t.Valid := by
  obtain ⟨lamp⟩ := r
  rcases lamp with - | ⟨_ | first, _ | last⟩
  · exact ⟨fun _ t ht => (by cases ht), fun _ first last heq => (by cases heq)⟩
  · exact ⟨fun _ t ht => (by cases ht), fun _ first last heq => (by cases heq)⟩
  · exact ⟨fun _ t ht => (by cases ht), fun _ first last heq => (by cases heq)⟩
  · exact ⟨fun _ t ht => (by cases ht), fun _ first last heq => (by cases heq)⟩
  · have hvalid := and_congr (validTime_wrap32 first.hour first.minute)
      (validTime_wrap32 last.hour last.minute)
    rw [SetActiveTimeDeviceRequest.activeTime?_some]
    constructor
    · intro h t ht
      obtain rfl := Option.some.inj ht
      exact hvalid.mpr (h first last rfl)
    · intro h first' last' heq
      cases heq
      have ht := h _ rfl
      exact hvalid.mp ht

/-- The display brings a schedule by the one event that carries one. -/
theorem nextion_schedule? (r : NextionRead) (app : App) (t : ActiveTime) :
    (Input.nextion r).schedule? app = some t ↔
      (nextionReadTask r app.readBuffer app.nextion).2.2 =
        some (.nextionSetSchedule (some t)) := by
  simp only [Input.schedule?]
  constructor
  · intro h
    obtain ⟨e, he, ht⟩ := Option.bind_eq_some_iff.mp h
    rcases nextionReadTask_events he with rfl | rfl | ⟨t', rfl⟩ | ⟨form, rfl⟩ | rfl
    · exact absurd ht (by simp [Event.schedule?])
    · exact absurd ht (by simp [Event.schedule?])
    · rw [he]
      exact congrArg (fun t => some (Event.nextionSetSchedule t)) ht
    · exact absurd ht (by simp [Event.schedule?])
    · exact absurd ht (by simp [Event.schedule?])
  · intro h
    rw [h]
    rfl

theorem bringsTimes_iff {p : Panel} {app : App} (h : Shows p app) (i : Input) :
    i.BringsTimes app ↔ ∀ t, i.schedule? app = some t → t.Valid := by
  cases i with
  | message m =>
    cases m with
    | none => simp [Input.BringsTimes, Input.schedule?]
    | some message =>
      simp only [Input.BringsTimes, Input.schedule?]
      cases message.dispatch with
      | setActiveTime r =>
        rw [← request_valid_iff]
        simp only [Dispatch.setActiveTime.injEq]
      | _ => simp
  | nextion r =>
    simp only [nextion_schedule?, nextionReadTask_setSchedule h.nextionCallback,
      Input.BringsTimes]
    constructor
    · rintro hbounds t ⟨hread, hkey, rfl, hok⟩
      exact (upTimeRejected_eq_false hok).mpr (hbounds hread hkey hok)
    · intro hvalid hread hkey hok
      exact (upTimeRejected_eq_false hok).mp (hvalid _ ⟨hread, hkey, rfl, hok⟩)
  | _ => simp [Input.BringsTimes, Input.schedule?]

/-! ## What a boot copies -/

/-- The record `app_storage_load_data` leaves, if there is a handle to leave it in. -/
def bootRecord (env : BootEnv) (nvs : Nvs) : Option AppStorageData :=
  let (storage, nvs) := appStorageInit env.init nvs
  (appStorageLoadData env.load storage nvs).2.1.map Storage.data

/-- A boot that does not fail finds times of day wherever it reads uninitialised memory: in the
record, if `nvs_open` fails, and in an alarm that the record does not enable. -/
def BootsClean (env : BootEnv) (nvs : Nvs) : Prop :=
  ∀ data, bootRecord env nvs = some data →
    (env.load.openErr = .ok ∨ env.init.mallocData.Valid) ∧
      (data.enableStart = true ∨ env.scheduleMemory.startJob.Valid) ∧
        (data.enableEnd = true ∨ env.scheduleMemory.endJob.Valid)

theorem appStorageInit_cases (env : InitEnv) (nvs : Nvs) :
    ((appStorageInit env nvs).1 = none ∨
        (appStorageInit env nvs).1 = some ⟨env.mallocData⟩) ∧
      ((appStorageInit env nvs).2 = nvs ∨ (appStorageInit env nvs).2 = Cell.settled none) := by
  unfold appStorageInit
  split
  · split
    · exact ⟨Or.inl rfl, Or.inl rfl⟩
    · split
      · exact ⟨Or.inl rfl, Or.inr rfl⟩
      · exact ⟨Or.inr rfl, Or.inr rfl⟩
  · exact ⟨Or.inr rfl, Or.inl rfl⟩

theorem bootSchedule_jobs (mem : ScheduleMemory) (data : AppStorageData) :
    (bootSchedule mem data).startJob =
        (if data.enableStart then { mem.startJob with
          startHour := data.startHour, startMinute := data.startMinute, enable := true,
          type := .activeStart } else mem.startJob) ∧
      (bootSchedule mem data).endJob =
        (if data.enableEnd then { mem.endJob with
          startHour := data.endHour, startMinute := data.endMinute, enable := true,
          type := .activeEnd } else mem.endJob) := by
  unfold bootSchedule
  dsimp only
  cases data.enableStart <;> cases data.enableEnd <;> exact ⟨rfl, rfl⟩

/-- The flash holds times of day after a boot if it did before, and so does the record that
was read from it. -/
theorem boot_reads {nvs : Nvs} (h : nvs.All Blob.Valid) (env : BootEnv) :
    (appMain env nvs).nvs.All Blob.Valid ∧
      ((appMain env nvs).storage = none ∨
        ∃ data, (appMain env nvs).storage = some ⟨data⟩ ∧
          (data.Valid ↔ env.load.openErr = .ok ∨ env.init.mallocData.Valid)) := by
  obtain ⟨hstorage, hflash⟩ := appStorageInit_cases env.init nvs
  have hinit : (appStorageInit env.init nvs).2.All Blob.Valid := by
    rcases hflash with hf | hf
    · rw [hf]; exact h
    · rw [hf]; exact .settled (by simp)
  have hzero : AppStorageData.zero.Valid := by
    constructor <;> decide
  have hs : (appMain env nvs).storage = (appStorageLoadData env.load
      (appStorageInit env.init nvs).1 (appStorageInit env.init nvs).2).2.1 := rfl
  have hn : (appMain env nvs).nvs = (appStorageLoadData env.load
      (appStorageInit env.init nvs).1 (appStorageInit env.init nvs).2).2.2 := rfl
  rcases hstorage with hnone | hsome
  · rw [hnone] at hs hn
    rw [hn]
    exact ⟨hinit, Or.inl hs⟩
  · rw [hsome] at hs hn
    refine ⟨?_, Or.inr ⟨_, hs.trans (appStorageLoadData_record _ _ _), ?_⟩⟩
    · rw [hn]
      rcases appStorageLoadData_nvs env.load ⟨env.init.mallocData⟩ (appStorageInit env.init nvs).2
        with hkey | hkey | hkey | hkey
      · rw [hkey]; exact hinit
      · rw [hkey]; exact hinit.write hzero
      · rw [hkey]; exact hinit.write fun _ hd => absurd hd (by simp)
      · rw [hkey]; exact hinit.erase
    · by_cases hopen : env.load.openErr = .ok
      · simp only [hopen, ne_eq, not_true_eq_false, if_false, true_or, iff_true]
        split
        · exact loadedRecord_valid fun _ hb => hinit.read hb
        · exact hzero
      · simp [hopen]

theorem appMain_schedule (env : BootEnv) (nvs : Nvs) :
    (appMain env nvs).schedule =
      bootSchedule env.scheduleMemory ((appStorageGetData (appMain env nvs).storage).getD .zero) :=
  rfl

/-- **A boot is fine exactly if it finds times of day.** -/
theorem appMain_timesValid_iff {nvs : Nvs} (h : nvs.All Blob.Valid) (env : BootEnv) :
    (appMain env nvs).TimesValid ↔ BootsClean env nvs := by
  obtain ⟨hflash, hstorage⟩ := boot_reads h env
  have hrecord : bootRecord env nvs = (appMain env nvs).storage.map Storage.data := rfl
  have hpower : (appMain env nvs).power =
      if (appMain env nvs).storage.isSome then .running else .faulted := rfl
  unfold BootsClean
  rw [hrecord]
  rcases hstorage with hnone | ⟨data, hdata, hvalid⟩
  · rw [hnone] at hpower ⊢
    refine ⟨fun _ data hd => absurd hd (by simp), fun _ => ⟨hflash, fun hrun => ?_⟩⟩
    rw [hrun] at hpower
    exact absurd hpower (by simp)
  · have hrun : (appMain env nvs).power = .running := by rw [hpower, hdata]; rfl
    obtain ⟨hstart, hend⟩ := bootSchedule_jobs env.scheduleMemory data
    have hsched : (appMain env nvs).schedule = bootSchedule env.scheduleMemory data := by
      rw [appMain_schedule, hdata]; rfl
    simp only [hdata, Option.map_some, Option.some.injEq, forall_eq', ← hvalid]
    have hjobs : data.Valid →
        (((bootSchedule env.scheduleMemory data).startJob.Valid ↔
            data.enableStart = true ∨ env.scheduleMemory.startJob.Valid) ∧
          ((bootSchedule env.scheduleMemory data).endJob.Valid ↔
            data.enableEnd = true ∨ env.scheduleMemory.endJob.Valid)) := by
      intro hd
      rw [hstart, hend]
      constructor
      · cases data.enableStart
        · simp
        · simpa [Job.Valid] using hd.1
      · cases data.enableEnd
        · simp
        · simpa [Job.Valid] using hd.2
    constructor
    · intro hv
      have hm := hv.memory hrun
      have hd : data.Valid := hm.storage ⟨data⟩ hdata
      have hs := hm.startJob
      have he := hm.endJob
      rw [hsched] at hs he
      exact ⟨hd, (hjobs hd).1.mp hs, (hjobs hd).2.mp he⟩
    · rintro ⟨hd, hs, he⟩
      refine ⟨hflash, fun _ => ⟨?_, ?_, fun handle hh => ?_⟩⟩
      · rw [hsched]; exact (hjobs hd).1.mpr hs
      · rw [hsched]; exact (hjobs hd).2.mpr he
      · rw [hdata] at hh
        rw [← Option.some.inj hh]
        exact hd

/-! ## The life of a device -/

/-- An input, or a boot that finds the first so many accepted writes on the flash. -/
inductive LifeStep where
  | input (i : Input)
  | reboot (env : BootEnv) (survived : Nat)

def App.live : LifeStep → App → App
  | .input i, app => app.step i
  | .reboot env survived, app => appMain env (app.nvs.crash survived)

/-- The step brings only times of day. -/
def LifeStep.Fine : LifeStep → App → Prop
  | .input i, app => app.power = .running → i.BringsTimes app
  | .reboot env survived, app => BootsClean env (app.nvs.crash survived)

theorem live_timesValid_iff {p : Panel} {app : App} (h : Shows p app) (hv : app.TimesValid)
    (s : LifeStep) : (app.live s).TimesValid ↔ s.Fine app := by
  cases s with
  | reboot env survived => exact appMain_timesValid_iff (hv.flash.crash survived) env
  | input i =>
    simp only [App.live, App.step, LifeStep.Fine]
    by_cases hrun : app.power = .running
    · simp only [hrun, if_true, forall_const]
      rw [bringsTimes_iff h]
      cases ht : i.schedule? app with
      | none => simpa using (handle_times ht).timesValid hrun hv
      | some t =>
        have hs := handle_scheduled h ht
        rw [hs.timesValid_iff hv (hs.power.trans hrun)]
        simp
    · simp [hrun, hv]

/-- **Only times of day reach the schedule — of a device that is fed only those.** From a boot
over an empty flash or one that holds times of day, everything the device holds is a time of
day in every state reached, exactly if every boot was clean and every schedule that came in was
one of times of day. -/
theorem times_valid_iff (env : BootEnv) (nvs : Nvs) (h : nvs.All Blob.Valid)
    (ss : List LifeStep) :
    Always App.live App.TimesValid (appMain env nvs) ss ↔
      BootsClean env nvs ∧ Along App.live LifeStep.Fine (appMain env nvs) ss := by
  have hinv : ∀ s app, (∃ p, Shows p app) → ∃ p, Shows p (app.live s) := by
    rintro s app ⟨p, hs⟩
    cases s with
    | input i => exact ⟨_, step_shows hs i⟩
    | reboot env survived => exact ⟨_, (appMain_shows env _).1⟩
  have hstep : ∀ s app, (∃ p, Shows p app) → app.TimesValid →
      ((app.live s).TimesValid ↔ s.Fine app) := by
    rintro s app ⟨p, hs⟩ hv
    exact live_timesValid_iff hs hv s
  rw [← appMain_timesValid_iff h env]
  constructor
  · intro halways
    have h0 : (appMain env nvs).TimesValid := halways [] List.nil_prefix
    exact ⟨h0, (always_iff_along hinv hstep ⟨_, (appMain_shows env nvs).1⟩ h0).mp halways⟩
  · rintro ⟨h0, halong⟩
    exact (always_iff_along hinv hstep ⟨_, (appMain_shows env nvs).1⟩ h0).mpr halong

/-- Eight o'clock to five, from the server, over an empty flash. -/
theorem times_valid_workday :
    Always App.live App.TimesValid (appMain .clean (Cell.settled none))
      [.input (.message (some (.setActiveTime ⟨8, 0⟩ ⟨17, 0⟩))), .reboot .clean 2] := by
  refine (times_valid_iff .clean (Cell.settled none) (.settled (by simp)) _).mpr ⟨?_, ?_, ?_, ?_⟩
  · intro data _
    exact ⟨Or.inl rfl, Or.inr (by decide), Or.inr (by decide)⟩
  · intro _ first last hd
    obtain ⟨rfl, rfl⟩ : first = ⟨8, 0⟩ ∧ last = ⟨17, 0⟩ := by simpa [eq_comm] using hd
    exact ⟨by decide, by decide⟩
  · intro data _
    exact ⟨Or.inl rfl, Or.inr (by decide), Or.inr (by decide)⟩
  · trivial

/-- Two hundred o'clock, from the server. -/
def lateStart : List LifeStep :=
  [.input (.message (some (.setActiveTime ⟨200, 0⟩ ⟨17, 0⟩)))]

/-- The start alarm is enabled at hour 200, and so is the record that was saved. -/
theorem lateStart_not_valid :
    (after App.live (appMain .clean (Cell.settled none)) lateStart).schedule.startJob.startHour =
        200 ∧
      (after App.live (appMain .clean (Cell.settled none)) lateStart).nvs.read =
        some (.record ⟨200, 0, true, 17, 0, true⟩) ∧
      ¬Always App.live App.TimesValid (appMain .clean (Cell.settled none)) lateStart := by
  refine ⟨by decide +kernel, by decide +kernel, fun h => ?_⟩
  have hstart := (h.last.memory rfl).startJob rfl
  exact absurd hstart (by decide)

end Lighting
