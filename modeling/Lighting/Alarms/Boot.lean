import Lighting.Alarms.Valid

/-!
# What a boot makes of a storage failure

`app_storage_init` and `app_storage_load_data` can fail in eight calls, and `app_main` goes on
after each of them. Most of the failures end in the zero record, whose alarms are disabled.
Three do not: without a mounted partition there is no handle, and `app_storage_get_data`
dereferences it all the same; `nvs_open` fails before the record is zeroed, so that what
`malloc` returned goes to the alarms, the display and the session; and a blob whose CRC is
wrong has been copied into the record by the time `nvs_get_blob` answers that there is none.

`boot_safe_iff` is the exact condition on the outcomes, on the memory and on the flash.
-/

set_option autoImplicit false

namespace Lighting

open WriteBack

/-- The partition is usable at once, or after it has been erased. -/
def InitEnv.Mounts (env : InitEnv) : Prop :=
  (env.flashInit = .nvsNoFreePages ∨ env.flashInit = .nvsNewVersionFound) →
    env.flashErase = .ok ∧ env.flashInitAgain = .ok

/-- The blob is read as far as its data, which is damaged and does not read as the zero record
by chance. An erased partition has none. -/
def BootEnv.ReadsDamaged (env : BootEnv) (nvs : Nvs) : Prop :=
  ¬(env.init.flashInit = .nvsNoFreePages ∨ env.init.flashInit = .nvsNewVersionFound) ∧
    env.load.Reads ∧ ∃ bytes, bytes ≠ .zero ∧ nvs.read = some (.damaged (some bytes))

/-- No `NULL` is dereferenced, and the record everything is initialised with is the one the
flash held or the zero record. -/
def BootSafe (env : BootEnv) (nvs : Nvs) : Prop :=
  (appMain env nvs).power = .running ∧
    ∃ data, appStorageGetData (appMain env nvs).storage = some data ∧
      (data = .zero ∨ nvs.read = some (.record data))

theorem appStorageInit_mounts {env : InitEnv} (h : env.Mounts) (nvs : Nvs) :
    (appStorageInit env nvs).1 = some ⟨env.mallocData⟩ := by
  unfold appStorageInit
  by_cases hfull : env.flashInit = .nvsNoFreePages ∨ env.flashInit = .nvsNewVersionFound
  · obtain ⟨herase, hagain⟩ := h hfull
    rw [if_pos hfull, if_neg (not_not.mpr herase), if_neg (not_not.mpr hagain)]
  · rw [if_neg hfull]

theorem appStorageInit_not_mounts {env : InitEnv} (h : ¬env.Mounts) (nvs : Nvs) :
    (appStorageInit env nvs).1 = none := by
  unfold InitEnv.Mounts at h
  rw [Classical.not_imp] at h
  obtain ⟨hfull, hfail⟩ := h
  unfold appStorageInit
  rw [if_pos hfull]
  by_cases herase : env.flashErase = .ok
  · rw [if_neg (not_not.mpr herase), if_pos fun hagain => hfail ⟨herase, hagain⟩]
  · rw [if_pos herase]

/-- The flash after `app_storage_init`: erased, if that was tried. -/
theorem appStorageInit_nvs {env : InitEnv} (h : env.Mounts) (nvs : Nvs) :
    (appStorageInit env nvs).2 =
      if env.flashInit = .nvsNoFreePages ∨ env.flashInit = .nvsNewVersionFound then
        Cell.settled none
      else nvs := by
  unfold appStorageInit
  split
  case isTrue hfull =>
    obtain ⟨herase, hagain⟩ := h hfull
    rw [if_neg (not_not.mpr herase), if_neg (not_not.mpr hagain)]
  case isFalse => rfl

/-- A load that goes through leaves a stored record or the zero record, unless it read damaged
data. -/
theorem loadedRecord_eq_iff (blob : Option Blob) :
    loadedRecord blob = .zero ∨ blob = some (.record (loadedRecord blob)) ↔
      ∀ bytes, blob = some (.damaged (some bytes)) → bytes = .zero := by
  rcases blob with - | (data | (- | bytes) | ⟨size, ne⟩)
  · simp [loadedRecord]
  · simp [loadedRecord]
  · simp [loadedRecord]
  · simp [loadedRecord]
  · simp [loadedRecord]

/-- The storage handle of `app_main`. -/
theorem appMain_storage (env : BootEnv) (nvs : Nvs) :
    (appMain env nvs).storage = (appStorageLoadData env.load (appStorageInit env.init nvs).1
      (appStorageInit env.init nvs).2).2.1 := rfl

theorem appMain_power (env : BootEnv) (nvs : Nvs) :
    (appMain env nvs).power = if (appMain env nvs).storage.isSome then .running else .faulted :=
  rfl

/-- The record of a boot that opens the namespace. -/
theorem openedRecord_iff {env : BootEnv} (hmount : env.init.Mounts) (nvs : Nvs) :
    let data := if env.load.Reads then loadedRecord (appStorageInit env.init nvs).2.read else .zero
    (data = .zero ∨ nvs.read = some (.record data)) ↔ ¬env.ReadsDamaged nvs := by
  dsimp only
  rw [appStorageInit_nvs hmount]
  unfold BootEnv.ReadsDamaged
  by_cases hreads : env.load.Reads
  · by_cases hfull : env.init.flashInit = .nvsNoFreePages ∨ env.init.flashInit = .nvsNewVersionFound
    · simp [hreads, hfull, loadedRecord]
    · simp only [hreads, hfull, if_true, if_false, not_false_eq_true, true_and,
        loadedRecord_eq_iff, not_exists, not_and]
      exact forall_congr' fun bytes => ⟨fun h hne heq => hne (h heq), fun h heq =>
        by_contra fun hne => h hne heq⟩
  · simp [hreads]

/-- **Which storage failures a boot survives.** The record is a stored one or the zero record,
and no missing handle is dereferenced, exactly if the partition mounts, at the second try if
need be, and where `nvs_open` succeeds no damaged data is read, and where it fails the memory of
the record already read as one of the two. -/
theorem boot_safe_iff (env : BootEnv) (nvs : Nvs) :
    BootSafe env nvs ↔ env.init.Mounts ∧ (env.load.openErr = .ok → ¬env.ReadsDamaged nvs) ∧
      (env.load.openErr ≠ .ok →
        env.init.mallocData = .zero ∨ nvs.read = some (.record env.init.mallocData)) := by
  unfold BootSafe
  rw [appMain_power, appMain_storage]
  by_cases hmount : env.init.Mounts
  · rw [appStorageInit_mounts hmount nvs, appStorageLoadData_record]
    simp only [Option.isSome_some, if_true, true_and, hmount, appStorageGetData, Option.map_some,
      Option.some.injEq, exists_eq_left']
    by_cases hopen : env.load.openErr = .ok
    · simpa [hopen] using openedRecord_iff hmount nvs
    · simp [hopen]
  · rw [appStorageInit_not_mounts hmount]
    exact iff_of_false (fun h => Power.noConfusion h.1) fun h => hmount h.1

/-- `nvs_open` fails over an empty flash, and the memory of the record reads as an alarm at
hour 2020; or every call goes through over a blob damaged to that. -/
theorem boot_not_safe :
    (appMain { BootEnv.clean with
        init := ⟨.ok, .ok, .ok, ⟨2020, 7, true, 1, 1, true⟩⟩, load := ⟨.fail, .ok, .ok, .ok, .ok⟩ }
          (.settled none)).schedule.startJob.startHour = 2020 ∧
      ¬BootSafe { BootEnv.clean with
        init := ⟨.ok, .ok, .ok, ⟨2020, 7, true, 1, 1, true⟩⟩, load := ⟨.fail, .ok, .ok, .ok, .ok⟩ }
          (.settled none) ∧
      (appMain .clean (.settled (some (.damaged
        (some ⟨2020, 7, true, 1, 1, true⟩))))).schedule.startJob.startHour = 2020 ∧
      ¬BootSafe .clean (.settled (some (.damaged (some ⟨2020, 7, true, 1, 1, true⟩)))) := by
  refine ⟨rfl, ?_, rfl, ?_⟩
  · rintro ⟨-, data, hdata, hzero | hread⟩
    · cases hdata
      exact absurd hzero (by decide)
    · cases hread
  · rintro ⟨-, data, hdata, hzero | hread⟩
    · cases hdata
      exact absurd hzero (by decide)
    · cases hread

end Lighting
