import Lighting.Model.Storage

/-!
# Does a saved record survive?

`app_storage_save_data` answers `ESP_OK` whenever `nvs_open` did. It drops what `nvs_set_blob`
answered, and it closes the handle without `nvs_commit`. So its answer is about the record in
two cases only: when it is not `ESP_OK`, and when every state the flash can come back with reads
as the record already, so that nothing had to be saved.

`save_survives_iff` says that these are all the cases. The quantifier over `k` is the crash: the
flash has taken over the first `k` writes it accepted, and nothing in the firmware lets one say
more about `k`.
-/

set_option autoImplicit false

namespace Lighting

open WriteBack

/-- After a reboot in which every call succeeds, the record is `data`: whatever the crash left
and whatever `malloc` returned. -/
def RebootLoads (data : AppStorageData) (nvs : Nvs) : Prop :=
  ∀ (k : Nat) (mallocData : AppStorageData),
    let (handle, nvs) := appStorageInit ⟨.ok, .ok, .ok, mallocData⟩ (nvs.crash k)
    (appStorageLoadData .success handle nvs).2.1 = some ⟨data⟩

/-- The record was not stored: the open or the write failed. `ESP_ERR_NVS_REMOVE_FAILED` is not
such a failure, the value has been written. -/
def SaveEnv.NotStored (env : SaveEnv) : Prop :=
  env.openErr ≠ .ok ∨ env.setErr ≠ .ok ∧ env.setErr ≠ .nvsRemoveFailed

/-- What `ESP_OK` after `app_storage_set_data` and `app_storage_save_data` should mean. -/
def SaveSurvives (data : AppStorageData) (handle : Storage) (nvs : Nvs) (env : SaveEnv) : Prop :=
  let stored := (appStorageSetData (some handle) data).2
  let (ret, nvs) := appStorageSaveData env stored nvs
  (ret = .ok → RebootLoads data nvs) ∧ (env.NotStored → ret ≠ .ok)

/-- A load after a crash reads what survived it. -/
theorem rebootLoads_iff (data : AppStorageData) (nvs : Nvs) :
    RebootLoads data nvs ↔ ∀ k, loadedRecord (nvs.survivor k) = data := by
  have hload : ∀ k mallocData, (appStorageLoadData .success (some ⟨mallocData⟩)
      (nvs.crash k)).2.1 = some ⟨loadedRecord (nvs.survivor k)⟩ := fun k mallocData => by
    rw [appStorageLoadData_record, Cell.read_crash]
    rfl
  constructor
  · intro h k
    have hk := (hload k .zero).symm.trans (h k .zero)
    simpa using hk
  · intro h k mallocData
    have hk := hload k mallocData
    rw [h k] at hk
    exact hk

/-- **When a save can be believed.** `ESP_OK` means what it should exactly if the open failed —
it is then not answered — or the write was accepted and every state that could have survived
without it reads as the record already. -/
theorem save_survives_iff (data : AppStorageData) (handle : Storage) (nvs : Nvs) (env : SaveEnv) :
    SaveSurvives data handle nvs env ↔
      env.openErr ≠ .ok ∨
        (env.setErr = .ok ∨ env.setErr = .nvsRemoveFailed) ∧
          ∀ k, loadedRecord (nvs.survivor k) = data := by
  unfold SaveSurvives SaveEnv.NotStored
  simp only [appStorageSetData, appStorageSaveData]
  by_cases hopen : env.openErr = .ok
  · simp only [hopen, ne_eq, not_true_eq_false, if_false, false_or, forall_const]
    by_cases hset : env.setErr = .ok ∨ env.setErr = .nvsRemoveFailed
    · have hwrite : (nvsSetBlob env.setErr data nvs).2 = nvs.write (.record data) := by
        rcases hset with hset | hset <;> rw [hset] <;> rfl
      have hnot : ¬(¬env.setErr = .ok ∧ ¬env.setErr = .nvsRemoveFailed) := by tauto
      have hall := Cell.forall_survivor_write (c := nvs) (b := .record data)
        (P := fun blob => loadedRecord blob = data)
      rw [hwrite, rebootLoads_iff, hall]
      simp [hset, hnot, loadedRecord]
    · have hnot : ¬env.setErr = .ok ∧ ¬env.setErr = .nvsRemoveFailed := by tauto
      simp [hnot]
  · simp [hopen]

/-- On an empty flash every call of the save succeeds and it answers `ESP_OK`; the crash comes
before the flash has taken the write over. Or the write fails for want of space, and the answer
is `ESP_OK` again. -/
theorem save_not_survives :
    ¬SaveSurvives ⟨8, 0, true, 17, 0, true⟩ ⟨.zero⟩ (Cell.settled none) ⟨.ok, .ok⟩ ∧
      ¬SaveSurvives ⟨8, 0, true, 17, 0, true⟩ ⟨.zero⟩ (Cell.settled none) ⟨.ok, .other 0x1105⟩ := by
  constructor
  · rintro ⟨hsurvives, -⟩
    have hload := hsurvives rfl 0 .zero
    exact absurd hload (by decide)
  · rintro ⟨-, hfails⟩
    exact hfails (Or.inr ⟨by decide, by decide⟩) rfl

end Lighting
