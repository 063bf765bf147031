import Lighting.Lib.WriteBack
import Lighting.Model.Common

/-!
# `app_storage.c` — the stored record, over `nvs.h` and `nvs_page.cpp`

For writing, `nvs.h` promises little, and this file assumes no more than it promises. Every
call may fail, with an outcome that is part of the input. A successful `nvs_set_blob` is an
accepted write; what is on the flash is certain only after `nvs_commit`, which the firmware
never calls, so the key is a `WriteBack.Cell` that nothing flushes. `ESP_ERR_NVS_REMOVE_FAILED`
is the one failure after which the value may still turn up.

For reading, `nvs.h` promises too much: that an error leaves the buffer alone. `Page::readItem`
copies the data of an item into the buffer, computes the CRC of what it copied, and only then
finds that it is wrong. It erases the item and answers `ESP_ERR_NVS_NOT_FOUND`, with the
damaged bytes in the buffer.

A blob is known by its size. If the size is that of `app_storage_data_t` it is read back as a
record, or it is `damaged`; otherwise only the size is ever looked at (`Blob.foreign`).
-/

set_option autoImplicit false

namespace Lighting

open WriteBack

/-- `app_storage_data_t`. -/
structure AppStorageData where
  startHour : Int
  startMinute : Int
  enableStart : Bool
  endHour : Int
  endMinute : Int
  enableEnd : Bool
  deriving DecidableEq, Repr

/-- `memset(handle->data, 0, sizeof(app_storage_data_t))`. -/
def AppStorageData.zero : AppStorageData := ⟨0, 0, false, 0, 0, false⟩

/-- The record `event_callback` builds from a schedule. -/
def AppStorageData.ofActiveTime (activeTime : ActiveTime) : AppStorageData where
  startHour := activeTime.startHour
  startMinute := activeTime.startMinute
  enableStart := true
  endHour := activeTime.endHour
  endMinute := activeTime.endMinute
  enableEnd := true

/-- `sizeof(app_storage_data_t)` on the ESP32. -/
def sizeofAppStorageData : Nat := 24

inductive Blob where
  | record (data : AppStorageData)
  /-- The index of a blob of the right size whose data does not have the CRC stored with it;
  `none` if the data has been erased. -/
  | damaged (bytes : Option AppStorageData)
  | foreign (size : Nat) (ne : size ≠ sizeofAppStorageData)
  deriving DecidableEq, Repr

def Blob.size : Blob → Nat
  | .record _ => sizeofAppStorageData
  | .damaged _ => sizeofAppStorageData
  | .foreign size _ => size

/-- The key `COMMON_KEY` of the namespace `app`. -/
abbrev Nvs := Cell Blob

/-- `app_storage_t`. -/
structure Storage where
  data : AppStorageData
  deriving DecidableEq, Repr

/-! ## The calls of `nvs.h` -/

/-- `nvs_get_blob` without a buffer: the required size. -/
def nvsGetBlobSize (callErr : EspErr) (nvs : Nvs) : EspErr × Nat :=
  if callErr ≠ .ok then (callErr, 0)
  else
    match nvs.read with
    | none => (.nvsNotFound, 0)
    | some blob => (.ok, blob.size)

/-- `nvs_get_blob` into the record. `callErr` is a failure before anything is copied,
`eraseErr` the answer of the erasure of damaged data. -/
def nvsGetBlob (callErr eraseErr : EspErr) (nvs : Nvs) (data : AppStorageData) :
    EspErr × AppStorageData × Nvs :=
  if callErr ≠ .ok then (callErr, data, nvs)
  else
    match nvs.read with
    | some (.record stored) => (.ok, stored, nvs)
    | some (.damaged (some bytes)) =>
      if eraseErr ≠ .ok then (eraseErr, bytes, nvs)
      else (.nvsNotFound, bytes, nvs.write (.damaged none))
    -- An index whose data is not found is erased, too.
    | some (.damaged none) => (.nvsNotFound, data, nvs.erase)
    | _ => (.nvsNotFound, data, nvs)

def nvsSetBlob (callErr : EspErr) (data : AppStorageData) (nvs : Nvs) : EspErr × Nvs :=
  match callErr with
  | .ok => (.ok, nvs.write (.record data))
  | .nvsRemoveFailed => (.nvsRemoveFailed, nvs.write (.record data))
  | err => (err, nvs)

/-! ## The module -/

/-- What `app_storage_init` meets: the two `nvs_flash_init`, `nvs_flash_erase`, and the memory
`malloc` returned for the record. -/
structure InitEnv where
  flashInit : EspErr
  flashErase : EspErr
  flashInitAgain : EspErr
  mallocData : AppStorageData

def appStorageInit (env : InitEnv) (nvs : Nvs) : Option Storage × Nvs :=
  if env.flashInit = .nvsNoFreePages ∨ env.flashInit = .nvsNewVersionFound then
    -- Both errors mean that the partition cannot be used as it is: erase it and try again.
    if env.flashErase ≠ .ok then (none, nvs)
    else if env.flashInitAgain ≠ .ok then (none, Cell.settled none)
    else (some ⟨env.mallocData⟩, Cell.settled none)
  else (some ⟨env.mallocData⟩, nvs)

/-- The outcomes of the calls of `app_storage_load_data`. -/
structure LoadEnv where
  openErr : EspErr
  sizeErr : EspErr
  setErr : EspErr
  readErr : EspErr
  eraseErr : EspErr

/-- Every call goes through. -/
def LoadEnv.success : LoadEnv := ⟨.ok, .ok, .ok, .ok, .ok⟩

def appStorageLoadData (env : LoadEnv) (handle : Option Storage) (nvs : Nvs) :
    EspErr × Option Storage × Nvs :=
  match handle with
  | none => (.fail, none, nvs)
  | some handle =>
    if env.openErr ≠ .ok then (env.openErr, some handle, nvs)
    else
      let (err, requiredSize) := nvsGetBlobSize env.sizeErr nvs
      if err ≠ .ok ∧ err ≠ .nvsNotFound then (err, some ⟨.zero⟩, nvs)
      else if requiredSize = 0 ∨ requiredSize ≠ sizeofAppStorageData then
        -- The answer of this `nvs_set_blob` is dropped, too.
        (.ok, some ⟨.zero⟩, (nvsSetBlob env.setErr .zero nvs).2)
      else
        let (err, data, nvs) := nvsGetBlob env.readErr env.eraseErr nvs .zero
        (if err ≠ .ok then err else .ok, some ⟨data⟩, nvs)

/-- `app_storage_get_data`: a missing handle is dereferenced. -/
def appStorageGetData (handle : Option Storage) : Option AppStorageData :=
  handle.map Storage.data

def appStorageSetData (handle : Option Storage) (data : AppStorageData) :
    EspErr × Option Storage :=
  match handle with
  | none => (.fail, none)
  | some _ => (.ok, some ⟨data⟩)

/-- The outcomes of the calls of `app_storage_save_data`. -/
structure SaveEnv where
  openErr : EspErr
  setErr : EspErr
  deriving DecidableEq, Repr

/-- `app_storage_save_data`: the answer of `nvs_set_blob` is dropped, nothing commits. -/
def appStorageSaveData (env : SaveEnv) (handle : Option Storage) (nvs : Nvs) : EspErr × Nvs :=
  match handle with
  | none => (.fail, nvs)
  | some handle =>
    if env.openErr ≠ .ok then (env.openErr, nvs)
    else (.ok, (nvsSetBlob env.setErr handle.data nvs).2)

/-! ## What the calls do to the key -/

/-- `nvs_set_blob` writes the record or leaves the key alone. -/
theorem nvsSetBlob_cases (callErr : EspErr) (data : AppStorageData) (nvs : Nvs) :
    (nvsSetBlob callErr data nvs).2 = nvs.write (.record data) ∨
      (nvsSetBlob callErr data nvs).2 = nvs := by
  cases callErr <;> first | exact Or.inl rfl | exact Or.inr rfl

/-- The record a load leaves whose calls go through, as a function of what the key reads as. -/
def loadedRecord : Option Blob → AppStorageData
  | some (.record data) => data
  | some (.damaged (some bytes)) => bytes
  | _ => .zero

theorem nvsGetBlob_data (eraseErr : EspErr) (nvs : Nvs) :
    (nvsGetBlob .ok eraseErr nvs .zero).2.1 = loadedRecord nvs.read := by
  simp only [nvsGetBlob, ne_eq, not_true_eq_false, if_false]
  rcases nvs.read with - | (data | (- | bytes) | ⟨size, ne⟩)
  · rfl
  · rfl
  · rfl
  · dsimp only [loadedRecord]
    split <;> rfl
  · rfl

/-- The two calls of `nvs_get_blob` get as far as the data. -/
def LoadEnv.Reads (env : LoadEnv) : Prop := env.sizeErr = .ok ∧ env.readErr = .ok

instance (env : LoadEnv) : Decidable env.Reads := inferInstanceAs (Decidable (_ ∧ _))

/-- **The record any load leaves**: the one that was there, if the open failed; the zero record,
if the key was not read; else what the key reads as. -/
theorem appStorageLoadData_record (env : LoadEnv) (handle : Storage) (nvs : Nvs) :
    (appStorageLoadData env (some handle) nvs).2.1 = some
      ⟨if env.openErr ≠ .ok then handle.data
        else if env.Reads then loadedRecord nvs.read else .zero⟩ := by
  unfold appStorageLoadData LoadEnv.Reads
  by_cases hopen : env.openErr = .ok
  · simp only [hopen, ne_eq, not_true_eq_false, if_false]
    by_cases hsize : env.sizeErr = .ok
    · simp only [hsize, true_and, nvsGetBlobSize, ne_eq, not_true_eq_false, if_false]
      cases hr : nvs.read with
      | none => simp [loadedRecord]
      | some blob =>
        by_cases hforeign : blob.size = 0 ∨ ¬blob.size = sizeofAppStorageData
        · have hzero : loadedRecord (some blob) = .zero := by
            cases blob with
            | record data => simp [Blob.size, sizeofAppStorageData] at hforeign
            | damaged bytes => simp [Blob.size, sizeofAppStorageData] at hforeign
            | foreign size ne => rfl
          simp [hforeign, hzero]
        · simp only [hforeign, not_true_eq_false, false_and, if_false]
          by_cases hread : env.readErr = .ok
          · rw [if_pos hread, hread, nvsGetBlob_data, hr]
          · rw [if_neg hread]
            simp [nvsGetBlob, hread]
    · -- No size, or not found: the record stays as it was zeroed.
      simp only [hsize, false_and, if_false, nvsGetBlobSize, ne_eq, not_false_eq_true, if_true,
        true_and]
      split
      · rfl
      · simp
  · simp [hopen]

/-- **The key after a load** is as it was, has the zero record written to it, or was found
damaged. -/
theorem appStorageLoadData_nvs (env : LoadEnv) (handle : Storage) (nvs : Nvs) :
    (appStorageLoadData env (some handle) nvs).2.2 = nvs ∨
      (appStorageLoadData env (some handle) nvs).2.2 = nvs.write (.record .zero) ∨
      (appStorageLoadData env (some handle) nvs).2.2 = nvs.write (.damaged none) ∨
      (appStorageLoadData env (some handle) nvs).2.2 = nvs.erase := by
  unfold appStorageLoadData
  dsimp only
  split
  · exact Or.inl rfl
  · split
    · exact Or.inl rfl
    · split
      · rcases nvsSetBlob_cases env.setErr .zero nvs with h | h
        · exact Or.inr (Or.inl h)
        · exact Or.inl h
      · unfold nvsGetBlob
        split
        · exact Or.inl rfl
        · split
          · exact Or.inl rfl
          · split
            · exact Or.inl rfl
            · exact Or.inr (Or.inr (Or.inl rfl))
          · exact Or.inr (Or.inr (Or.inr rfl))
          · exact Or.inl rfl

end Lighting
