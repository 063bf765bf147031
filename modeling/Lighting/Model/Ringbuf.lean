import Lighting.Lib.ByteMemory
import Lighting.Lib.CString

/-!
# `ringbuf.c` — the no-split ring buffer

The buffer of the IDF that both websocket queues are made of, for `RINGBUF_TYPE_NOSPLIT` and the
calls the firmware makes: `xRingbufferSend`, `xRingbufferReceive`, `vRingbufferReturnItem`.
Pointers are offsets from `pucHead`, so `pucTail` is `xSize`. Each definition is the body of one
function inside its critical section and answers `none` where a `configASSERT` fails or a
loop does not come to its end.

An `ItemHeader_t` is two words of the storage itself, the length and the flags, in front of the
item. `rbALLOW_SPLIT_FLAG` and `rbBYTE_BUFFER_FLAG` are never set here, so `full` is all that
is read of `uxRingbufferFlags`.
-/

set_option autoImplicit false

namespace Lighting

open ByteMemory CString

/-- `sizeof(ItemHeader_t)`. -/
def rbHeaderSize : Nat := 8

def rbItemFreeFlag : Nat := 1

def rbItemDummyDataFlag : Nat := 2

def rbItemSplitFlag : Nat := 4

def rbItemWrittenFlag : Nat := 8

/-- `rbALIGN_SIZE`, with a `portBYTE_ALIGNMENT_MASK` of 3. -/
def rbAlignSize (xSize : Nat) : Nat := (xSize + 3) / 4 * 4

structure Ringbuffer where
  xSize : Nat
  xMaxItemSize : Nat
  /-- `rbBUFFER_FULL_FLAG`. -/
  full : Bool
  pucAcquire : Nat
  pucWrite : Nat
  pucRead : Nat
  pucFree : Nat
  xItemsWaiting : Int
  storage : Mem

/-- `xItemLen` of the header at an offset. -/
def itemLen (storage : Mem) (p : Nat) : Nat := load32 storage p

/-- `uxItemFlags` of the header at an offset. -/
def itemFlags (storage : Mem) (p : Nat) : Nat := load32 storage (p + 4)

def setItemLen (storage : Mem) (p len : Nat) : Mem := store32 storage p len

def setItemFlags (storage : Mem) (p flags : Nat) : Mem := store32 storage (p + 4) flags

/-- `if ((pucTail - p) < rbHEADER_SIZE) p = pucHead;` The difference is compared as a `size_t`. -/
def wrapPointer (xSize p : Nat) : Nat :=
  if ((xSize : Int) - p) % 2 ^ 32 < rbHeaderSize then 0 else p

/-- `xRingbufferCreate`, where the memory was allocated: what `prvInitializeNewRingbuffer` leaves.
`malloc` does not initialise the storage. -/
def xRingbufferCreate (memory : Mem) (xBufferSize : Nat) : Ringbuffer where
  xSize := rbAlignSize xBufferSize
  xMaxItemSize :=
    (((rbAlignSize (rbAlignSize xBufferSize / 2) : Int) - rbHeaderSize) % 2 ^ 32).toNat
  full := false
  pucAcquire := 0
  pucWrite := 0
  pucRead := 0
  pucFree := 0
  xItemsWaiting := 0
  storage := memory

def prvGetFreeSize (rb : Ringbuffer) : Option Nat :=
  let xReturn : Int :=
    if rb.full then 0
    else
      let xFreeSize : Int := rb.pucFree - rb.pucAcquire
      if xFreeSize ≤ 0 then xFreeSize + rb.xSize else xFreeSize
  if xReturn ≤ rb.xSize then some xReturn.toNat else none

def prvCheckItemFitsDefault (rb : Ringbuffer) (xItemSize : Nat) : Option Bool :=
  if rb.pucAcquire % 4 = 0 ∧ rb.pucAcquire < rb.xSize then
    let xTotalItemSize := rbAlignSize xItemSize + rbHeaderSize
    some <|
      if rb.pucAcquire = rb.pucFree then !rb.full
      else if rb.pucAcquire < rb.pucFree then xTotalItemSize ≤ rb.pucFree - rb.pucAcquire
      else if xTotalItemSize ≤ rb.xSize - rb.pucAcquire then true
      else xTotalItemSize ≤ rb.pucFree
  else none

/-- "If remaining length can't fit item, set as dummy data and wrap around." -/
def wrapAround (rb : Ringbuffer) (xAlignedItemSize : Nat) : Ringbuffer :=
  if rb.xSize - rb.pucAcquire < xAlignedItemSize + rbHeaderSize then
    { rb with
      storage := setItemLen (setItemFlags rb.storage rb.pucAcquire rbItemDummyDataFlag)
        rb.pucAcquire 0
      pucAcquire := 0 }
  else rb

/-- The address of the item and the buffer. -/
def prvAcquireItemNoSplit (rb : Ringbuffer) (xItemSize : Nat) : Option (Nat × Ringbuffer) :=
  let xAlignedItemSize := rbAlignSize xItemSize
  if rb.pucAcquire % 4 = 0 ∧ rb.pucAcquire < rb.xSize ∧ rbHeaderSize ≤ rb.xSize - rb.pucAcquire then
    let rb := wrapAround rb xAlignedItemSize
    let storage := setItemFlags (setItemLen rb.storage rb.pucAcquire xItemSize) rb.pucAcquire 0
    let itemAddress := rb.pucAcquire + rbHeaderSize
    let acquire := wrapPointer rb.xSize (rb.pucAcquire + (rbHeaderSize + xAlignedItemSize))
    some (itemAddress,
      { rb with
        storage := storage
        pucAcquire := acquire
        full := rb.full || acquire == rb.pucFree })
  else none

/-- The loops that move the write pointer past what is written and the free pointer past what is
free: over items with the flag and over dummy data, as far as `stop`. -/
def skipFlagged (xSize flag stop : Nat) : Nat → Nat → Mem → Option (Nat × Mem)
  | 0, _, _ => none
  | fuel + 1, p, storage =>
    let flags := itemFlags storage p
    if (flags &&& flag ≠ 0 ∨ flags &&& rbItemDummyDataFlag ≠ 0) ∧ p ≠ stop then
      if flags &&& rbItemDummyDataFlag ≠ 0 then
        skipFlagged xSize flag stop fuel (wrapPointer xSize 0)
          (setItemFlags storage p (flags ||| flag))
      else
        let next := p + (rbAlignSize (itemLen storage p) + rbHeaderSize)
        if next ≤ xSize then skipFlagged xSize flag stop fuel (wrapPointer xSize next) storage
        else none
    else some (p, storage)

/-- What the checks of `prvSendItemDoneNoSplit` and `prvReturnItemDefault` ask of an address,
with the flag that must not be set yet. -/
def itemChecks (rb : Ringbuffer) (flag pucItem : Nat) : Prop :=
  pucItem % 4 = 0 ∧ rbHeaderSize ≤ pucItem ∧ pucItem ≤ rb.xSize ∧
    itemLen rb.storage (pucItem - rbHeaderSize) ≤ rb.xMaxItemSize ∧
    itemFlags rb.storage (pucItem - rbHeaderSize) &&& rbItemDummyDataFlag = 0 ∧
    itemFlags rb.storage (pucItem - rbHeaderSize) &&& flag = 0

instance (rb : Ringbuffer) (flag pucItem : Nat) : Decidable (itemChecks rb flag pucItem) :=
  inferInstanceAs (Decidable (_ ∧ _ ∧ _ ∧ _ ∧ _ ∧ _))

/-- `flags &= ~rbITEM_SPLIT_FLAG; flags |= flag;` -/
def markItem (storage : Mem) (flag pucItem : Nat) : Mem :=
  let p := pucItem - rbHeaderSize
  setItemFlags storage p (itemFlags storage p &&& (2 ^ 32 - 1 - rbItemSplitFlag) ||| flag)

def prvSendItemDoneNoSplit (rb : Ringbuffer) (pucItem : Nat) : Option Ringbuffer :=
  if itemChecks rb rbItemWrittenFlag pucItem then
    let storage := markItem rb.storage rbItemWrittenFlag pucItem
    match skipFlagged rb.xSize rbItemWrittenFlag rb.pucAcquire rb.xSize rb.pucWrite storage with
    | some (write, storage) =>
      some { rb with
        storage := storage
        pucWrite := write
        xItemsWaiting := rb.xItemsWaiting + 1 }
    | none => none
  else none

def prvCopyItemNoSplit (rb : Ringbuffer) (pucItem : Bytes) : Option Ringbuffer :=
  match prvAcquireItemNoSplit rb pucItem.length with
  | some (itemAddr, rb) =>
    prvSendItemDoneNoSplit { rb with storage := copyIn rb.storage itemAddr pucItem } itemAddr
  | none => none

def prvCheckItemAvail (rb : Ringbuffer) : Bool :=
  0 < rb.xItemsWaiting && (rb.pucRead != rb.pucWrite || rb.full)

/-- The address and the length of the item, and the buffer. -/
def prvGetItemDefault (rb : Ringbuffer) : Option (Nat × Nat × Ringbuffer) :=
  let flags := itemFlags rb.storage rb.pucRead
  if prvCheckItemAvail rb ∧ rb.pucRead % 4 = 0 ∧ rb.pucRead < rb.xSize ∧
      (itemLen rb.storage rb.pucRead ≤ rb.xMaxItemSize ∨ flags &&& rbItemDummyDataFlag ≠ 0) then
    let read := if flags &&& rbItemDummyDataFlag ≠ 0 then 0 else rb.pucRead
    let len := itemLen rb.storage read
    let item := read + rbHeaderSize
    if len ≤ rb.xMaxItemSize ∧ (if len = 0 then item ≤ rb.xSize else item < rb.xSize) then
      some (item, len,
        { rb with
          pucRead := wrapPointer rb.xSize (read + (rbHeaderSize + rbAlignSize len))
          xItemsWaiting := rb.xItemsWaiting - 1 })
    else none
  else none

/-- Whether `rbBUFFER_FULL_FLAG` stays set. -/
def staysFull (rb : Ringbuffer) : Bool :=
  rb.full && rb.pucFree == rb.pucAcquire && rb.pucFree != rb.pucRead

def prvReturnItemDefault (rb : Ringbuffer) (pucItem : Nat) : Option Ringbuffer :=
  if itemChecks rb rbItemFreeFlag pucItem then
    let storage := markItem rb.storage rbItemFreeFlag pucItem
    match skipFlagged rb.xSize rbItemFreeFlag rb.pucRead rb.xSize rb.pucFree storage with
    | some (free, storage) =>
      let rb := { rb with storage := storage, pucFree := free }
      some { rb with full := staysFull rb }
    | none => none
  else none

/-! ## The public calls, without their waiting -/

/-- One attempt of `xRingbufferSend`: whether the item was copied. -/
def xRingbufferSend (rb : Ringbuffer) (pvItem : Bytes) : Option (Bool × Ringbuffer) :=
  if rb.xMaxItemSize < pvItem.length then some (false, rb)
  else
    match prvCheckItemFitsDefault rb pvItem.length with
    | none => none
    | some false => some (false, rb)
    | some true =>
      match prvCopyItemNoSplit rb pvItem with
      | none => none
      | some rb => some (true, rb)

/-- One attempt of `xRingbufferReceive`: the address and the length, if there was an item. -/
def xRingbufferReceive (rb : Ringbuffer) : Option (Option (Nat × Nat) × Ringbuffer) :=
  if prvCheckItemAvail rb then
    match prvGetItemDefault rb with
    | none => none
    | some (item, len, rb) => some (some (item, len), rb)
  else some (none, rb)

def vRingbufferReturnItem (rb : Ringbuffer) (pvItem : Nat) : Option Ringbuffer :=
  prvReturnItemDefault rb pvItem

end Lighting
