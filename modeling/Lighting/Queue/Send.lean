import Lighting.Queue.Accounts

/-!
# Sending an item

`prvCopyItemNoSplit` writes the next parcel behind the others, marks it as written and moves the
write pointer past it. An attempt to send therefore either leaves the buffer alone or adds one
parcel to what is due (`xRingbufferSend_spec`); no check of the code fails on the way.
-/

set_option autoImplicit false

namespace Lighting.Queue

open ByteMemory CString Arcs Parcel

/-! ## The storage -/

/-- The storage with the dummy data and the header of a parcel. -/
def headed (m : Mem) (x : Parcel) : Mem :=
  let m := if x.lead then setItemLen (setItemFlags m x.start rbItemDummyDataFlag) x.start 0 else m
  setItemFlags (setItemLen m x.seat x.data.length) x.seat 0

/-- … with the item as well, marked as written. -/
def written (m : Mem) (x : Parcel) : Mem :=
  markItem (copyIn (headed m x) x.address x.data) rbItemWrittenFlag x.address

section storage

variable {S : Nat} {m : Mem} {x : Parcel}

theorem setItemLen_outside {p n i : Nat} (h : i < p ∨ p + rbHeaderSize ≤ i) :
    (setItemLen m p n).byte i = m.byte i := by
  unfold rbHeaderSize at h
  exact store32_outside (by omega)

theorem headed_outside {i : Nat} (hdummy : x.lead = true → i < x.start ∨ x.start + rbHeaderSize ≤ i)
    (hitem : i < x.seat ∨ x.seat + rbHeaderSize ≤ i) : (headed m x).byte i = m.byte i := by
  unfold headed
  dsimp only
  rw [setItemFlags_outside hitem, setItemLen_outside hitem]
  split
  · rename_i hlead
    rw [setItemLen_outside (hdummy hlead), setItemFlags_outside (hdummy hlead)]
  · rfl

theorem itemFlags_headed (m : Mem) (x : Parcel) : itemFlags (headed m x) x.seat = 0 := by
  unfold headed
  exact itemFlags_setItemFlags (by omega)

theorem itemLen_headed (m : Mem) (hlen : x.data.length < 2 ^ 32) :
    itemLen (headed m x) x.seat = x.data.length := by
  unfold headed
  dsimp only
  rw [itemLen_setItemFlags, itemLen_setItemLen hlen]

theorem itemFlags_headed_dummy (m : Mem) (hfits : x.Fits S) (hlead : x.lead = true) :
    itemFlags (headed m x) x.start = rbItemDummyDataFlag := by
  have hbefore := hfits.stop_le_start hlead
  have hseat := x.seat_lt_stop
  have hsame : itemFlags (headed m x) x.start =
      itemFlags (setItemLen (setItemFlags m x.start rbItemDummyDataFlag) x.start 0) x.start := by
    unfold headed
    dsimp only
    rw [if_pos hlead]
    apply load32_congr
    intro i hi
    rw [setItemFlags_outside (by omega), setItemLen_outside (by omega)]
  rw [hsame, itemFlags_setItemLen]
  exact itemFlags_setItemFlags (by decide)

/-- The item is behind its header. -/
theorem copyIn_header {a : Nat} (ha : a < x.address) (bs : Bytes) :
    (copyIn m x.address bs).byte a = m.byte a :=
  copyIn_outside (.inl ha)

/-- Before the item is marked. -/
structure Drafted (m : Mem) (x : Parcel) : Prop where
  dummy : x.lead = true → itemFlags m x.start = rbItemDummyDataFlag
  len : itemLen m x.seat = x.data.length
  flags : itemFlags m x.seat = 0
  data : bytesAt m x.address x.data.length = x.data

theorem drafted_copyIn (m : Mem) (hfits : x.Fits S) (hlen : x.data.length < 2 ^ 32) :
    Drafted (copyIn (headed m x) x.address x.data) x := by
  have haddress : x.address = x.seat + rbHeaderSize := rfl
  unfold rbHeaderSize at haddress
  constructor
  · intro hlead
    rw [← itemFlags_headed_dummy m hfits hlead]
    have hbefore := hfits.stop_le_start hlead
    have hstop : x.stop = x.seat + (8 + rbAlignSize x.data.length) := rfl
    have halign := rbAlignSize_ge x.data.length
    apply load32_congr
    intro i hi
    exact copyIn_outside (.inr (by omega))
  · rw [← itemLen_headed m hlen]
    exact load32_congr fun i hi => copyIn_header (by omega) x.data
  · rw [← itemFlags_headed m x]
    exact load32_congr fun i hi => copyIn_header (by omega) x.data
  · exact bytesAt_copyIn (headed m x) x.address x.data

/-- Marking the item makes the parcel one that is stored. -/
theorem stored_written (m : Mem) (hfits : x.Fits S) (hlen : x.data.length < 2 ^ 32)
    (hstate : x.state = .waiting) : x.Stored (written m x) := by
  have h := drafted_copyIn m hfits hlen
  have hseat : x.address - rbHeaderSize = x.seat := by
    unfold address
    omega
  have hmark : written m x =
      setItemFlags (copyIn (headed m x) x.address x.data) x.seat rbItemWrittenFlag := by
    unfold written markItem
    dsimp only
    rw [hseat, h.flags]
    rfl
  have haddress : x.address = x.seat + rbHeaderSize := rfl
  rw [hmark]
  constructor
  · intro hlead
    have hbefore := hfits.stop_le_start hlead
    have hle := x.seat_lt_stop
    have hsame : itemFlags (copyIn (headed m x) x.address x.data) x.start =
        itemFlags (setItemFlags (copyIn (headed m x) x.address x.data) x.seat
          rbItemWrittenFlag) x.start := by
      apply load32_congr
      intro i hi
      exact (setItemFlags_outside (by omega)).symm
    rw [← hsame, h.dummy hlead]
    decide
  · rw [itemLen_setItemFlags, h.len]
  · rw [itemFlags_setItemFlags (by decide), hstate]
    rfl
  · rw [← bytesAt_congr fun i hi => (setItemFlags_outside (by omega)).symm]
    exact h.data

/-- Nothing is written outside the parcel. -/
theorem agree_written (m : Mem) (hfits : x.Fits S) :
    AgreeOn (fun a => ¬Within S x a) m (written m x) := by
  intro i hi
  have hitem : i < x.seat ∨ x.stop ≤ i := by
    by_contra hin
    exact hi (hfits.within_item (by omega))
  have hdummy : x.lead = true → i < x.start ∨ x.start + rbHeaderSize ≤ i := by
    intro hlead
    by_contra hin
    have hstart := hfits.start_le
    exact hi (hfits.within_dummy hlead (by omega))
  have haddress : x.address = x.seat + rbHeaderSize := rfl
  have hstop : x.stop = x.seat + (rbHeaderSize + rbAlignSize x.data.length) := rfl
  have halign := rbAlignSize_ge x.data.length
  unfold written markItem
  dsimp only
  rw [setItemFlags_outside (by omega), copyIn_outside (by omega),
    headed_outside hdummy (by omega)]

end storage

/-! ## The calls -/

section calls

variable {rb : Ringbuffer} {out due : List Parcel} {data : Bytes}

/-- The buffer after `prvAcquireItemNoSplit`. -/
def acquired (rb : Ringbuffer) (data : Bytes) : Ringbuffer :=
  { rb with
    storage := headed rb.storage (nextParcel rb data)
    pucAcquire := wrapPointer rb.xSize (nextParcel rb data).stop
    full := rb.full || wrapPointer rb.xSize (nextParcel rb data).stop == rb.pucFree }

theorem prvAcquireItemNoSplit_eq (h : Laid rb out due) (data : Bytes) :
    prvAcquireItemNoSplit rb data.length =
      some ((nextParcel rb data).address, acquired rb data) := by
  have hacq := h.acquire_seat
  have hlt := h.acquire_lt
  unfold Seat at hacq
  unfold prvAcquireItemNoSplit
  rw [if_pos ⟨hacq.1, hlt, by omega⟩]
  unfold wrapAround acquired headed
  have hlead : (nextParcel rb data).lead =
      decide (rb.xSize - rb.pucAcquire < rbAlignSize data.length + rbHeaderSize) := rfl
  by_cases hwrap : rb.xSize - rb.pucAcquire < rbAlignSize data.length + rbHeaderSize
  · rw [decide_eq_true hwrap] at hlead
    have hseat := (nextParcel rb data).seat_of_lead hlead
    simp only [if_pos hwrap, hlead, if_true, hseat, address, stop]
    rfl
  · rw [decide_eq_false hwrap] at hlead
    have hseat := (nextParcel rb data).seat_of_not_lead hlead
    simp only [if_neg hwrap, hlead, hseat, address, stop, Bool.false_eq_true, if_false]
    rfl

/-- The write pointer goes past the parcel, to the acquire pointer. -/
theorem skipFlagged_written {S p q : Nat} {m : Mem} {x : Parcel} (hS : S < 2 ^ 31)
    (hge : 12 ≤ S) (hfits : x.Fits S) (hrow : Row S p [x] q) (hstate : x.state = .waiting)
    (h : x.Stored m) :
    ∃ m', skipFlagged S rbItemWrittenFlag q S p m = some (q, m') ∧ x.Stored m' ∧
      AgreeOn (fun a => ¬Within S x a) m m' := by
  have hstart := hfits.start_lt
  have hspan := hfits.span_le
  have hp : p < S := hrow.1 ▸ hstart
  have hpass : x.Passed rbItemWrittenFlag := by
    unfold Passed
    rw [hstate]
    decide
  by_cases hround : x.span S < S
  · obtain ⟨p', m', hrun, hrest, h', hagree⟩ := skipFlagged_row (n := S) hS
      (by decide : rbItemWrittenFlag < 2 ^ 32) hrow (by rw [total_cons, total_nil]; omega)
      (fun y hy => by rwa [List.mem_singleton.mp hy])
      (fun y hy => by rwa [List.mem_singleton.mp hy])
      (by rw [List.length_singleton]; omega)
    rw [settle_cons_of_passed [] hpass] at hrest
    obtain rfl : p' = q := hrest
    refine ⟨m', hrun, h' x List.mem_cons_self, ?_⟩
    intro i hi
    exact hagree i fun y hy => by rwa [List.mem_singleton.mp hy]
  · -- All of the storage: the pointer is already there.
    obtain rfl : p = q := by
      have hend := chain_end hp hrow (by rw [total_cons, total_nil]; omega)
      rw [hend, eq_comm, advance_eq_self hp (by rw [total_cons, total_nil]; omega), total_cons,
        total_nil]
      omega
    obtain ⟨k, rfl⟩ : ∃ k, S = k + 1 := ⟨S - 1, by omega⟩
    exact ⟨m, skipFlagged_end p k, h, fun i _ => rfl⟩

theorem prvSendItemDoneNoSplit_eq {a q : Nat} {m' : Mem}
    (hchecks : itemChecks rb rbItemWrittenFlag a)
    (hrun : skipFlagged rb.xSize rbItemWrittenFlag rb.pucAcquire rb.xSize rb.pucWrite
      (markItem rb.storage rbItemWrittenFlag a) = some (q, m')) :
    prvSendItemDoneNoSplit rb a = some { rb with
      storage := m', pucWrite := q, xItemsWaiting := rb.xItemsWaiting + 1 } := by
  unfold prvSendItemDoneNoSplit
  rw [if_pos hchecks]
  dsimp only
  rw [hrun]

/-- The buffer with one more parcel. -/
def added (rb : Ringbuffer) (x : Parcel) (m : Mem) : Ringbuffer :=
  { rb with
    storage := m
    pucAcquire := wrapPointer rb.xSize x.stop
    pucWrite := wrapPointer rb.xSize x.stop
    full := rb.full || wrapPointer rb.xSize x.stop == rb.pucFree
    xItemsWaiting := rb.xItemsWaiting + 1 }

/-- A parcel that has its place, written without touching anything else. -/
theorem Laid.add (h : Laid rb out due) (hlen : data.length ≤ rb.xMaxItemSize)
    (hplaced : Placed rb (out ++ due) data) {m : Mem} (hstored : (nextParcel rb data).Stored m)
    (hagree : AgreeOn (fun a => ¬Within rb.xSize (nextParcel rb data) a) rb.storage m) :
    Laid (added rb (nextParcel rb data) m) out (due ++ [nextParcel rb data]) := by
  have hfits := hplaced.fits
  have hroom := hplaced.room
  have hpos := hfits.span_pos
  have hrow : Row rb.xSize rb.pucAcquire [nextParcel rb data]
      (wrapPointer rb.xSize (nextParcel rb data).stop) := ⟨rfl, hfits.advance_span h.size_lt⟩
  have hall : Row rb.xSize rb.pucFree (out ++ due ++ [nextParcel rb data])
      (wrapPointer rb.xSize (nextParcel rb data).stop) :=
    chain_append.mpr ⟨rb.pucAcquire, h.row, hrow⟩
  have htotal : total (span rb.xSize) (out ++ due ++ [nextParcel rb data]) =
      total (span rb.xSize) (out ++ due) + (nextParcel rb data).span rb.xSize := by
    rw [total_append, total_cons, total_nil, Nat.add_zero]
  have hmem : ∀ x ∈ out ++ (due ++ [nextParcel rb data]),
      x ∈ out ++ due ∨ x = nextParcel rb data := by
    intro x hx
    rwa [← List.append_assoc, List.mem_append, List.mem_singleton] at hx
  constructor
  · exact h.size_ge
  · exact h.size_aligned
  · exact h.size_lt
  · exact h.max_size
  · exact h.free_seat
  · exact h.read_seat
  · apply seat_wrapPointer h.size_aligned h.size_lt (Nat.le_trans (by decide) h.size_ge)
    · have hseat := hfits.seat_aligned
      have hmod := rbAlignSize_mod (nextParcel rb data).data.length
      unfold stop rbHeaderSize
      omega
    · exact hfits.stop_le
  · exact h.out_row
  · exact chain_append.mpr ⟨rb.pucAcquire, h.due_row, hrow⟩
  · rfl
  · rw [← List.append_assoc]
    exact htotal ▸ hroom
  · show (rb.full || wrapPointer rb.xSize (nextParcel rb data).stop == rb.pucFree) = true ↔
      total (span rb.xSize) (out ++ (due ++ [nextParcel rb data])) = rb.xSize
    have hend := chain_end h.free_lt hall (by omega)
    rw [h.full_eq_false (by omega), Bool.false_or, beq_iff_eq, hend,
      advance_eq_self h.free_lt (by omega), ← List.append_assoc]
    omega
  · intro x hx
    rcases hmem x hx with hold | rfl
    · exact h.fits x hold
    · exact hfits
  · intro x hx
    rcases hmem x hx with hold | rfl
    · exact stored_of_write h.free_lt hall (by omega) hagree (by rwa [List.append_nil])
        (h.fits x hold) (h.stored x hold)
    · exact hstored
  · intro x hx
    rcases hmem x hx with hold | rfl
    · exact h.data_le x hold
    · exact hlen
  · exact h.out_state
  · intro x hx
    rw [List.mem_append, List.mem_singleton] at hx
    rcases hx with hold | rfl
    · exact h.due_state x hold
    · rfl
  · exact h.out_head
  · show rb.xItemsWaiting + 1 = ((due ++ [nextParcel rb data]).length : Int)
    rw [h.waiting, List.length_append, List.length_singleton]
    rfl

/-- The checks at the item just acquired. -/
theorem itemChecks_acquired (hlen : data.length ≤ rb.xMaxItemSize)
    (hfits : (nextParcel rb data).Fits rb.xSize) {m : Mem}
    (hdraft : Drafted m (nextParcel rb data)) :
    itemChecks { acquired rb data with storage := m } rbItemWrittenFlag
      (nextParcel rb data).address := by
  have hseat := hfits.seat_aligned
  have hseat_le := hfits.seat_le
  have haddress : (nextParcel rb data).address - rbHeaderSize = (nextParcel rb data).seat := by
    unfold address
    omega
  unfold itemChecks
  rw [haddress]
  refine ⟨?_, ?_, hseat_le, hdraft.len.trans_le hlen, ?_, ?_⟩
  · unfold address rbHeaderSize
    omega
  · unfold address
    omega
  · exact (congrArg (· &&& rbItemDummyDataFlag) hdraft.flags).trans (Nat.zero_and _)
  · exact (congrArg (· &&& rbItemWrittenFlag) hdraft.flags).trans (Nat.zero_and _)

/-- **Copying an item** adds its parcel to what is due. -/
theorem prvCopyItemNoSplit_spec (h : Laid rb out due) (hlen : data.length ≤ rb.xMaxItemSize)
    (hplaced : Placed rb (out ++ due) data) :
    ∃ m, prvCopyItemNoSplit rb data = some (added rb (nextParcel rb data) m) ∧
      Laid (added rb (nextParcel rb data) m) out (due ++ [nextParcel rb data]) := by
  have hfits := hplaced.fits
  have hmax := aligned_le h hlen
  have hlt : data.length < 2 ^ 32 := by
    have := h.size_lt
    unfold rbAlignSize at hmax
    omega
  have hdraft := drafted_copyIn (x := nextParcel rb data) rb.storage hfits hlt
  have hstored := stored_written rb.storage hfits hlt rfl
  have hrow : Row rb.xSize rb.pucAcquire [nextParcel rb data]
      (wrapPointer rb.xSize (nextParcel rb data).stop) := ⟨rfl, hfits.advance_span h.size_lt⟩
  obtain ⟨m, hrun, hstored', hagree⟩ :=
    skipFlagged_written h.size_lt h.size_ge hfits hrow rfl hstored
  rw [← h.write] at hrun
  refine ⟨m, ?_, h.add hlen hplaced hstored' ?_⟩
  · unfold prvCopyItemNoSplit
    rw [prvAcquireItemNoSplit_eq h data]
    exact prvSendItemDoneNoSplit_eq (itemChecks_acquired hlen hfits hdraft) hrun
  · intro i hi
    exact (agree_written rb.storage hfits i hi).trans (hagree i hi)

/-- **An attempt to send** adds the item to what is due or leaves the buffer as it is, and does
the latter only with an item that is too large or something in the buffer. -/
theorem xRingbufferSend_spec (h : Laid rb out due) (data : Bytes) :
    ∃ sent rb', xRingbufferSend rb data = some (sent, rb') ∧
      rb'.xMaxItemSize = rb.xMaxItemSize ∧
      (sent = false → rb' = rb ∧ (data.length ≤ rb.xMaxItemSize → ¬(out = [] ∧ due = []))) ∧
      (sent = true → data.length ≤ rb.xMaxItemSize ∧
        Laid rb' out (due ++ [nextParcel rb data])) := by
  unfold xRingbufferSend
  by_cases hlen : rb.xMaxItemSize < data.length
  · rw [if_pos hlen]
    refine ⟨false, rb, rfl, rfl, fun _ => ⟨rfl, fun hle => ?_⟩, fun h => ?_⟩
    · omega
    · exact absurd h Bool.false_ne_true
  · rw [if_neg hlen]
    obtain ⟨fits, hcheck, hplaced, hempty⟩ :=
      prvCheckItemFitsDefault_spec h (by omega : data.length ≤ rb.xMaxItemSize)
    rw [hcheck]
    cases fits with
    | false =>
      refine ⟨false, rb, rfl, rfl, fun _ => ⟨rfl, fun _ hnil => ?_⟩, fun h => ?_⟩
      · exact absurd (hempty hnil.1 hnil.2) Bool.false_ne_true
      · exact absurd h Bool.false_ne_true
    | true =>
      obtain ⟨m, hcopy, hlaid⟩ := prvCopyItemNoSplit_spec h (by omega) (hplaced rfl)
      dsimp only
      rw [hcopy]
      exact ⟨true, _, rfl, rfl, fun h => absurd h.symm Bool.false_ne_true,
        fun _ => ⟨by omega, hlaid⟩⟩

end calls

end Lighting.Queue
