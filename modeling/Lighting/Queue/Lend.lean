import Lighting.Queue.Send

/-!
# Retrieving an item and returning it

`prvGetItemDefault` gives the application the address of the first item that is due; the parcel
goes over to what is out. `prvReturnItemDefault` marks the item and moves the free pointer past
everything returned, which is `settle`.

That is so unless the buffer is full, nothing is due and another item is still out: the three
pointers are the same then and stay where they are, and the full flag is cleared
(`prvReturnItemDefault_all_out`).
-/

set_option autoImplicit false

namespace Lighting.Queue

open ByteMemory CString Arcs Parcel

variable {rb : Ringbuffer} {out due : List Parcel} {x : Parcel}

def Parcel.lend (x : Parcel) : Parcel := { x with state := .lent }

def Parcel.release (x : Parcel) : Parcel := { x with state := .returned }

theorem Parcel.Fits.with_state {S : Nat} (h : x.Fits S) (s : ItemState) :
    Parcel.Fits S { x with state := s } :=
  ⟨h.start_aligned, h.start_le, h.stop_le, h.span_le⟩

theorem Parcel.Stored.lend {m : Mem} (h : x.Stored m) (hstate : x.state = .waiting) :
    x.lend.Stored m where
  dummy := h.dummy
  len := h.len
  flags := by
    have hflags := h.flags
    rw [hstate] at hflags
    exact hflags
  data := h.data

/-! ## Retrieving -/

theorem prvCheckItemAvail_nil (h : Laid rb out []) : prvCheckItemAvail rb = false := by
  unfold prvCheckItemAvail
  rw [h.waiting]
  rfl

theorem prvCheckItemAvail_cons (h : Laid rb out (x :: due)) : prvCheckItemAvail rb = true := by
  have hpos := (h.fits x (List.mem_append_right out List.mem_cons_self)).span_pos
  have hroom := h.room
  rw [total_append, total_cons] at hroom
  have hread : rb.pucRead < rb.xSize := by
    have := h.read_seat.2
    unfold rbHeaderSize at this
    omega
  unfold prvCheckItemAvail
  rw [h.waiting, Bool.and_eq_true, Bool.or_eq_true, bne_iff_ne, h.write, h.full]
  refine ⟨by simp, ?_⟩
  by_cases hsame : rb.pucRead = rb.pucAcquire
  · right
    have hend := chain_end hread h.due_row (by rw [total_cons]; omega)
    rw [← hsame, eq_comm, advance_eq_self hread (by rw [total_cons]; omega), total_cons] at hend
    rw [total_append, total_cons]
    omega
  · exact .inl hsame

/-- The buffer after the first item that is due was retrieved. -/
def taken (rb : Ringbuffer) (x : Parcel) : Ringbuffer :=
  { rb with
    pucRead := wrapPointer rb.xSize x.stop
    xItemsWaiting := rb.xItemsWaiting - 1 }

theorem prvGetItemDefault_eq (h : Laid rb out (x :: due)) :
    prvGetItemDefault rb = some (x.address, x.data.length, taken rb x) := by
  have hmem : x ∈ out ++ x :: due := List.mem_append_right out List.mem_cons_self
  have hfits := h.fits x hmem
  have hstored := h.stored x hmem
  have hlen := h.data_le x hmem
  have hstart : x.start = rb.pucRead := h.due_row.1
  have halign := rbAlignSize_ge x.data.length
  have hstop := hfits.stop_le
  have hseat := h.read_seat
  have hlt : rb.pucRead < rb.xSize := hstart ▸ hfits.start_lt
  have hread : (if itemFlags rb.storage rb.pucRead &&& rbItemDummyDataFlag ≠ 0 then 0
      else rb.pucRead) = x.seat := by
    rw [← hstart]
    cases hlead : x.lead with
    | true => rw [if_pos (hstored.dummy hlead), x.seat_of_lead hlead]
    | false =>
      have hflags := hstored.flags
      rw [x.seat_of_not_lead hlead] at hflags ⊢
      rw [hflags, flags_dummy]
      exact if_neg fun hne => hne rfl
  have hok : itemLen rb.storage rb.pucRead ≤ rb.xMaxItemSize ∨
      itemFlags rb.storage rb.pucRead &&& rbItemDummyDataFlag ≠ 0 := by
    rw [← hstart]
    cases hlead : x.lead with
    | true => exact .inr (hstored.dummy hlead)
    | false =>
      have hlen' := hstored.len
      rw [x.seat_of_not_lead hlead] at hlen'
      exact .inl (hlen'.trans_le hlen)
  have hbound : if x.data.length = 0 then x.seat + rbHeaderSize ≤ rb.xSize
      else x.seat + rbHeaderSize < rb.xSize := by
    unfold stop at hstop
    split <;> omega
  unfold prvGetItemDefault
  dsimp only
  rw [if_pos ⟨prvCheckItemAvail_cons h, hseat.1, hlt, hok⟩, hread, hstored.len,
    if_pos ⟨hlen, hbound⟩]
  rfl

/-- The parcel goes over. -/
theorem Laid.take (h : Laid rb out (x :: due)) : Laid (taken rb x) (out ++ [x.lend]) due := by
  have hmem : x ∈ out ++ x :: due := List.mem_append_right out List.mem_cons_self
  have hfits := h.fits x hmem
  have hnext := hfits.advance_span h.size_lt
  have hstart : x.start = rb.pucRead := h.due_row.1
  have htotal : total (span rb.xSize) (out ++ [x.lend] ++ due) =
      total (span rb.xSize) (out ++ x :: due) := by
    simp only [total_append, total_cons, total_nil]
    show _ + (span rb.xSize x + 0) + _ = _
    omega
  have hcases : ∀ y ∈ out ++ [x.lend] ++ due, y ∈ out ++ x :: due ∨ y = x.lend := by
    intro y hy
    simp only [List.mem_append, List.mem_cons] at hy ⊢
    tauto
  have hlend : Row rb.xSize rb.pucRead [x.lend] (wrapPointer rb.xSize x.stop) :=
    ⟨hstart, hstart ▸ hnext⟩
  constructor
  · exact h.size_ge
  · exact h.size_aligned
  · exact h.size_lt
  · exact h.max_size
  · exact h.free_seat
  · apply seat_wrapPointer h.size_aligned h.size_lt (Nat.le_trans (by decide) h.size_ge)
    · have hseat := hfits.seat_aligned
      have hmod := rbAlignSize_mod x.data.length
      unfold stop rbHeaderSize
      omega
    · exact hfits.stop_le
  · exact h.acquire_seat
  · exact chain_append.mpr ⟨rb.pucRead, h.out_row, hlend⟩
  · have hrest := h.due_row.2
    rw [← hstart, hnext] at hrest
    exact hrest
  · exact h.write
  · exact htotal ▸ h.room
  · show rb.full = true ↔ total (span rb.xSize) (out ++ [x.lend] ++ due) = rb.xSize
    rw [htotal]
    exact h.full
  · intro y hy
    rcases hcases y hy with hold | rfl
    · exact h.fits y hold
    · exact hfits.with_state .lent
  · intro y hy
    rcases hcases y hy with hold | rfl
    · exact h.stored y hold
    · exact (h.stored x hmem).lend (h.due_state x List.mem_cons_self)
  · intro y hy
    rcases hcases y hy with hold | rfl
    · exact h.data_le y hold
    · exact h.data_le x hmem
  · intro y hy
    rw [List.mem_append, List.mem_singleton] at hy
    rcases hy with hold | rfl
    · exact h.out_state y hold
    · exact ItemState.noConfusion
  · intro y hy
    exact h.due_state y (List.mem_cons_of_mem x hy)
  · intro y hy
    cases out with
    | nil =>
      obtain rfl : x.lend = y := Option.some.inj hy
      rfl
    | cons z zs => exact h.out_head y hy
  · show rb.xItemsWaiting - 1 = _
    rw [h.waiting, List.length_cons]
    omega

/-- **An attempt to receive** answers the first item that is due, or that there is none. -/
theorem xRingbufferReceive_nil (h : Laid rb out []) : xRingbufferReceive rb = some (none, rb) := by
  unfold xRingbufferReceive
  rw [prvCheckItemAvail_nil h]
  rfl

theorem xRingbufferReceive_cons (h : Laid rb out (x :: due)) :
    xRingbufferReceive rb = some (some (x.address, x.data.length), taken rb x) := by
  unfold xRingbufferReceive
  rw [prvCheckItemAvail_cons h, prvGetItemDefault_eq h]
  rfl

/-! ## What is left of a row -/

theorem passed_free_iff : x.Passed rbItemFreeFlag ↔ x.state = .returned := by
  unfold Passed
  cases x.state <;> decide

theorem mem_settle {flag : Nat} {xs : List Parcel} {y : Parcel} (hy : y ∈ settle flag xs) :
    ∃ z ∈ xs, y = z ∨ y = z.seated := by
  induction xs with
  | nil => exact absurd hy List.not_mem_nil
  | cons z zs ih =>
    by_cases hpass : z.Passed flag
    · rw [settle_cons_of_passed zs hpass] at hy
      obtain ⟨w, hw, hcase⟩ := ih hy
      exact ⟨w, List.mem_cons_of_mem z hw, hcase⟩
    · rw [settle_cons_of_not_passed zs hpass] at hy
      rcases List.mem_cons.mp hy with rfl | hmem
      · exact ⟨z, List.mem_cons_self, .inr rfl⟩
      · exact ⟨y, List.mem_cons_of_mem z hmem, .inl rfl⟩

theorem head_settle {flag : Nat} {xs : List Parcel} {y : Parcel} (hy : y ∈ (settle flag xs).head?) :
    ¬y.Passed flag := by
  induction xs with
  | nil => exact absurd hy (Option.not_mem_none y)
  | cons z zs ih =>
    by_cases hpass : z.Passed flag
    · rw [settle_cons_of_passed zs hpass] at hy
      exact ih hy
    · rw [settle_cons_of_not_passed zs hpass] at hy
      obtain rfl : z.seated = y := Option.some.inj hy
      exact hpass

theorem total_settle_le (S flag : Nat) (xs : List Parcel) :
    total (span S) (settle flag xs) ≤ total (span S) xs := by
  induction xs with
  | nil => exact Nat.le_refl _
  | cons z zs ih =>
    have hle := z.span_seated_le S
    by_cases hpass : z.Passed flag
    · rw [settle_cons_of_passed zs hpass, total_cons]
      omega
    · rw [settle_cons_of_not_passed zs hpass, total_cons, total_cons]
      omega

theorem settle_eq_nil {flag : Nat} {xs : List Parcel} (h : ∀ y ∈ xs, y.Passed flag) :
    settle flag xs = [] := by
  induction xs with
  | nil => rfl
  | cons z zs ih =>
    rw [settle_cons_of_passed zs (h z List.mem_cons_self)]
    exact ih fun y hy => h y (List.mem_cons_of_mem z hy)

/-- A parcel takes up a header at least. -/
theorem length_le_total {S : Nat} (xs : List Parcel) (hfits : ∀ y ∈ xs, y.Fits S) :
    rbHeaderSize * xs.length ≤ total (span S) xs := by
  induction xs with
  | nil => exact Nat.zero_le _
  | cons y ys ih =>
    have hy := (hfits y List.mem_cons_self).header_le_span
    have hys := ih fun z hz => hfits z (List.mem_cons_of_mem y hz)
    rw [List.length_cons, total_cons, Nat.mul_succ]
    omega

/-- A row begins where a header can be. -/
theorem row_seat {S p q : Nat} {xs : List Parcel} (hrow : Row S p xs q) (hq : Seat S q)
    (hfits : ∀ y ∈ xs, y.Fits S) : Seat S p := by
  cases xs with
  | nil =>
    obtain rfl : p = q := hrow
    exact hq
  | cons y ys =>
    have hy := hfits y List.mem_cons_self
    rw [← hrow.1]
    exact ⟨hy.start_aligned, hy.start_le⟩

/-! ## Returning -/

section release

variable {m : Mem}

theorem Parcel.Stored.markItem_free (h : x.Stored m) (hstate : x.state = .lent) :
    markItem m rbItemFreeFlag x.address = setItemFlags m x.seat (flagsOf .returned) := by
  have hseat : x.address - rbHeaderSize = x.seat := by
    unfold address
    omega
  have hflags := h.flags
  rw [hstate] at hflags
  unfold markItem
  dsimp only
  rw [hseat, hflags]
  rfl

theorem agree_release {S : Nat} (m : Mem) (hfits : x.Fits S) (f : Nat) :
    AgreeOn (fun a => ¬Within S x a) m (setItemFlags m x.seat f) := by
  intro i hi
  refine (setItemFlags_outside ?_).symm
  by_contra hin
  have hle := x.seat_lt_stop
  exact hi (hfits.within_item (by omega))

theorem Parcel.Stored.release {S : Nat} (h : x.Stored m) (hfits : x.Fits S) :
    x.release.Stored (setItemFlags m x.seat (flagsOf .returned)) := by
  have haddress : x.address = x.seat + rbHeaderSize := rfl
  have hle := x.seat_lt_stop
  constructor
  · intro hlead
    have hbefore := hfits.stop_le_start hlead
    have hsame : itemFlags m x.start =
        itemFlags (setItemFlags m x.seat (flagsOf .returned)) x.start := by
      apply load32_congr
      intro i hi
      exact (setItemFlags_outside (by omega)).symm
    exact hsame ▸ h.dummy hlead
  · exact itemLen_setItemFlags.trans h.len
  · exact itemFlags_setItemFlags (by decide)
  · refine Eq.trans ?_ h.data
    show bytesAt _ x.address x.data.length = _
    exact (bytesAt_congr fun i hi => (setItemFlags_outside (by omega)).symm).symm

end release

theorem itemChecks_lent (h : Laid rb out due) (hx : x ∈ out) (hstate : x.state = .lent) :
    itemChecks rb rbItemFreeFlag x.address := by
  have hmem : x ∈ out ++ due := List.mem_append_left due hx
  have hfits := h.fits x hmem
  have hstored := h.stored x hmem
  have hseat := hfits.seat_aligned
  have hflags := hstored.flags
  rw [hstate] at hflags
  have haddress : x.address - rbHeaderSize = x.seat := by
    unfold address
    omega
  unfold itemChecks
  rw [haddress, hflags, hstored.len]
  refine ⟨?_, ?_, hfits.seat_le, h.data_le x hmem, rfl, rfl⟩
  · unfold address rbHeaderSize
    omega
  · unfold address
    omega

/-- The buffer with the free pointer elsewhere. -/
def freed (rb : Ringbuffer) (free : Nat) (m : Mem) : Ringbuffer :=
  { rb with
    storage := m
    pucFree := free
    full := staysFull { rb with storage := m, pucFree := free } }

theorem prvReturnItemDefault_eq {a free : Nat} {m : Mem} (hchecks : itemChecks rb rbItemFreeFlag a)
    (hrun : skipFlagged rb.xSize rbItemFreeFlag rb.pucRead rb.xSize rb.pucFree
      (markItem rb.storage rbItemFreeFlag a) = some (free, m)) :
    prvReturnItemDefault rb a = some (freed rb free m) := by
  unfold prvReturnItemDefault
  rw [if_pos hchecks]
  dsimp only
  rw [hrun]
  rfl

section row

variable {l r : List Parcel}

/-- Marking one parcel of the row as returned. -/
theorem stored_release (h : Laid rb (l ++ x :: r) due) {y : Parcel}
    (hy : y ∈ l ++ x.release :: r ++ due) :
    y.Stored (setItemFlags rb.storage x.seat (flagsOf .returned)) ∧ y.Fits rb.xSize := by
  have hx : x ∈ l ++ x :: r ++ due := by simp
  have hsplit : l ++ x :: r ++ due = l ++ x :: (r ++ due) := by
    rw [List.append_assoc, List.cons_append]
  have hrow := h.row
  have hroom := h.room
  rw [hsplit] at hrow hroom
  have hcases : y = x.release ∨ y ∈ l ++ (r ++ due) := by
    simp only [List.mem_append, List.mem_cons] at hy ⊢
    tauto
  rcases hcases with rfl | hother
  · exact ⟨(h.stored x hx).release (h.fits x hx), (h.fits x hx).with_state .returned⟩
  · have hold : y ∈ l ++ x :: r ++ due := by
      simp only [List.mem_append, List.mem_cons] at hother ⊢
      tauto
    exact ⟨stored_of_write h.free_lt hrow hroom
      (agree_release rb.storage (h.fits x hx) (flagsOf .returned)) hother (h.fits y hold)
      (h.stored y hold), h.fits y hold⟩

/-- The rows as arcs do not depend on what became of the items. -/
theorem row_release {S p q : Nat} : Row S p (l ++ x.release :: r) q ↔ Row S p (l ++ x :: r) q := by
  unfold Row
  rw [chain_append, chain_append]
  rfl

theorem total_release (S : Nat) :
    total (span S) (l ++ x.release :: r) = total (span S) (l ++ x :: r) := by
  rw [total_append, total_append, total_cons, total_cons]
  rfl

/-- The loop where the row does not go all the way round. -/
theorem skipFlagged_release (h : Laid rb (l ++ x :: r) due)
    (hround : total (span rb.xSize) (l ++ x :: r) < rb.xSize) :
    ∃ free m, skipFlagged rb.xSize rbItemFreeFlag rb.pucRead rb.xSize rb.pucFree
        (setItemFlags rb.storage x.seat (flagsOf .returned)) = some (free, m) ∧
      Row rb.xSize free (settle rbItemFreeFlag (l ++ x.release :: r)) rb.pucRead ∧
      ∀ y ∈ l ++ x.release :: r ++ due, y.Stored m := by
  have hall : ∀ y ∈ l ++ x.release :: r, y ∈ l ++ x.release :: r ++ due :=
    fun y hy => List.mem_append_left due hy
  have hlen := length_le_total (S := rb.xSize) (l ++ x.release :: r)
    fun y hy => (stored_release h (hall y hy)).2
  rw [total_release] at hlen
  have hge := h.size_ge
  obtain ⟨free, m, hrun, hrest, hstored, hagree⟩ := skipFlagged_row (n := rb.xSize)
    h.size_lt (by decide : rbItemFreeFlag < 2 ^ 32) (row_release.mpr h.out_row)
    (by rwa [total_release]) (fun y hy => (stored_release h (hall y hy)).2)
    (fun y hy => (stored_release h (hall y hy)).1)
    (by unfold rbHeaderSize at hlen; omega)
  refine ⟨free, m, hrun, hrest, ?_⟩
  intro y hy
  rcases List.mem_append.mp hy with hout | hdue
  · exact hstored y hout
  · -- The loop writes nothing for what is due.
    have hstored' := stored_release h hy
    apply hstored'.1.congr hstored'.2
    intro i hi
    apply hagree
    intro z hz hzi
    have hall' : Row rb.xSize rb.pucFree (l ++ x.release :: r ++ due) rb.pucAcquire :=
      chain_append.mpr ⟨rb.pucRead, row_release.mpr h.out_row, h.due_row⟩
    have hroom := h.room
    rw [total_append, ← total_release, ← total_append] at hroom
    have hapart := chain_apart h.free_lt hall' hroom
    rw [List.pairwise_append] at hapart
    exact hapart.2.2 z hz y hdue i hzi hi

/-- What is out after `x` was returned. -/
abbrev rest (l : List Parcel) (x : Parcel) (r : List Parcel) : List Parcel :=
  settle rbItemFreeFlag (l ++ x.release :: r)

/-- The full flag after a return that moved the free pointer along the row: whether the rows
still go all the way round. -/
theorem staysFull_iff {out' : List Parcel} {free : Nat} {m : Mem} (h : Laid rb out due)
    (hseat : Seat rb.xSize free) (hout : Row rb.xSize free out' rb.pucRead)
    (hle : total (span rb.xSize) out' ≤ total (span rb.xSize) out)
    (hround : total (span rb.xSize) out < rb.xSize) (hpos : 0 < total (span rb.xSize) out) :
    (freed rb free m).full = true ↔ total (span rb.xSize) (out' ++ due) = rb.xSize := by
  have hroom := h.room
  rw [total_append] at hroom
  have hlt : free < rb.xSize := by
    have := hseat.2
    unfold rbHeaderSize at this
    omega
  have hall : Row rb.xSize free (out' ++ due) rb.pucAcquire :=
    chain_append.mpr ⟨rb.pucRead, hout, h.due_row⟩
  have hacquire : free = rb.pucAcquire ↔ total (span rb.xSize) (out' ++ due) = 0 ∨
      total (span rb.xSize) (out' ++ due) = rb.xSize := by
    have hend := chain_end hlt hall (by rw [total_append]; omega)
    rw [hend, eq_comm]
    exact advance_eq_self hlt (by rw [total_append]; omega)
  have hread : free = rb.pucRead ↔ total (span rb.xSize) out' = 0 := by
    have hend := chain_end hlt hout (by omega)
    rw [hend, eq_comm, advance_eq_self hlt (by omega)]
    omega
  have hfull := h.full
  rw [total_append] at hfull
  show (rb.full && free == rb.pucAcquire && free != rb.pucRead) = true ↔ _
  rw [Bool.and_eq_true, Bool.and_eq_true, beq_iff_eq, bne_iff_ne, hfull, hacquire, ne_eq, hread,
    total_append]
  omega

/-- Where what is out takes up all of the storage, nothing is due and the pointers are the same. -/
theorem Laid.all_out (h : Laid rb out due) (hround : ¬total (span rb.xSize) out < rb.xSize) :
    due = [] ∧ rb.full = true ∧ rb.pucRead = rb.pucFree ∧ rb.pucAcquire = rb.pucFree := by
  have hroom := h.room
  rw [total_append] at hroom
  have hlen := length_le_total due fun y hy => h.fits y (List.mem_append_right out hy)
  unfold rbHeaderSize at hlen
  have hdue : due = [] := List.length_eq_zero_iff.mp (by omega)
  have hfull : rb.full = true := by
    rw [h.full, total_append]
    omega
  refine ⟨hdue, hfull, ?_, h.acquire_eq_free.mpr (.inr hfull)⟩
  rw [chain_end h.free_lt h.out_row (by omega), advance_eq_self h.free_lt (by omega)]
  omega

/-- A return where the free and the read pointer are the same moves neither. -/
theorem prvReturnItemDefault_stays (h : Laid rb (l ++ x :: r) due) (hstate : x.state = .lent)
    (hread : rb.pucRead = rb.pucFree) : prvReturnItemDefault rb x.address =
      some (freed rb rb.pucFree (setItemFlags rb.storage x.seat (flagsOf .returned))) := by
  have hx : x ∈ l ++ x :: r := by simp
  have hge := h.size_ge
  apply prvReturnItemDefault_eq (itemChecks_lent h hx hstate)
  rw [(h.stored x (List.mem_append_left due hx)).markItem_free hstate, hread]
  obtain ⟨k, hk⟩ : ∃ k, rb.xSize = k + 1 := ⟨rb.xSize - 1, by omega⟩
  conv => lhs; arg 4; rw [hk]
  exact skipFlagged_end rb.pucFree k

theorem state_settle {xs : List Parcel} (hstates : ∀ y ∈ xs, y.state ≠ .waiting) {flag : Nat}
    {y : Parcel} (hy : y ∈ settle flag xs) : y.state ≠ .waiting := by
  obtain ⟨z, hz, hcase⟩ := mem_settle hy
  rcases hcase with heq | heq
  · rw [heq]
    exact hstates z hz
  · rw [heq]
    exact hstates z hz

/-- **Returning an item**, where the three pointers are not all the same or no other item is
out. -/
theorem Laid.giveBack (h : Laid rb (l ++ x :: r) due) (hstate : x.state = .lent)
    (hother : rb.full = true → due = [] → ∀ y ∈ l ++ r, y.state ≠ .lent) :
    ∃ free m, vRingbufferReturnItem rb x.address = some (freed rb free m) ∧
      Laid (freed rb free m) (rest l x r) due := by
  have hx : x ∈ l ++ x :: r := by simp
  have hmark := (h.stored x (List.mem_append_left due hx)).markItem_free hstate
  have hchecks := itemChecks_lent h hx hstate
  have hpos : 0 < total (span rb.xSize) (l ++ x :: r) := by
    have := (h.fits x (List.mem_append_left due hx)).span_pos
    rw [total_append, total_cons]
    omega
  have hstates : ∀ y ∈ l ++ x.release :: r, y.state ≠ .waiting := by
    intro y hy
    rcases List.mem_append.mp hy with hl | hr
    · exact h.out_state y (List.mem_append_left _ hl)
    · rcases List.mem_cons.mp hr with rfl | hr
      · exact ItemState.noConfusion
      · exact h.out_state y (List.mem_append_right _ (List.mem_cons_of_mem x hr))
  have hle := total_settle_le rb.xSize rbItemFreeFlag (l ++ x.release :: r)
  rw [total_release] at hle
  have hroom := h.room
  rw [total_append] at hroom
  by_cases hround : total (span rb.xSize) (l ++ x :: r) < rb.xSize
  · obtain ⟨free, m, hrun, hrest, hstored⟩ := skipFlagged_release h hround
    have hfits : ∀ y ∈ rest l x r, y.Fits rb.xSize := by
      intro y hy
      obtain ⟨z, hz, hcase⟩ := mem_settle hy
      have hzfits := (stored_release h (List.mem_append_left due hz)).2
      rcases hcase with rfl | rfl
      · exact hzfits
      · exact hzfits.seated
    have hseat := row_seat hrest h.read_seat hfits
    rw [← hmark] at hrun
    refine ⟨free, m, prvReturnItemDefault_eq hchecks hrun, ?_⟩
    constructor
    · exact h.size_ge
    · exact h.size_aligned
    · exact h.size_lt
    · exact h.max_size
    · exact hseat
    · exact h.read_seat
    · exact h.acquire_seat
    · exact hrest
    · exact h.due_row
    · exact h.write
    · rw [total_append]
      exact Nat.le_trans (Nat.add_le_add_right hle _) hroom
    · exact staysFull_iff h hseat hrest hle hround hpos
    · intro y hy
      rcases List.mem_append.mp hy with hout | hdue
      · exact hfits y hout
      · exact h.fits y (List.mem_append_right _ hdue)
    · intro y hy
      rcases List.mem_append.mp hy with hout | hdue
      · obtain ⟨z, hz, hcase⟩ := mem_settle hout
        have hzstored := hstored z (List.mem_append_left due hz)
        rcases hcase with rfl | rfl
        · exact hzstored
        · exact hzstored.seated
      · exact hstored y (List.mem_append_right _ hdue)
    · intro y hy
      have hold : ∀ z ∈ l ++ x.release :: r, z.data.length ≤ rb.xMaxItemSize := by
        intro z hz
        rcases List.mem_append.mp hz with hl | hr
        · exact h.data_le z (by simp [hl])
        · rcases List.mem_cons.mp hr with rfl | hr
          · exact h.data_le x (List.mem_append_left due hx)
          · exact h.data_le z (by simp [hr])
      rcases List.mem_append.mp hy with hout | hdue
      · obtain ⟨z, hz, hcase⟩ := mem_settle hout
        rcases hcase with heq | heq
        · rw [heq]
          exact hold z hz
        · rw [heq]
          exact hold z hz
      · exact h.data_le y (List.mem_append_right _ hdue)
    · exact fun y hy => state_settle hstates hy
    · exact h.due_state
    · intro y hy
      have hhead := head_settle hy
      rw [passed_free_iff] at hhead
      have hnot := state_settle hstates (List.mem_of_mem_head? hy)
      cases hs : y.state with
      | waiting => exact absurd hs hnot
      | lent => rfl
      | returned => exact absurd hs hhead
    · exact h.waiting
  · -- The row goes all the way round: the pointers are the same, and nothing else is out.
    obtain ⟨hdue, hfull, hread, hacquire⟩ := h.all_out hround
    subst hdue
    have hpassed : rest l x r = [] := by
      apply settle_eq_nil
      intro y hy
      rw [passed_free_iff]
      have hnot := hstates y hy
      rcases List.mem_append.mp hy with hl | hr
      · have hlent := hother hfull rfl y (List.mem_append_left r hl)
        cases hs : y.state with
        | waiting => exact absurd hs hnot
        | lent => exact absurd hs hlent
        | returned => rfl
      · rcases List.mem_cons.mp hr with rfl | hr
        · rfl
        · have hlent := hother hfull rfl y (List.mem_append_right l hr)
          cases hs : y.state with
          | waiting => exact absurd hs hnot
          | lent => exact absurd hs hlent
          | returned => rfl
    refine ⟨rb.pucFree, setItemFlags rb.storage x.seat (flagsOf .returned), ?_, ?_⟩
    · exact (prvReturnItemDefault_stays h hstate hread).trans rfl
    · rw [hpassed]
      constructor
      · exact h.size_ge
      · exact h.size_aligned
      · exact h.size_lt
      · exact h.max_size
      · exact h.free_seat
      · exact h.read_seat
      · exact h.acquire_seat
      · exact hread.symm
      · exact hread.trans hacquire.symm
      · exact h.write
      · exact Nat.zero_le _
      · show (rb.full && rb.pucFree == rb.pucAcquire && rb.pucFree != rb.pucRead) = true ↔
          0 = rb.xSize
        have hge := h.size_ge
        rw [hread, bne_self_eq_false, Bool.and_false]
        constructor
        · intro hf
          exact absurd hf Bool.false_ne_true
        · intro hzero
          omega
      · exact fun y hy => absurd hy List.not_mem_nil
      · exact fun y hy => absurd hy List.not_mem_nil
      · exact fun y hy => absurd hy List.not_mem_nil
      · exact fun y hy => absurd hy List.not_mem_nil
      · exact fun y hy => absurd hy List.not_mem_nil
      · exact fun y hy => absurd hy (Option.not_mem_none y)
      · exact h.waiting

/-- Where everything in a full buffer is out, returning any of it makes the buffer look empty. -/
theorem prvReturnItemDefault_all_out (h : Laid rb (l ++ x :: r) []) (hstate : x.state = .lent)
    (hfull : rb.full = true) : ∃ rb', vRingbufferReturnItem rb x.address = some rb' ∧
      rb'.full = false ∧ rb'.pucAcquire = rb'.pucFree := by
  have htotal := h.full.mp hfull
  rw [List.append_nil] at htotal
  obtain ⟨-, -, hread, hacquire⟩ := h.all_out (by omega)
  refine ⟨_, prvReturnItemDefault_stays h hstate hread, ?_, hacquire⟩
  show (rb.full && rb.pucFree == rb.pucAcquire && rb.pucFree != rb.pucRead) = false
  rw [hread, bne_self_eq_false, Bool.and_false]

end row

end Lighting.Queue
