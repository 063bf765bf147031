import Lighting.Queue.Loops

/-!
# What the buffer holds

`Laid rb out due` reads the pointers as two rows of parcels: `out`, from the free pointer to the
read pointer, are the items the application has got, `due`, from there to the acquire pointer,
those it has not. The first of `out` has not been returned, and the full flag says that the rows
go all the way round.
-/

set_option autoImplicit false

namespace Lighting.Queue

open ByteMemory CString Arcs Parcel

/-- Where a header can be. -/
def Seat (S p : Nat) : Prop := p % 4 = 0 ∧ p + rbHeaderSize ≤ S

structure Laid (rb : Ringbuffer) (out due : List Parcel) : Prop where
  size_ge : 12 ≤ rb.xSize
  size_aligned : rb.xSize % 4 = 0
  size_lt : rb.xSize < 2 ^ 31
  max_size : rb.xMaxItemSize = rbAlignSize (rb.xSize / 2) - rbHeaderSize
  free_seat : Seat rb.xSize rb.pucFree
  read_seat : Seat rb.xSize rb.pucRead
  acquire_seat : Seat rb.xSize rb.pucAcquire
  out_row : Row rb.xSize rb.pucFree out rb.pucRead
  due_row : Row rb.xSize rb.pucRead due rb.pucAcquire
  write : rb.pucWrite = rb.pucAcquire
  room : total (span rb.xSize) (out ++ due) ≤ rb.xSize
  full : rb.full = true ↔ total (span rb.xSize) (out ++ due) = rb.xSize
  fits : ∀ x ∈ out ++ due, x.Fits rb.xSize
  stored : ∀ x ∈ out ++ due, x.Stored rb.storage
  data_le : ∀ x ∈ out ++ due, x.data.length ≤ rb.xMaxItemSize
  out_state : ∀ x ∈ out, x.state ≠ .waiting
  due_state : ∀ x ∈ due, x.state = .waiting
  out_head : ∀ x ∈ out.head?, x.state = .lent
  waiting : rb.xItemsWaiting = due.length

theorem seat_wrapPointer {S p : Nat} (hS : S % 4 = 0) (hlt : S < 2 ^ 31) (hge : rbHeaderSize ≤ S)
    (hp : p % 4 = 0) (hle : p ≤ S) : Seat S (wrapPointer S p) := by
  rw [wrapPointer_of_le hle hlt]
  unfold Seat
  unfold rbHeaderSize at *
  split <;> omega

namespace Laid

variable {rb : Ringbuffer} {out due : List Parcel}

theorem free_lt (h : Laid rb out due) : rb.pucFree < rb.xSize := by
  have := h.free_seat.2
  unfold rbHeaderSize at this
  omega

theorem acquire_lt (h : Laid rb out due) : rb.pucAcquire < rb.xSize := by
  have := h.acquire_seat.2
  unfold rbHeaderSize at this
  omega

/-- The two rows as one. -/
theorem row (h : Laid rb out due) : Row rb.xSize rb.pucFree (out ++ due) rb.pucAcquire :=
  chain_append.mpr ⟨rb.pucRead, h.out_row, h.due_row⟩

/-- The acquire pointer by what the rows take up. -/
theorem acquire_eq (h : Laid rb out due) :
    rb.pucAcquire = advance rb.xSize rb.pucFree (total (span rb.xSize) (out ++ due)) :=
  chain_end h.free_lt h.row h.room

/-- Parcels take up space. -/
theorem total_eq_zero (h : Laid rb out due) :
    total (span rb.xSize) (out ++ due) = 0 ↔ out = [] ∧ due = [] := by
  rw [← List.append_eq_nil_iff]
  have hfits := h.fits
  cases hrow : out ++ due with
  | nil => simp
  | cons x xs =>
    have hpos := (hfits x (by rw [hrow]; exact List.mem_cons_self)).span_pos
    rw [total_cons]
    constructor
    · intro hzero
      omega
    · intro hnil
      exact absurd hnil (List.cons_ne_nil x xs)

/-- The free and the acquire pointer are the same where there is nothing or no room. -/
theorem acquire_eq_free (h : Laid rb out due) :
    rb.pucAcquire = rb.pucFree ↔ (out = [] ∧ due = []) ∨ rb.full = true := by
  rw [h.acquire_eq, advance_eq_self h.free_lt h.room, h.total_eq_zero, h.full]

theorem full_eq_false (h : Laid rb out due)
    (hroom : total (span rb.xSize) (out ++ due) < rb.xSize) : rb.full = false := by
  rw [Bool.eq_false_iff]
  intro hfull
  have := h.full.mp hfull
  omega

end Laid

/-! ## The next parcel -/

/-- The parcel that `prvAcquireItemNoSplit` makes of an item. -/
def nextParcel (rb : Ringbuffer) (data : Bytes) : Parcel where
  start := rb.pucAcquire
  lead := decide (rb.xSize - rb.pucAcquire < rbAlignSize data.length + rbHeaderSize)
  data := data
  state := .waiting

section next

variable {rb : Ringbuffer} {out due : List Parcel} {data : Bytes}

/-- An item of the largest size fits into half of the storage, rounded up. -/
theorem aligned_le (h : Laid rb out due) (hlen : data.length ≤ rb.xMaxItemSize) :
    rbAlignSize data.length + rbHeaderSize ≤ rbAlignSize (rb.xSize / 2) := by
  have hge := h.size_ge
  rw [h.max_size] at hlen
  unfold rbAlignSize rbHeaderSize at *
  omega

/-- How much a parcel takes up without dummy data, where it ends before the free pointer or at
the end of the storage. -/
theorem span_nextParcel_of_not_lead
    (hroom : rbAlignSize data.length + rbHeaderSize ≤ rb.xSize - rb.pucAcquire) :
    (nextParcel rb data).seat = rb.pucAcquire ∧
      (nextParcel rb data).stop = rb.pucAcquire + (rbAlignSize data.length + rbHeaderSize) ∧
      (nextParcel rb data).span rb.xSize =
        if rb.xSize - (nextParcel rb data).stop < rbHeaderSize then rb.xSize - rb.pucAcquire
        else rbAlignSize data.length + rbHeaderSize := by
  have hlead : (nextParcel rb data).lead = false := by
    show decide _ = false
    rw [decide_eq_false_iff_not]
    omega
  have hseat : (nextParcel rb data).seat = rb.pucAcquire :=
    (nextParcel rb data).seat_of_not_lead hlead
  have hstop : (nextParcel rb data).stop =
      rb.pucAcquire + (rbAlignSize data.length + rbHeaderSize) := by
    unfold stop
    rw [hseat, Nat.add_comm rbHeaderSize]
    rfl
  refine ⟨hseat, hstop, ?_⟩
  unfold span
  rw [hlead, if_neg Bool.false_ne_true, Nat.zero_add, hseat, hstop]
  split
  · rfl
  · omega

theorem span_nextParcel_of_lead
    (hroom : rb.xSize - rb.pucAcquire < rbAlignSize data.length + rbHeaderSize)
    (hend : rbAlignSize data.length + rbHeaderSize + rbHeaderSize ≤ rb.xSize) :
    (nextParcel rb data).seat = 0 ∧
      (nextParcel rb data).stop = rbAlignSize data.length + rbHeaderSize ∧
      (nextParcel rb data).span rb.xSize =
        rb.xSize - rb.pucAcquire + (rbAlignSize data.length + rbHeaderSize) := by
  have hlead : (nextParcel rb data).lead = true := decide_eq_true hroom
  have hseat : (nextParcel rb data).seat = 0 := (nextParcel rb data).seat_of_lead hlead
  have hstop : (nextParcel rb data).stop = rbAlignSize data.length + rbHeaderSize := by
    unfold stop
    rw [hseat, Nat.zero_add, Nat.add_comm rbHeaderSize]
    rfl
  refine ⟨hseat, hstop, ?_⟩
  unfold span
  rw [hlead, if_pos rfl, hseat, hstop, if_neg (by omega)]
  rfl

/-- What `prvCheckItemFitsDefault` promises: there is a place for the parcel behind the others. -/
structure Placed (rb : Ringbuffer) (xs : List Parcel) (data : Bytes) : Prop where
  fits : (nextParcel rb data).Fits rb.xSize
  room : total (span rb.xSize) xs + (nextParcel rb data).span rb.xSize ≤ rb.xSize

/-- The place is at the end of the storage. -/
theorem placed_at_end (h : Laid rb out due)
    (hroom : rbAlignSize data.length + rbHeaderSize ≤ rb.xSize - rb.pucAcquire)
    (hfree : total (span rb.xSize) (out ++ due) + (rb.xSize - rb.pucAcquire) ≤ rb.xSize ∨
      total (span rb.xSize) (out ++ due) + (rbAlignSize data.length + rbHeaderSize) ≤ rb.xSize ∧
        rb.pucAcquire + (rbAlignSize data.length + rbHeaderSize) + rbHeaderSize ≤ rb.xSize) :
    Placed rb (out ++ due) data := by
  obtain ⟨-, hstop, hspan⟩ := span_nextParcel_of_not_lead hroom
  have hle : total (span rb.xSize) (out ++ due) + (nextParcel rb data).span rb.xSize ≤
      rb.xSize := by
    rw [hspan, hstop]
    split <;> omega
  have hlt := h.acquire_lt
  refine ⟨⟨h.acquire_seat.1, h.acquire_seat.2, ?_, by omega⟩, hle⟩
  rw [hstop]
  omega

/-- The place is at the head of the storage. -/
theorem placed_at_head (h : Laid rb out due)
    (hroom : rb.xSize - rb.pucAcquire < rbAlignSize data.length + rbHeaderSize)
    (hend : rbAlignSize data.length + rbHeaderSize + rbHeaderSize ≤ rb.xSize)
    (hfree : total (span rb.xSize) (out ++ due) + (rb.xSize - rb.pucAcquire) +
      (rbAlignSize data.length + rbHeaderSize) ≤ rb.xSize) :
    Placed rb (out ++ due) data := by
  obtain ⟨-, hstop, hspan⟩ := span_nextParcel_of_lead hroom hend
  have hle : total (span rb.xSize) (out ++ due) + (nextParcel rb data).span rb.xSize ≤
      rb.xSize := by
    rw [hspan]
    omega
  refine ⟨⟨h.acquire_seat.1, h.acquire_seat.2, ?_, by omega⟩, hle⟩
  rw [hstop]
  omega

/-- **The check**: an item that passes it has its place, and an empty buffer passes every
item. -/
theorem prvCheckItemFitsDefault_spec (h : Laid rb out due)
    (hlen : data.length ≤ rb.xMaxItemSize) :
    ∃ fits, prvCheckItemFitsDefault rb data.length = some fits ∧
      (fits = true → Placed rb (out ++ due) data) ∧ (out = [] → due = [] → fits = true) := by
  have hacq := h.acquire_seat
  have hfree := h.free_seat
  have hlt := h.acquire_lt
  have hmax := aligned_le h hlen
  have hge := h.size_ge
  have hS := h.size_aligned
  have hmod := rbAlignSize_mod data.length
  have hend := h.acquire_eq
  have hroom := h.room
  unfold prvCheckItemFitsDefault
  rw [if_pos ⟨hacq.1, hlt⟩]
  dsimp only
  unfold Seat at hacq hfree
  by_cases heq : rb.pucAcquire = rb.pucFree
  · rw [if_pos heq]
    refine ⟨_, rfl, ?_, ?_⟩
    · -- The buffer is empty, and the storage is long enough on one side or the other.
      intro hempty
      rw [Bool.not_eq_true'] at hempty
      have hzero : total (span rb.xSize) (out ++ due) = 0 := by
        rcases (h.acquire_eq_free).mp heq with hnil | hfull
        · exact h.total_eq_zero.mpr hnil
        · rw [hempty] at hfull
          exact absurd hfull Bool.false_ne_true
      by_cases hat : rbAlignSize data.length + rbHeaderSize ≤ rb.xSize - rb.pucAcquire
      · exact placed_at_end h hat (.inl (by omega))
      · unfold rbHeaderSize at *
        apply placed_at_head h <;> unfold rbAlignSize rbHeaderSize at * <;> omega
    · intro hout hdue
      rw [Bool.not_eq_true']
      apply h.full_eq_false
      rw [h.total_eq_zero.mpr ⟨hout, hdue⟩]
      omega
  · rw [if_neg heq]
    have hsome : ¬(out = [] ∧ due = []) := fun hnil => heq (h.acquire_eq_free.mpr (.inl hnil))
    by_cases hbehind : rb.pucAcquire < rb.pucFree
    · rw [if_pos hbehind]
      refine ⟨_, rfl, ?_, fun hout hdue => absurd ⟨hout, hdue⟩ hsome⟩
      intro hfits
      rw [decide_eq_true_iff] at hfits
      have htotal : total (span rb.xSize) (out ++ due) =
          rb.xSize - (rb.pucFree - rb.pucAcquire) := by
        unfold advance at hend
        split at hend <;> omega
      apply placed_at_end h (by omega)
      exact .inr ⟨by omega, by omega⟩
    · rw [if_neg hbehind]
      have htotal : total (span rb.xSize) (out ++ due) = rb.pucAcquire - rb.pucFree := by
        unfold advance at hend
        split at hend <;> omega
      by_cases hat : rbAlignSize data.length + rbHeaderSize ≤ rb.xSize - rb.pucAcquire
      · rw [if_pos hat]
        refine ⟨_, rfl, fun _ => placed_at_end h hat (.inl (by omega)), fun _ _ => rfl⟩
      · rw [if_neg hat]
        refine ⟨_, rfl, ?_, fun hout hdue => absurd ⟨hout, hdue⟩ hsome⟩
        intro hfits
        rw [decide_eq_true_iff] at hfits
        exact placed_at_head h (by omega) (by omega) (by omega)

end next

end Lighting.Queue
