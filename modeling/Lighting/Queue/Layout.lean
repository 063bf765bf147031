import Lighting.Lib.Arcs
import Lighting.Model.Ringbuf

/-!
# What lies in the storage of the ring buffer

Between `pucFree` and `pucAcquire` the storage is a row of parcels. A parcel is one item behind
its header and, where the item did not fit the end of the storage, the dummy data in front of
it. As arcs of the storage the parcels follow each other from the one pointer to the other
and do not overlap, so that what is written for one of them leaves the others as they were.
-/

set_option autoImplicit false

namespace Lighting.Queue

open ByteMemory CString Arcs

/-- How far an item has come. -/
inductive ItemState where
  | waiting
  /-- Retrieved and not yet returned. -/
  | lent
  | returned
  deriving DecidableEq, Repr

/-- `lead` says that dummy data goes from `start` to the end of the storage and the item is at
its head. -/
structure Parcel where
  start : Nat
  lead : Bool
  data : Bytes
  state : ItemState
  deriving DecidableEq, Repr

namespace Parcel

/-- Where the header is. -/
def seat (x : Parcel) : Nat := if x.lead then 0 else x.start

/-- The address the application gets. -/
def address (x : Parcel) : Nat := x.seat + rbHeaderSize

/-- The end of the item. -/
def stop (x : Parcel) : Nat := x.seat + (rbHeaderSize + rbAlignSize x.data.length)

/-- The bytes it takes up, a rest at the end of the storage too small for a header included. -/
def span (S : Nat) (x : Parcel) : Nat :=
  (if x.lead then S - x.start else 0) +
    if S - x.stop < rbHeaderSize then S - x.seat else x.stop - x.seat

/-- The item flags of a state. -/
def flagsOf : ItemState → Nat
  | .waiting => rbItemWrittenFlag
  | .lent => rbItemWrittenFlag
  | .returned => rbItemWrittenFlag ||| rbItemFreeFlag

/-- It begins where a header can be, and the item ends within the storage. -/
structure Fits (S : Nat) (x : Parcel) : Prop where
  start_aligned : x.start % 4 = 0
  start_le : x.start + rbHeaderSize ≤ S
  stop_le : x.stop ≤ S
  span_le : x.span S ≤ S

/-- The storage holds it. -/
structure Stored (m : Mem) (x : Parcel) : Prop where
  dummy : x.lead = true → itemFlags m x.start &&& rbItemDummyDataFlag ≠ 0
  len : itemLen m x.seat = x.data.length
  flags : itemFlags m x.seat = flagsOf x.state
  data : bytesAt m x.address x.data.length = x.data

end Parcel

open Parcel

/-- A parcel as an arc of the storage. -/
abbrev Row (S p : Nat) (xs : List Parcel) (q : Nat) : Prop := Chain Parcel.start (span S) S p xs q

abbrev Within (S : Nat) (x : Parcel) (a : Nat) : Prop := Lies Parcel.start (span S) S x a

/-! ## Sizes and pointers -/

theorem rbAlignSize_ge (n : Nat) : n ≤ rbAlignSize n := by
  unfold rbAlignSize
  omega

theorem rbAlignSize_mod (n : Nat) : rbAlignSize n % 4 = 0 := by
  unfold rbAlignSize
  omega

theorem wrapPointer_of_le {S p : Nat} (hp : p ≤ S) (hS : S < 2 ^ 31) :
    wrapPointer S p = if S - p < rbHeaderSize then 0 else p := by
  have hdiff : ((S : Int) - p) % 2 ^ 32 = ((S - p : Nat) : Int) := by omega
  unfold wrapPointer
  rw [hdiff]
  simp only [Int.ofNat_lt]

theorem wrapPointer_zero {S : Nat} (hS : S < 2 ^ 31) :
    wrapPointer S 0 = 0 := by
  rw [wrapPointer_of_le (Nat.zero_le S) hS]
  split <;> rfl

section fits

variable {S : Nat} {x : Parcel}

theorem Parcel.Fits.start_lt (h : x.Fits S) : x.start < S := by
  have := h.start_le
  unfold rbHeaderSize at this
  omega

theorem Parcel.seat_of_lead (x : Parcel) (h : x.lead = true) : x.seat = 0 := by
  rw [seat, h, if_pos rfl]

theorem Parcel.seat_of_not_lead (x : Parcel) (h : x.lead = false) : x.seat = x.start := by
  rw [seat, h, if_neg Bool.false_ne_true]

theorem Parcel.seat_lt_stop (x : Parcel) : x.seat + rbHeaderSize ≤ x.stop := by
  unfold stop
  omega

/-- Going past a parcel is going to where its item ends. -/
theorem Parcel.Fits.advance_span (h : x.Fits S) (hS : S < 2 ^ 31) :
    advance S x.start (x.span S) = wrapPointer S x.stop := by
  have hspan := h.span_le
  have hstart := h.start_le
  have hstop := h.stop_le
  have hseat := x.seat_lt_stop
  rw [wrapPointer_of_le h.stop_le hS]
  unfold span at hspan ⊢
  unfold rbHeaderSize at *
  cases hlead : x.lead with
  | true =>
    -- The dummy data reaches to the end, so the item has to end well before `start`.
    have hzero : x.seat = 0 := x.seat_of_lead hlead
    rw [hlead, if_pos rfl, hzero] at hspan
    rw [if_pos rfl, hzero]
    split at hspan
    · omega
    · rw [if_neg (by assumption), if_neg (by assumption), advance_of_le (by omega)]
      omega
  | false =>
    have hself : x.seat = x.start := x.seat_of_not_lead hlead
    rw [if_neg Bool.false_ne_true, Nat.zero_add]
    by_cases hend : S - x.stop < 8
    · rw [if_pos hend, if_pos hend, advance_of_le (by omega)]
      omega
    · rw [if_neg hend, if_neg hend, advance_of_lt (by omega)]
      omega

/-- Without the dummy data in front of it. -/
def Parcel.seated (x : Parcel) : Parcel := { x with start := x.seat, lead := false }

theorem Parcel.seated_of_not_lead (x : Parcel) (h : x.lead = false) : x.seated = x := by
  obtain ⟨start, lead, data, state⟩ := x
  dsimp only at h
  subst h
  rfl

theorem Parcel.Fits.seat_aligned (h : x.Fits S) : x.seat % 4 = 0 := by
  unfold seat
  split
  · rfl
  · exact h.start_aligned

theorem Parcel.Fits.seat_le (h : x.Fits S) : x.seat + rbHeaderSize ≤ S :=
  Nat.le_trans x.seat_lt_stop h.stop_le

/-- The dummy data goes to the end of the storage, the rest of the parcel is from its head. -/
theorem Parcel.span_lead (h : x.lead = true) : x.span S = S - x.start + x.seated.span S := by
  unfold span
  rw [if_pos h]
  show _ = S - x.start + ((if false = true then S - x.seat else 0) +
    if S - x.stop < rbHeaderSize then S - x.seat else x.stop - x.seat)
  rw [if_neg Bool.false_ne_true, Nat.zero_add]

theorem Parcel.Fits.stop_le_start (h : x.Fits S) (hlead : x.lead = true) : x.stop ≤ x.start := by
  have hspan := h.span_le
  have hstart := h.start_le
  have hzero := x.seat_of_lead hlead
  have hseat := x.seat_lt_stop
  unfold span at hspan
  unfold rbHeaderSize at *
  rw [hlead, if_pos rfl] at hspan
  split at hspan <;> omega

theorem Parcel.Fits.seated (h : x.Fits S) : x.seated.Fits S where
  start_aligned := h.seat_aligned
  start_le := h.seat_le
  stop_le := h.stop_le
  span_le := by
    have hspan := h.span_le
    cases hlead : x.lead with
    | true =>
      rw [span_lead hlead] at hspan
      omega
    | false => rwa [x.seated_of_not_lead hlead]

theorem Parcel.Fits.header_le_span (h : x.Fits S) : rbHeaderSize ≤ x.span S := by
  have hseat := x.seat_lt_stop
  have hle := h.seat_le
  unfold span
  split <;> split <;> omega

theorem Parcel.Fits.span_pos (h : x.Fits S) : 0 < x.span S :=
  Nat.lt_of_lt_of_le (by decide) h.header_le_span

/-! ## Which addresses a parcel takes up -/

/-- The header and the item are its own. -/
theorem Parcel.Fits.within_item (h : x.Fits S) {a : Nat} (ha : x.seat ≤ a ∧ a < x.stop) :
    Within S x a := by
  have hstop := h.stop_le
  have hstart := h.start_lt
  refine ⟨by omega, ?_⟩
  unfold ahead span
  cases hlead : x.lead with
  | true =>
    have hbefore := h.stop_le_start hlead
    rw [if_neg (by omega), if_pos rfl, x.seat_of_lead hlead]
    split <;> omega
  | false =>
    have hself := x.seat_of_not_lead hlead
    rw [if_pos (by omega), if_neg Bool.false_ne_true]
    split <;> omega

/-- So is all the dummy data in front of it. -/
theorem Parcel.Fits.within_dummy (h : x.Fits S) (hlead : x.lead = true) {a : Nat}
    (ha : x.start ≤ a ∧ a < S) : Within S x a := by
  have hpos := h.seated.span_pos
  refine ⟨ha.2, ?_⟩
  unfold ahead
  rw [if_pos ha.1, span_lead hlead]
  omega

end fits

/-! ## What the storage holds -/

section stored

variable {S : Nat} {x : Parcel} {m m' : Mem}

theorem itemFlags_setItemFlags {p f : Nat} (h : f < 2 ^ 32) :
    itemFlags (setItemFlags m p f) p = f :=
  load32_store32 m (p + 4) h

theorem itemLen_setItemLen {p n : Nat} (h : n < 2 ^ 32) : itemLen (setItemLen m p n) p = n :=
  load32_store32 m p h

@[simp] theorem itemLen_setItemFlags {p f : Nat} :
    itemLen (setItemFlags m p f) p = itemLen m p :=
  load32_store32_of_disjoint (by omega)

@[simp] theorem itemFlags_setItemLen {p n : Nat} :
    itemFlags (setItemLen m p n) p = itemFlags m p :=
  load32_store32_of_disjoint (by omega)

/-- The bytes of the header and the item, and the flags of the dummy data. -/
theorem Parcel.Stored.of_item (h : x.Stored m)
    (hitem : AgreeOn (fun i => x.seat ≤ i ∧ i < x.stop) m m')
    (hdummy : x.lead = true → itemFlags m' x.start &&& rbItemDummyDataFlag ≠ 0) :
    x.Stored m' := by
  have hstop : x.seat + (rbHeaderSize + rbAlignSize x.data.length) = x.stop := rfl
  have halign := rbAlignSize_ge x.data.length
  unfold rbHeaderSize at hstop
  constructor
  · exact hdummy
  · rw [← h.len]
    exact (load32_congr fun i hi => hitem i (by omega)).symm
  · rw [← h.flags]
    exact (load32_congr fun i hi => hitem i (by omega)).symm
  · have haddress : x.address = x.seat + 8 := rfl
    rw [← bytesAt_congr fun i hi => hitem i (by omega)]
    exact h.data

/-- Only the bytes of a parcel matter to it. -/
theorem Parcel.Stored.congr (h : x.Stored m) (hfits : x.Fits S)
    (hm : AgreeOn (Within S x) m m') : x.Stored m' := by
  have hstart := hfits.start_le
  unfold rbHeaderSize at hstart
  apply h.of_item
  · intro i hi
    exact hm i (hfits.within_item hi)
  · intro hlead
    have hsame : itemFlags m x.start = itemFlags m' x.start :=
      load32_congr fun i hi => hm i (hfits.within_dummy hlead (by omega))
    rw [← hsame]
    exact h.dummy hlead

theorem Parcel.Stored.seated (h : x.Stored m) : x.seated.Stored m where
  dummy := fun hlead => absurd hlead Bool.false_ne_true
  len := h.len
  flags := h.flags
  data := h.data

/-- **A write for one parcel of a row leaves the others.** -/
theorem stored_of_write {p q : Nat} {l r : List Parcel} (hp : p < S)
    (hrow : Row S p (l ++ x :: r) q) (hroom : total (span S) (l ++ x :: r) ≤ S)
    (hm : AgreeOn (fun a => ¬Within S x a) m m') {y : Parcel} (hy : y ∈ l ++ r)
    (hfits : y.Fits S) (h : y.Stored m) : y.Stored m' := by
  apply h.congr hfits
  intro a ha
  apply hm
  intro hxa
  have hapart := chain_apart hp hrow hroom
  rw [List.pairwise_append] at hapart
  obtain ⟨-, hright, hleft⟩ := hapart
  rcases List.mem_append.mp hy with hl | hr
  · exact hleft y hl x List.mem_cons_self a ha hxa
  · exact (List.pairwise_cons.mp hright).1 y hr a hxa ha

end stored

end Lighting.Queue
