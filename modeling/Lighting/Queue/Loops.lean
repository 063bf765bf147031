import Lighting.Queue.Layout

/-!
# The loops that move a pointer past parcels

`skipFlagged` from the first parcel of a row: it goes past every parcel whose item has the flag
and stops at the header of the first that has not, or at the end of the row. `settle` is what
is left of the row then.
-/

set_option autoImplicit false

namespace Lighting.Queue

open ByteMemory CString Arcs Parcel

/-- The item of the parcel has the flag. -/
def Parcel.Passed (flag : Nat) (x : Parcel) : Prop := flagsOf x.state &&& flag ≠ 0

instance (flag : Nat) (x : Parcel) : Decidable (x.Passed flag) :=
  inferInstanceAs (Decidable (_ ≠ _))

/-- The row from the first parcel without the flag on, which is past its dummy data. -/
def settle (flag : Nat) : List Parcel → List Parcel
  | [] => []
  | x :: xs => if x.Passed flag then settle flag xs else x.seated :: xs

theorem settle_cons_of_passed {flag : Nat} {x : Parcel} (xs : List Parcel) (h : x.Passed flag) :
    settle flag (x :: xs) = settle flag xs := if_pos h

theorem settle_cons_of_not_passed {flag : Nat} {x : Parcel} (xs : List Parcel)
    (h : ¬x.Passed flag) : settle flag (x :: xs) = x.seated :: xs := if_neg h

theorem Parcel.flags_dummy (s : ItemState) : flagsOf s &&& rbItemDummyDataFlag = 0 := by
  cases s <;> rfl

theorem itemFlags_lt (m : Mem) (p : Nat) : itemFlags m p < 2 ^ 32 := by
  unfold itemFlags load32
  have h0 := (m.byte (p + 4)).toNat_lt
  have h1 := (m.byte (p + 4 + 1)).toNat_lt
  have h2 := (m.byte (p + 4 + 2)).toNat_lt
  have h3 := (m.byte (p + 4 + 3)).toNat_lt
  omega

theorem setItemFlags_outside {m : Mem} {p f i : Nat} (h : i < p ∨ p + rbHeaderSize ≤ i) :
    (setItemFlags m p f).byte i = m.byte i := by
  unfold rbHeaderSize at h
  exact store32_outside (by omega)

section loop

variable {S flag : Nat} {m : Mem} {x : Parcel}

theorem skipFlagged_end (q fuel : Nat) :
    skipFlagged S flag q (fuel + 1) q m = some (q, m) := by
  unfold skipFlagged
  exact if_neg fun h => h.2 rfl

/-- One round, at an item that has the flag. -/
theorem skipFlagged_item {q fuel : Nat} (hfits : x.Fits S) (hS : S < 2 ^ 31)
    (h : x.Stored m) (hlead : x.lead = false) (hpass : x.Passed flag) (hne : x.start ≠ q) :
    skipFlagged S flag q (fuel + 1) x.start m =
      skipFlagged S flag q fuel (advance S x.start (x.span S)) m := by
  have hself := x.seat_of_not_lead hlead
  have hflags := h.flags
  have hlen := h.len
  have hstop := hfits.stop_le
  rw [hself] at hflags hlen
  have hnext : x.start + (rbAlignSize (itemLen m x.start) + rbHeaderSize) = x.stop := by
    rw [hlen, stop, hself, Nat.add_comm rbHeaderSize]
  rw [hfits.advance_span hS]
  conv => lhs; unfold skipFlagged
  dsimp only
  rw [hflags, if_pos ⟨.inl hpass, hne⟩, if_neg (by rw [flags_dummy]; exact fun h => h rfl), hnext,
    if_pos hstop]

/-- One round, at an item that has not. -/
theorem skipFlagged_rest {q fuel : Nat} (h : x.Stored m) (hlead : x.lead = false)
    (hpass : ¬x.Passed flag) : skipFlagged S flag q (fuel + 1) x.start m = some (x.start, m) := by
  have hflags := h.flags
  rw [x.seat_of_not_lead hlead] at hflags
  unfold skipFlagged
  dsimp only
  rw [hflags]
  apply if_neg
  intro hround
  rcases hround.1 with hitem | hdummy
  · exact hpass hitem
  · exact hdummy (flags_dummy x.state)

/-- One round, at dummy data. -/
theorem skipFlagged_dummy {q fuel : Nat} (hS : S < 2 ^ 31) (h : x.Stored m)
    (hlead : x.lead = true) (hne : x.start ≠ q) :
    skipFlagged S flag q (fuel + 1) x.start m = skipFlagged S flag q fuel x.seat
      (setItemFlags m x.start (itemFlags m x.start ||| flag)) := by
  have hdummy := h.dummy hlead
  conv => lhs; unfold skipFlagged
  dsimp only
  rw [if_pos ⟨.inr hdummy, hne⟩, if_pos hdummy, wrapPointer_zero hS, x.seat_of_lead hlead]

/-- Marking dummy data leaves it dummy data, and the item alone. -/
theorem Parcel.Stored.mark_dummy (h : x.Stored m) (hfits : x.Fits S) (hlead : x.lead = true)
    (hflag : flag < 2 ^ 32) :
    x.Stored (setItemFlags m x.start (itemFlags m x.start ||| flag)) := by
  have hbefore := hfits.stop_le_start hlead
  apply h.of_item
  · intro i hi
    exact (setItemFlags_outside (by omega)).symm
  · intro _
    rw [itemFlags_setItemFlags (Nat.or_lt_two_pow (itemFlags_lt m x.start) hflag),
      Nat.and_or_distrib_right]
    intro hzero
    exact h.dummy hlead (Nat.or_eq_zero_iff.mp hzero).1

/-- The row without the dummy data of its first parcel. -/
theorem row_seated {p q : Nat} {xs : List Parcel} (hS : S < 2 ^ 31) (hfits : x.Fits S)
    (hrow : Row S p (x :: xs) q) : Row S x.seat (x.seated :: xs) q := by
  obtain ⟨hx, hxs⟩ := hrow
  refine ⟨rfl, ?_⟩
  have hnext := hfits.seated.advance_span hS
  rw [← hx, hfits.advance_span hS] at hxs
  exact hnext.symm ▸ hxs

theorem Parcel.span_seated_le (S : Nat) (x : Parcel) : x.seated.span S ≤ x.span S := by
  cases hlead : x.lead with
  | true =>
    rw [span_lead hlead]
    omega
  | false => rw [x.seated_of_not_lead hlead]

/-- A row that does not go all the way round does not end where it begins. -/
theorem start_ne_end {p q : Nat} {xs : List Parcel} (hfits : x.Fits S)
    (hrow : Row S p (x :: xs) q) (hroom : total (span S) (x :: xs) < S) : x.start ≠ q := by
  intro heq
  have hstart : x.start = p := hrow.1
  have hlt := hfits.start_lt
  have hpos := hfits.span_pos
  rw [hstart] at heq hlt
  rw [total_cons] at hroom
  have hend := chain_end hlt hrow (by rw [total_cons]; omega)
  rw [← heq, eq_comm, advance_eq_self hlt (by rw [total_cons]; omega), total_cons] at hend
  omega

/-- The rounds spent on the dummy data of the first parcel, at most one. -/
theorem skipFlagged_lead {p q fuel : Nat} {xs : List Parcel} (hS : S < 2 ^ 31)
    (hflag : flag < 2 ^ 32) (hrow : Row S p (x :: xs) q)
    (hroom : total (span S) (x :: xs) < S) (hfits : ∀ y ∈ x :: xs, y.Fits S)
    (h : ∀ y ∈ x :: xs, y.Stored m) (hfuel : 2 * (x :: xs).length < fuel) :
    ∃ fuel' m', skipFlagged S flag q fuel p m = skipFlagged S flag q fuel' x.seat m' ∧
      2 * xs.length + 1 < fuel' ∧ (∀ y ∈ x :: xs, y.Stored m') ∧
      AgreeOn (fun a => ¬Within S x a) m m' := by
  have hx := hfits x List.mem_cons_self
  have hstart : x.start = p := hrow.1
  have hlt := hx.start_lt
  rw [List.length_cons] at hfuel
  cases hlead : x.lead with
  | false =>
    refine ⟨fuel, m, ?_, by omega, h, fun i _ => rfl⟩
    rw [← hstart, x.seat_of_not_lead hlead]
  | true =>
    obtain ⟨k, rfl⟩ : ∃ k, fuel = k + 1 := ⟨fuel - 1, by omega⟩
    have hstored := h x List.mem_cons_self
    have hle := hx.start_le
    have hagree : AgreeOn (fun a => ¬Within S x a) m
        (setItemFlags m x.start (itemFlags m x.start ||| flag)) := by
      intro i hi
      refine (setItemFlags_outside ?_).symm
      by_contra hin
      exact hi (hx.within_dummy hlead (by omega))
    refine ⟨k, _, ?_, by omega, ?_, hagree⟩
    · rw [← hstart]
      exact skipFlagged_dummy hS hstored hlead (start_ne_end hx hrow hroom)
    · intro y hy
      rcases List.mem_cons.mp hy with rfl | hmem
      · exact hstored.mark_dummy hx hlead hflag
      · exact stored_of_write (l := []) (by omega) hrow (Nat.le_of_lt hroom) hagree hmem
          (hfits y hy) (h y hy)

/-- **The loop along a row** that does not go all the way round. -/
theorem skipFlagged_row {p q n : Nat} {xs : List Parcel} (hS : S < 2 ^ 31)
    (hflag : flag < 2 ^ 32) (hrow : Row S p xs q) (hroom : total (span S) xs < S)
    (hfits : ∀ y ∈ xs, y.Fits S) (h : ∀ y ∈ xs, y.Stored m) (hfuel : 2 * xs.length < n) :
    ∃ p' m', skipFlagged S flag q n p m = some (p', m') ∧ Row S p' (settle flag xs) q ∧
      (∀ y ∈ xs, y.Stored m') ∧ AgreeOn (fun a => ∀ y ∈ xs, ¬Within S y a) m m' := by
  induction xs generalizing p m n with
  | nil =>
    obtain ⟨k, rfl⟩ : ∃ k, n = k + 1 := ⟨n - 1, by omega⟩
    obtain rfl : p = q := hrow
    exact ⟨p, m, skipFlagged_end p k, rfl, h, fun i _ => rfl⟩
  | cons x xs ih =>
    have hx := hfits x List.mem_cons_self
    obtain ⟨fuel', m1, hlead, hfuel', h1, hagree⟩ :=
      skipFlagged_lead hS hflag hrow hroom hfits h hfuel
    obtain ⟨k, rfl⟩ : ∃ k, fuel' = k + 1 := ⟨fuel' - 1, by omega⟩
    have hseated := row_seated hS hx hrow
    have hle := x.span_seated_le S
    rw [total_cons] at hroom
    have hstored := (h1 x List.mem_cons_self).seated
    have hlt := hx.start_lt
    rw [hrow.1] at hlt
    have hapart := List.pairwise_cons.mp
      (chain_apart hlt hrow (by rw [total_cons]; omega))
    rw [hlead]
    by_cases hpass : x.Passed flag
    · -- The item is passed: the rest is the loop along the rest of the row.
      have hne := start_ne_end hx.seated hseated (by rw [total_cons]; omega)
      obtain ⟨p', m', hrun, hrest, h', hagree'⟩ := ih hseated.2 (by omega)
        (fun y hy => hfits y (List.mem_cons_of_mem x hy))
        (fun y hy => h1 y (List.mem_cons_of_mem x hy)) (by omega : 2 * xs.length < k)
      refine ⟨p', m', ?_, ?_, ?_, ?_⟩
      · exact (skipFlagged_item hx.seated hS hstored rfl hpass hne).trans hrun
      · rwa [settle_cons_of_passed xs hpass]
      · intro y hy
        rcases List.mem_cons.mp hy with rfl | hmem
        · apply (h1 _ List.mem_cons_self).congr hx
          intro i hi
          exact hagree' i fun z hz hzi => hapart.1 z hz i hi hzi
        · exact h' y hmem
      · intro i hi
        rw [hagree i (hi x List.mem_cons_self),
          hagree' i fun y hy => hi y (List.mem_cons_of_mem x hy)]
    · refine ⟨x.seat, m1, skipFlagged_rest hstored rfl hpass, ?_, h1, ?_⟩
      · rwa [settle_cons_of_not_passed xs hpass]
      · intro i hi
        exact hagree i (hi x List.mem_cons_self)

end loop

end Lighting.Queue
