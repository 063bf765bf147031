import Mathlib.Algebra.GroupWithZero.Nat
import Mathlib.Algebra.Order.BigOperators.Group.List
import Mathlib.Algebra.Order.Group.Nat
import Mathlib.Data.List.Flatten

/-!
# Streams delivered in pieces

A sender hands over a sequence of wholes, some of which a receiver is to keep. A transport
cuts each whole into consecutive pieces, and the receiver keeps every piece that is not empty,
without putting pieces together. What it has in the end is the sequence of the non-empty
wholes it was to keep, exactly if no whole to be kept came in two non-empty pieces and every
other whole was empty (`solid_eq_wholes_iff`).

That nothing is dropped or repeated makes this exact: pieces that come to the same sequence
have the same total length, which leaves nothing for the wholes not to be kept, and the same
number, which leaves one for each of the others.
-/

set_option autoImplicit false

namespace Chunks

variable {α : Type*}

/-- A whole, whether it is to be kept, and the pieces it comes in. -/
structure Cut (α : Type*) where
  keep : Bool
  whole : List α
  pieces : List (List α)
  flatten_pieces : pieces.flatten = whole

/-- The pieces with something in them. -/
def solid (pieces : List (List α)) : List (List α) := pieces.filter (!·.isEmpty)

/-- A whole that is not spoilt on the way. -/
def Cut.Clean (c : Cut α) : Prop :=
  if c.keep then (solid c.pieces).length ≤ 1 else c.whole = []

/-- The wholes the receiver is to have. -/
def wholes (cs : List (Cut α)) : List (List α) :=
  (cs.filter fun c => c.keep && !c.whole.isEmpty).map Cut.whole

theorem solid_append (ps qs : List (List α)) : solid (ps ++ qs) = solid ps ++ solid qs :=
  List.filter_append ps qs

theorem solid_flatMap {β : Type*} (f : β → List (List α)) (bs : List β) :
    solid (bs.flatMap f) = bs.flatMap fun b => solid (f b) := by
  induction bs with
  | nil => rfl
  | cons b bs ih => rw [List.flatMap_cons, solid_append, ih, List.flatMap_cons]

theorem flatten_solid (ps : List (List α)) : (solid ps).flatten = ps.flatten := by
  induction ps with
  | nil => rfl
  | cons p ps ih =>
    cases p with
    | nil => simpa [solid] using ih
    | cons a p => simpa [solid] using ih

theorem solid_eq_nil_iff {ps : List (List α)} : solid ps = [] ↔ ps.flatten = [] := by
  simp [solid, List.flatten_eq_nil_iff]

/-- A whole in one non-empty piece is that piece. -/
theorem solid_eq_singleton {ps : List (List α)} (hle : (solid ps).length ≤ 1)
    (hne : ps.flatten ≠ []) : solid ps = [ps.flatten] := by
  have hpos : solid ps ≠ [] := fun h => hne (solid_eq_nil_iff.mp h)
  obtain ⟨p, hp⟩ := List.length_eq_one_iff.mp
    (Nat.le_antisymm hle (List.length_pos_iff.mpr hpos))
  rw [← flatten_solid, hp]
  simp

theorem wholes_cons (c : Cut α) (cs : List (Cut α)) :
    wholes (c :: cs) = wholes [c] ++ wholes cs := by
  unfold wholes
  rw [← List.map_append, ← List.filter_append, List.singleton_append]

/-- What a clean whole contributes is what it should. -/
theorem Cut.Clean.solid {c : Cut α} (h : c.Clean) : Chunks.solid c.pieces = wholes [c] := by
  obtain ⟨keep, whole, pieces, rfl⟩ := c
  by_cases hempty : pieces.flatten = []
  · rw [solid_eq_nil_iff.mpr hempty]
    simp [wholes, hempty]
  · cases keep with
    | false => exact absurd h hempty
    | true =>
      rw [solid_eq_singleton h hempty]
      simp [wholes, hempty]

/-- Two sums with the same total, one nowhere above the other, agree everywhere. -/
theorem eq_of_sum_eq {β : Type*} {f g : β → Nat} {bs : List β} (hle : ∀ b ∈ bs, f b ≤ g b)
    (hsum : (bs.map f).sum = (bs.map g).sum) : ∀ b ∈ bs, f b = g b := by
  intro b hb
  by_contra hne
  have hlt : f b < g b := Nat.lt_of_le_of_ne (hle b hb) hne
  exact absurd hsum (Nat.ne_of_lt (List.sum_lt_sum f g hle ⟨b, hb, hlt⟩))

theorem length_flatten_pieces (cs : List (Cut α)) :
    (cs.flatMap Cut.pieces).flatten.length = (cs.map fun c => c.whole.length).sum := by
  induction cs with
  | nil => rfl
  | cons c cs ih =>
    rw [List.flatMap_cons, List.flatten_append, List.length_append, ih, c.flatten_pieces,
      List.map_cons, List.sum_cons]

/-- How many elements, and how many pieces, the receiver is to have of a whole. -/
theorem length_flatten_wholes (cs : List (Cut α)) :
    (wholes cs).flatten.length =
      (cs.map fun c => if c.keep then c.whole.length else 0).sum := by
  induction cs with
  | nil => rfl
  | cons c cs ih =>
    rw [wholes_cons, List.flatten_append, List.length_append, ih, List.map_cons, List.sum_cons]
    congr 1
    obtain ⟨keep, whole, pieces, _⟩ := c
    cases keep <;> cases whole <;> simp [wholes]

theorem length_wholes (cs : List (Cut α)) :
    (wholes cs).length =
      (cs.map fun c => if c.keep && !c.whole.isEmpty then 1 else 0).sum := by
  induction cs with
  | nil => rfl
  | cons c cs ih =>
    rw [wholes_cons, List.length_append, ih, List.map_cons, List.sum_cons]
    congr 1
    unfold wholes
    split <;> simp_all

/-- **Pieces for wholes.** The non-empty pieces are the wholes to be kept exactly if every
whole is clean. -/
theorem solid_eq_wholes_iff (cs : List (Cut α)) :
    solid (cs.flatMap Cut.pieces) = wholes cs ↔ ∀ c ∈ cs, c.Clean := by
  constructor
  · intro heq
    -- The same elements in all: a whole that is not to be kept has none.
    have helements : ∀ c ∈ cs, (if c.keep then c.whole.length else 0) = c.whole.length := by
      refine eq_of_sum_eq (fun c _ => by split <;> omega) ?_
      rw [← length_flatten_wholes, ← heq, flatten_solid, length_flatten_pieces]
    -- The same number of pieces: a whole that is to be kept has one.
    have hpieces : ∀ c ∈ cs,
        (if c.keep && !c.whole.isEmpty then 1 else 0) = (solid c.pieces).length := by
      refine eq_of_sum_eq (fun c _ => ?_) ?_
      · split
        · rename_i hkeep
          rw [Nat.succ_le_iff, List.length_pos_iff]
          intro hnil
          rw [solid_eq_nil_iff, c.flatten_pieces] at hnil
          simp [hnil] at hkeep
        · exact Nat.zero_le _
      · rw [← length_wholes, ← heq, solid_flatMap, List.length_flatMap]
    intro c hc
    have hlength := helements c hc
    have hone := hpieces c hc
    unfold Cut.Clean
    split
    · rw [← hone]
      split <;> omega
    · rename_i hkeep
      rw [if_neg hkeep] at hlength
      exact List.length_eq_zero_iff.mp hlength.symm
  · intro hclean
    induction cs with
    | nil => rfl
    | cons c cs ih =>
      rw [List.flatMap_cons, solid_append, wholes_cons, (hclean c List.mem_cons_self).solid,
        ih fun d hd => hclean d (List.mem_cons_of_mem c hd)]

/-! ## Pieces that start with a marker -/

/-- No more pieces start with a marker than there are markers. -/
theorem marked_length_le [DecidableEq α] (marker : α) (pieces : List (List α)) :
    (pieces.filter (·.head? = some marker)).length ≤ pieces.flatten.count marker := by
  induction pieces with
  | nil => simp
  | cons p pieces ih =>
    rw [List.flatten_cons, List.count_append, List.filter_cons]
    split
    · rename_i hhead
      obtain ⟨q, rfl⟩ : ∃ q, p = marker :: q :=
        List.head?_eq_some_iff.mp (by simpa using hhead)
      rw [List.length_cons, List.count_cons_self]
      omega
    · omega

/-- A partial reading of some pieces comes to as many values as there are pieces only by
reading each of them. -/
theorem filterMap_eq_map_iff {β γ : Type*} {f : α → Option β} {g : γ → β} {as : List α} :
    ∀ {cs : List γ}, as.length ≤ cs.length →
      (as.filterMap f = cs.map g ↔ List.Forall₂ (fun c a => f a = some (g c)) cs as) := by
  induction as with
  | nil =>
    intro cs _
    simp [eq_comm]
  | cons a as ih =>
    intro cs hle
    cases hfa : f a with
    | none =>
      -- One value is missing for good.
      have hshort : (as.filterMap f).length ≤ as.length := List.length_filterMap_le f as
      rw [List.length_cons] at hle
      constructor
      · intro heq
        rw [List.filterMap_cons_none hfa] at heq
        have hlen := congrArg List.length heq
        rw [List.length_map] at hlen
        omega
      · intro h
        cases h with
        | cons hc _ => exact absurd (hfa.symm.trans hc) (Option.some_ne_none _).symm
    | some b =>
      rw [List.filterMap_cons_some hfa]
      cases cs with
      | nil => simp at hle
      | cons c cs =>
        have hrest : as.length ≤ cs.length := by simpa using hle
        rw [List.map_cons, List.cons.injEq, ih hrest, List.forall₂_cons, hfa, Option.some.injEq]

end Chunks
