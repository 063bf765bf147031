import Mathlib.Data.List.Basic
import Mathlib.Tactic.SplitIfs

/-!
# Closed arcs of a cycle, and the changes of a signal

Two small pieces of mathematics about periodic control.

*Arcs.* On a cycle of `n` points the closed arc from `S` to `E` is what one meets walking
forward from `S` up to and including `E`. `InArc` measures both `c` and `E` from `S` along the
cycle and compares the two distances; there is no case split in it, and it makes sense for any
three integers. `inArc_iff` says what the distance comparison is for points given by their
representatives in `[0, n)`: an interval when the arc does not pass the seam, and the
complement of an interval when it does.

*Changes.* `changes a l` keeps the values of `l` that differ from the value just before them,
the first one compared with `a`. It is what an observer of a signal is told who is told only
about changes.
-/

set_option autoImplicit false

namespace Cyclic

/-- `c` lies on the closed arc from `S` forward to `E` on a cycle of length `n`. -/
def InArc (n S E c : Int) : Prop := (c - S) % n ≤ (E - S) % n

instance (n S E c : Int) : Decidable (InArc n S E c) := by
  unfold InArc; infer_instance

/-- The distance from `S` forward to `c`, for representatives in `[0, n)`. -/
theorem forward_dist {n S c : Int} (hS : 0 ≤ S ∧ S < n) (hc : 0 ≤ c ∧ c < n) :
    (c - S) % n = if S ≤ c then c - S else c - S + n := by
  split
  · exact Int.emod_eq_of_lt (by omega) (by omega)
  · rw [← Int.add_emod_right, Int.emod_eq_of_lt (by omega) (by omega)]

/-- **An arc in representatives**: an interval if it does not pass the seam, a co-interval if
it does. -/
theorem inArc_iff {n S E c : Int} (hS : 0 ≤ S ∧ S < n) (hE : 0 ≤ E ∧ E < n)
    (hc : 0 ≤ c ∧ c < n) :
    InArc n S E c ↔ if S ≤ E then S ≤ c ∧ c ≤ E else S ≤ c ∨ c ≤ E := by
  unfold InArc
  rw [forward_dist hS hc, forward_dist hS hE]
  split_ifs <;> omega

variable {α : Type*} [DecidableEq α]

/-- The values of `l` that differ from their predecessor, the first compared with `a`. -/
def changes (a : α) (l : List α) : List α :=
  ((a :: l).zip l).filterMap fun p => if p.2 = p.1 then none else some p.2

@[simp] theorem changes_nil (a : α) : changes a ([] : List α) = [] := rfl

theorem changes_cons (a b : α) (l : List α) :
    changes a (b :: l) = if b = a then changes b l else b :: changes b l := by
  unfold changes
  rw [List.zip_cons_cons, List.filterMap_cons]
  by_cases h : b = a <;> simp [h]

/-- A signal observed in two stretches: the second starts from where the first left it. -/
theorem changes_append (a : α) (l l' : List α) :
    changes a (l ++ l') = changes a l ++ changes (l.getLastD a) l' := by
  induction l generalizing a with
  | nil => rfl
  | cons b l ih =>
    rw [List.cons_append, changes_cons, changes_cons, ih b, List.getLastD_cons]
    split
    · rfl
    · rfl

end Cyclic
