import Mathlib.Data.List.Basic

/-!
# Retrying, and keeping the last answer

A retry of at most `n` attempts ends at the first one that answers. `first` is the answer and
`tries` the number of attempts made. `latest` is what a register holds that takes every answer
and starts at a default.
-/

set_option autoImplicit false

namespace Retry

variable {α : Type*}

/-- The answer of the first of `n` attempts that has one. -/
def first (f : Nat → Option α) (n : Nat) : Option α := (List.range n).findSome? f

/-- The attempts made: up to the first answer, and at most `n`. -/
def tries (f : Nat → Option α) (n : Nat) : Nat :=
  min n ((List.range n).findIdx (fun i => (f i).isSome) + 1)

theorem first_succ (f : Nat → Option α) (n : Nat) :
    first f (n + 1) = (f 0).or (first (fun i => f (i + 1)) n) := by
  unfold first
  rw [List.range_succ_eq_map, List.findSome?_cons]
  cases f 0 with
  | none =>
    rw [List.findSome?_map]
    rfl
  | some a => rfl

theorem tries_succ_of_some (f : Nat → Option α) (n : Nat) {a : α} (h : f 0 = some a) :
    tries f (n + 1) = 1 := by
  unfold tries
  rw [List.range_succ_eq_map, List.findIdx_cons, h]
  exact Nat.min_eq_right (Nat.le_add_left 1 n)

theorem tries_succ_of_none (f : Nat → Option α) (n : Nat) (h : f 0 = none) :
    tries f (n + 1) = tries (fun i => f (i + 1)) n + 1 := by
  unfold tries
  rw [List.range_succ_eq_map, List.findIdx_cons, h, List.findIdx_map]
  simp only [Option.isSome_none, cond_false]
  exact Nat.succ_min_succ n _

/-- The last answer there was, `d` if there was none. -/
def latest (d : α) (answers : List (Option α)) : α := (answers.filterMap id).getLastD d

theorem latest_concat (d : α) (answers : List (Option α)) (a : Option α) :
    latest d (answers ++ [a]) = a.getD (latest d answers) := by
  unfold latest
  rw [List.filterMap_append]
  cases a with
  | none => simp
  | some v => simp

end Retry
