import Mathlib.Algebra.Order.Group.Int
import Mathlib.Data.List.Basic

/-!
# The places of marks in a list

Some elements of a list are marked. A queue of their places can be kept beside the list instead:
an element that is appended and marked adds its place to the end of the queue, and when `d` elements
are taken from the front every place goes down by `d`, and those that fall below 0 are left out
(`lower_places`).
-/

set_option autoImplicit false

namespace Marks

variable {α : Type*}

/-- The places of the marked elements, counted from `k`. -/
def places : ℤ → List (α × Bool) → List ℤ
  | _, [] => []
  | k, (_, marked) :: xs => if marked then k :: places (k + 1) xs else places (k + 1) xs

theorem places_append (xs ys : List (α × Bool)) :
    ∀ k, places k (xs ++ ys) = places k xs ++ places (k + xs.length) ys := by
  induction xs with
  | nil =>
    intro k
    simp [places]
  | cons x xs ih =>
    intro k
    obtain ⟨a, marked⟩ := x
    have hlength : k + 1 + (xs.length : ℤ) = k + ((a, marked) :: xs).length := by
      rw [List.length_cons]
      omega
    cases marked with
    | true => simp only [List.cons_append, places, ih, hlength, if_true]
    | false => simp only [List.cons_append, places, ih, hlength, Bool.false_eq_true, if_false]

/-- A list without marks. -/
def unmarked (as : List α) : List (α × Bool) := as.map fun a => (a, false)

@[simp] theorem map_fst_unmarked (as : List α) : (unmarked as).map Prod.fst = as := by
  unfold unmarked
  rw [List.map_map]
  exact List.map_id as

@[simp] theorem length_unmarked (as : List α) : (unmarked as).length = as.length :=
  List.length_map _

theorem notMem_unmarked (a : α) (as : List α) : (a, true) ∉ unmarked as := by
  simp [unmarked]

theorem places_unmarked (as : List α) : ∀ k, places k (unmarked as) = [] := by
  induction as with
  | nil => intro k; rfl
  | cons a as ih => intro k; exact ih (k + 1)

theorem places_singleton (k : ℤ) (a : α) (marked : Bool) :
    places k [(a, marked)] = if marked then [k] else [] := rfl

theorem mem_places {xs : List (α × Bool)} {p : ℤ} :
    ∀ {k}, p ∈ places k xs → k ≤ p ∧ p < k + xs.length := by
  induction xs with
  | nil =>
    intro k h
    cases h
  | cons x xs ih =>
    intro k h
    obtain ⟨a, marked⟩ := x
    rw [List.length_cons]
    cases marked with
    | true =>
      rcases List.mem_cons.mp h with rfl | h
      · omega
      · have := ih h
        omega
    | false =>
      have := ih h
      omega

theorem places_take_drop {xs : List (α × Bool)} {d : ℕ} (hd : d ≤ xs.length) :
    places 0 xs = places 0 (xs.take d) ++ places d (xs.drop d) := by
  have happend := places_append (xs.take d) (xs.drop d) 0
  rwa [List.take_append_drop, List.length_take_of_le hd, zero_add] at happend

/-- The first mark. -/
theorem places_cons {xs : List (α × Bool)} {p : ℤ} {rest : List ℤ} :
    ∀ {k}, places k xs = p :: rest → ∃ front a back, xs = front ++ (a, true) :: back ∧
      places k front = [] ∧ p = k + front.length ∧ rest = places (p + 1) back := by
  induction xs with
  | nil =>
    intro k h
    cases h
  | cons x xs ih =>
    intro k h
    obtain ⟨a, marked⟩ := x
    cases marked with
    | true =>
      obtain ⟨hp, hrest⟩ := List.cons.inj h
      subst hp
      exact ⟨[], a, xs, rfl, rfl, by simp, hrest.symm⟩
    | false =>
      obtain ⟨front, b, back, rfl, hfront, hp, hrest⟩ := ih h
      refine ⟨(a, false) :: front, b, back, rfl, hfront, ?_, hrest⟩
      rw [hp, List.length_cons]
      omega

/-! ## Taking from the front -/

/-- The places go down, and one that falls below 0 is left out with those before it. -/
def lower (d : ℤ) (ps : List ℤ) : List ℤ :=
  ps.foldl (fun kept p => if p - d < 0 then [] else kept ++ [p - d]) []

theorem foldl_below (d : ℤ) (ps : List ℤ) (h : ∀ p ∈ ps, p < d) :
    ps.foldl (fun kept p => if p - d < 0 then [] else kept ++ [p - d]) [] = [] := by
  induction ps with
  | nil => rfl
  | cons p ps ih =>
    obtain ⟨hp, hps⟩ := List.forall_mem_cons.mp h
    rw [List.foldl_cons, if_pos (by omega)]
    exact ih hps

theorem foldl_above (d : ℤ) (xs : List (α × Bool)) : ∀ k kept, d ≤ k →
    (places k xs).foldl (fun kept p => if p - d < 0 then [] else kept ++ [p - d]) kept =
      kept ++ places (k - d) xs := by
  induction xs with
  | nil =>
    intro k kept _
    exact (List.append_nil kept).symm
  | cons x xs ih =>
    intro k kept hk
    obtain ⟨a, marked⟩ := x
    have hnext : k + 1 - d = k - d + 1 := by omega
    cases marked with
    | true =>
      show List.foldl _ (if k - d < 0 then [] else kept ++ [k - d]) (places (k + 1) xs) = _
      rw [if_neg (by omega), ih (k + 1) _ (by omega), hnext, List.append_assoc]
      rfl
    | false =>
      show List.foldl _ kept (places (k + 1) xs) = kept ++ places (k - d + 1) xs
      rw [ih (k + 1) kept (by omega), hnext]

/-- **Taking from the front.** -/
theorem lower_places (xs : List (α × Bool)) {d : ℕ} (hd : d ≤ xs.length) :
    lower d (places 0 xs) = places 0 (xs.drop d) := by
  have hbelow : ∀ p ∈ places 0 (xs.take d), p < (d : ℤ) := by
    intro p hp
    have hlt := (mem_places hp).2
    rw [List.length_take_of_le hd, zero_add] at hlt
    exact hlt
  unfold lower
  rw [places_take_drop hd, List.foldl_append, foldl_below d _ hbelow,
    foldl_above d _ d [] (le_refl _), List.nil_append, sub_self]

/-- No mark is left where all were in front. -/
theorem places_drop_eq_nil_iff {xs : List (α × Bool)} {d : ℕ} (hd : d ≤ xs.length) :
    places 0 (xs.drop d) = [] ↔ ∀ p ∈ places 0 xs, p < (d : ℤ) := by
  have hshift : ∀ (ys : List (α × Bool)) (j k : ℤ), places j ys = [] → places k ys = [] := by
    intro ys
    induction ys with
    | nil => exact fun _ _ _ => rfl
    | cons y ys ih =>
      obtain ⟨a, marked⟩ := y
      cases marked with
      | true => exact fun _ _ h => absurd h (List.cons_ne_nil _ _)
      | false => exact fun j k h => ih (j + 1) (k + 1) h
  rw [places_take_drop hd]
  constructor
  · intro hnone p hp
    rw [hshift _ 0 d hnone, List.append_nil] at hp
    have hlt := (mem_places hp).2
    rw [List.length_take_of_le hd, zero_add] at hlt
    exact hlt
  · intro hbelow
    apply hshift _ d 0
    rw [List.eq_nil_iff_forall_not_mem]
    intro p hp
    have hge := (mem_places hp).1
    have hlt := hbelow p (List.mem_append_right _ hp)
    omega

end Marks
