import Mathlib.Data.List.Basic

/-!
# Arcs laid one after the other on a circle

A circle of `S` positions and a list of arcs, each beginning where the one before it ends. As
long as they are no longer than the circle together they do not overlap: `chain_apart`. An arc
is known by its first position and its length, and `ahead S p a` is how far one goes from `p`
to `a`.
-/

set_option autoImplicit false

namespace Arcs

variable {S p q a n : Nat}

def ahead (S p a : Nat) : Nat := if p ≤ a then a - p else a + S - p

/-- The position `n` steps on. -/
def advance (S p n : Nat) : Nat := if p + n < S then p + n else p + n - S

theorem advance_of_lt (h : p + n < S) : advance S p n = p + n := if_pos h

theorem advance_of_le (h : S ≤ p + n) : advance S p n = p + n - S := if_neg (by omega)

theorem advance_lt (hp : p < S) (hn : n ≤ S) : advance S p n < S := by
  unfold advance
  split <;> omega

theorem advance_advance {m : Nat} (hp : p < S) (hnm : n + m ≤ S) :
    advance S (advance S p n) m = advance S p (n + m) := by
  unfold advance
  split <;> split <;> split <;> omega

/-- A way that goes by `advance S p n`. -/
theorem ahead_advance (hp : p < S) (ha : a < S)
    (h : ahead S (advance S p n) a + n < S) :
    ahead S p a = n + ahead S (advance S p n) a := by
  unfold ahead at h ⊢
  by_cases hpn : p + n < S
  · rw [advance_of_lt hpn] at h ⊢
    split at h <;> split <;> omega
  · rw [advance_of_le (by omega)] at h ⊢
    split at h <;> split <;> omega

/-- Coming round to where one started takes no step or the whole circle. -/
theorem advance_eq_self (hp : p < S) (hn : n ≤ S) :
    advance S p n = p ↔ n = 0 ∨ n = S := by
  unfold advance
  split <;> omega

section chain

variable {α : Type*} (start span : α → Nat)

/-- The arcs of a list, from `p` to `q`. -/
def Chain (S : Nat) : Nat → List α → Nat → Prop
  | p, [], q => p = q
  | p, x :: xs, q => start x = p ∧ Chain S (advance S p (span x)) xs q

/-- How long they are together. -/
def total : List α → Nat
  | [] => 0
  | x :: xs => span x + total xs

/-- A position of an arc. -/
def Lies (S : Nat) (x : α) (a : Nat) : Prop := a < S ∧ ahead S (start x) a < span x

@[simp] theorem total_nil : total span ([] : List α) = 0 := rfl

@[simp] theorem total_cons (x : α) (xs : List α) :
    total span (x :: xs) = span x + total span xs := rfl

@[simp] theorem total_append (xs ys : List α) :
    total span (xs ++ ys) = total span xs + total span ys := by
  induction xs with
  | nil => exact (Nat.zero_add _).symm
  | cons x xs ih => rw [List.cons_append, total_cons, total_cons, ih, Nat.add_assoc]

variable {start span} {xs ys : List α}

@[simp] theorem chain_nil : Chain start span S p [] q ↔ p = q := Iff.rfl

theorem chain_cons {x : α} : Chain start span S p (x :: xs) q ↔
    start x = p ∧ Chain start span S (advance S p (span x)) xs q := Iff.rfl

/-- Where a chain ends. -/
theorem chain_end (hp : p < S) (h : Chain start span S p xs q) (hroom : total span xs ≤ S) :
    q = advance S p (total span xs) := by
  induction xs generalizing p with
  | nil =>
    rw [chain_nil] at h
    rw [← h, total_nil, eq_comm, advance_eq_self hp (by omega)]
    exact .inl rfl
  | cons x xs ih =>
    rw [total_cons] at hroom ⊢
    rw [ih (advance_lt hp (by omega)) h.2 (by omega), advance_advance hp (by omega)]

theorem chain_append : Chain start span S p (xs ++ ys) q ↔
    ∃ r, Chain start span S p xs r ∧ Chain start span S r ys q := by
  induction xs generalizing p with
  | nil => simp
  | cons x xs ih =>
    rw [List.cons_append, chain_cons, ih]
    constructor
    · intro h
      obtain ⟨hx, r, hxs, hys⟩ := h
      exact ⟨r, ⟨hx, hxs⟩, hys⟩
    · intro h
      obtain ⟨r, ⟨hx, hxs⟩, hys⟩ := h
      exact ⟨hx, r, hxs, hys⟩

/-- A position of an arc of the chain is met within the chain. -/
theorem ahead_lt_total (hp : p < S) (h : Chain start span S p xs q) (hroom : total span xs ≤ S)
    {x : α} (hx : x ∈ xs) (ha : Lies start span S x a) : ahead S p a < total span xs := by
  induction xs generalizing p with
  | nil => exact absurd hx List.not_mem_nil
  | cons y ys ih =>
    rw [total_cons] at hroom ⊢
    obtain ⟨hy, hys⟩ := h
    rcases List.mem_cons.mp hx with rfl | hmem
    · obtain ⟨-, hlt⟩ := ha
      rw [hy] at hlt
      omega
    · have hlater := ih (advance_lt hp (by omega)) hys (by omega) hmem
      rw [ahead_advance hp ha.1 (n := span y) (by omega)]
      omega

/-- **Arcs of a chain do not overlap.** -/
theorem chain_apart (hp : p < S) (h : Chain start span S p xs q) (hroom : total span xs ≤ S) :
    xs.Pairwise fun x y => ∀ a, Lies start span S x a → ¬Lies start span S y a := by
  induction xs generalizing p with
  | nil => exact .nil
  | cons x xs ih =>
    rw [total_cons] at hroom
    obtain ⟨hx, hxs⟩ := h
    refine .cons ?_ (ih (advance_lt hp (by omega)) hxs (by omega))
    intro y hy a hxa hya
    have hlater := ahead_lt_total (advance_lt hp (by omega)) hxs (by omega) hy hya
    have hfar := ahead_advance hp hxa.1 (n := span x) (by omega)
    have hnear := hxa.2
    rw [hx] at hnear
    omega

end chain

end Arcs
