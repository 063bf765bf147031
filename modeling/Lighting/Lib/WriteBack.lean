import Mathlib.Data.List.Basic

/-!
# Storage that writes back later

One key of a store that promises durability only after an explicit flush. A `Cell` is what
the medium holds and the changes that were accepted since, oldest first: a value each, or an
erasure. Nothing flushes here: at a crash the medium may have taken over any number of the
accepted changes, in order, and the rest are gone.

`survivor_put` is the fact everything else rests on: a crash after one more change either
finds that change on the medium or finds what some crash before it would have found. Hence
`forall_survivor_write` — a property that is to hold after *every* crash has to hold of the new
value and of every old survivor — and `All`, the values a cell can ever come back with.
-/

set_option autoImplicit false

namespace WriteBack

variable {β : Type*}

/-- What the medium holds, and the accepted changes it may not have taken over yet. -/
structure Cell (β : Type*) where
  durable : Option β
  pending : List (Option β)
  deriving Repr, DecidableEq

namespace Cell

def settled (b : Option β) : Cell β := ⟨b, []⟩

/-- An accepted change. -/
def put (c : Cell β) (b : Option β) : Cell β := { c with pending := c.pending ++ [b] }

def write (c : Cell β) (b : β) : Cell β := c.put (some b)

def erase (c : Cell β) : Cell β := c.put none

/-- What a read answers while the power stays on: the latest accepted change. -/
def read (c : Cell β) : Option β := c.pending.getLast?.getD c.durable

/-- What the medium holds after a crash that found the first `k` accepted changes done. -/
def survivor (c : Cell β) (k : Nat) : Option β := (c.pending.take k).getLast?.getD c.durable

/-- The cell after such a crash. -/
def crash (c : Cell β) (k : Nat) : Cell β := settled (c.survivor k)

@[simp] theorem read_settled (b : Option β) : (settled b).read = b := by
  simp [settled, read]

@[simp] theorem read_put (c : Cell β) (b : Option β) : (c.put b).read = b := by
  simp [read, put]

@[simp] theorem read_write (c : Cell β) (b : β) : (c.write b).read = some b := read_put c (some b)

@[simp] theorem read_crash (c : Cell β) (k : Nat) : (c.crash k).read = c.survivor k :=
  read_settled _

theorem survivor_put_of_le {c : Cell β} {b : Option β} {k : Nat} (h : k ≤ c.pending.length) :
    (c.put b).survivor k = c.survivor k := by
  simp [survivor, put, List.take_append_of_le_length h]

theorem survivor_put_of_lt {c : Cell β} {b : Option β} {k : Nat} (h : c.pending.length < k) :
    (c.put b).survivor k = b := by
  have hk : (c.put b).pending.length ≤ k := by simp [put]; omega
  rw [survivor, List.take_of_length_le hk]
  simp [put]

/-- A crash finds the last change, or what it would have found without it. -/
theorem survivor_put (c : Cell β) (b : Option β) (k : Nat) :
    (c.put b).survivor k = b ∨ (c.put b).survivor k = c.survivor k := by
  rcases Nat.lt_or_ge c.pending.length k with h | h
  · exact Or.inl (survivor_put_of_lt h)
  · exact Or.inr (survivor_put_of_le h)

/-- **Surviving every crash**: the new value and every old survivor must have the property. -/
theorem forall_survivor_write {c : Cell β} {b : β} {P : Option β → Prop} :
    (∀ k, P ((c.write b).survivor k)) ↔ P (some b) ∧ ∀ k, P (c.survivor k) := by
  constructor
  · intro h
    refine ⟨?_, fun k => ?_⟩
    · have := h (c.pending.length + 1)
      rwa [write, survivor_put_of_lt (Nat.lt_succ_self _)] at this
    · have := h (min k c.pending.length)
      rw [write, survivor_put_of_le (Nat.min_le_right _ _)] at this
      rcases Nat.le_total k c.pending.length with hk | hk
      · rwa [Nat.min_eq_left hk] at this
      · rw [Nat.min_eq_right hk] at this
        simpa [survivor, List.take_of_length_le hk] using this
  · rintro ⟨hb, hold⟩ k
    rcases survivor_put c (some b) k with h | h
    · rw [write, h]; exact hb
    · rw [write, h]; exact hold k

/-- Every value the cell holds, on the medium or on its way there, has the property. -/
def All (P : β → Prop) (c : Cell β) : Prop :=
  (∀ b, c.durable = some b → P b) ∧ ∀ b, some b ∈ c.pending → P b

theorem All.settled {P : β → Prop} {b : Option β} (h : ∀ x, b = some x → P x) :
    All P (settled b) :=
  ⟨h, fun _ hx => absurd hx (by simp [Cell.settled])⟩

theorem All.put {P : β → Prop} {c : Cell β} {b : Option β} (h : All P c)
    (hb : ∀ x, b = some x → P x) : All P (c.put b) := by
  refine ⟨h.1, fun x hx => ?_⟩
  rcases List.mem_append.mp hx with hx | hx
  · exact h.2 x hx
  · exact hb x (List.mem_singleton.mp hx).symm

theorem All.write {P : β → Prop} {c : Cell β} {b : β} (h : All P c) (hb : P b) :
    All P (c.write b) :=
  h.put fun _ hx => Option.some.inj hx ▸ hb

theorem All.erase {P : β → Prop} {c : Cell β} (h : All P c) : All P c.erase :=
  h.put fun _ hx => absurd hx (by simp)

theorem All.survivor {P : β → Prop} {c : Cell β} (h : All P c) {k : Nat} {b : β}
    (hb : c.survivor k = some b) : P b := by
  unfold Cell.survivor at hb
  cases hl : (c.pending.take k).getLast? with
  | none => rw [hl] at hb; exact h.1 b (by simpa using hb)
  | some x =>
    rw [hl, Option.getD_some] at hb
    rw [hb] at hl
    exact h.2 b (List.mem_of_mem_take (List.mem_of_getLast? hl))

theorem All.crash {P : β → Prop} {c : Cell β} (h : All P c) (k : Nat) : All P (c.crash k) :=
  .settled fun _ hb => h.survivor hb

theorem All.read {P : β → Prop} {c : Cell β} (h : All P c) {b : β} (hb : c.read = some b) :
    P b := by
  have hs : c.survivor c.pending.length = some b := by
    rw [Cell.survivor, List.take_length]; exact hb
  exact h.survivor hs

end Cell

end WriteBack
