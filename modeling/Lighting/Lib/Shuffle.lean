import Mathlib.Data.List.Basic
import Mathlib.Data.List.TakeWhile
import Lighting.Lib.Runs

/-!
# Interleavings, and the last write

Two sequential programs whose operations are atomic run as one of the shuffles of their
operations. What a register holds at the end of a shuffle is what the last operation that
writes it wrote; and what that operation wrote depends on what it read, in the state it found.

`earlier m w` are the operations of `m` before `w`, so `x ∈ earlier m w` is the order of a
shuffle and `after step s (earlier m w)` is the state `w` finds. `final_last` is the value of a
register at the end of a list that has a last operation on it, `final_two` the case of two
writers; applied to `earlier m v` they say what `v` reads.

The order is total on the operations of a shuffle (`earlier_total`), it is the order of each
program on that program's operations (`Shuffle.earlier_left`, `Shuffle.earlier_right`), and it
composes (`earlier_trans`).
-/

set_option autoImplicit false

namespace Shuffles

variable {α : Type*}

/-- `m` is an interleaving of `l` and `r`. -/
inductive Shuffle : List α → List α → List α → Prop where
  | nil : Shuffle [] [] []
  | left {a : α} {l r m : List α} (h : Shuffle l r m) : Shuffle (a :: l) r (a :: m)
  | right {b : α} {l r m : List α} (h : Shuffle l r m) : Shuffle l (b :: r) (b :: m)

theorem Shuffle.perm {l r m : List α} (h : Shuffle l r m) : m.Perm (l ++ r) := by
  induction h with
  | nil => exact .refl _
  | left h ih => exact ih.cons _
  | right h ih => exact (ih.cons _).trans List.perm_middle.symm

theorem Shuffle.symm {l r m : List α} (h : Shuffle l r m) : Shuffle r l m := by
  induction h with
  | nil => exact .nil
  | left h ih => exact .right ih
  | right h ih => exact .left ih

/-- Operations that do not touch a register leave it as it was. -/
theorem after_keeps {σ V : Type*} {step : α → σ → σ} {f : σ → V} {m : List α}
    (h : ∀ x ∈ m, ∀ s, f (step x s) = f s) (s : σ) : f (Runs.after step s m) = f s := by
  induction m generalizing s with
  | nil => rfl
  | cons a m ih =>
    rw [Runs.after_cons, ih (fun x hx => h x (List.mem_cons_of_mem a hx)),
      h a List.mem_cons_self]

/-! ## The order of a list -/

section order

variable [DecidableEq α]

/-- What comes before (the first) `w`. -/
def earlier (m : List α) (w : α) : List α := m.takeWhile fun x => x ≠ w

theorem earlier_cons_of_ne {m : List α} {a w : α} (h : a ≠ w) :
    earlier (a :: m) w = a :: earlier m w := by
  simp [earlier, h]

theorem earlier_cons_self (m : List α) (w : α) : earlier (w :: m) w = [] := by
  simp [earlier]

theorem mem_of_mem_earlier {m : List α} {x w : α} (h : x ∈ earlier m w) : x ∈ m :=
  (List.takeWhile_sublist _).subset h

/-- A list is what comes before `w`, then `w`, then the rest. -/
theorem exists_rest {m : List α} {w : α} (h : w ∈ m) :
    ∃ rest, m = earlier m w ++ w :: rest := by
  induction m with
  | nil => exact absurd h (by simp)
  | cons a m ih =>
    by_cases haw : a = w
    · exact ⟨m, by rw [haw, earlier_cons_self]; rfl⟩
    · have hm : w ∈ m := (List.mem_cons.mp h).resolve_left (Ne.symm haw)
      obtain ⟨rest, hrest⟩ := ih hm
      refine ⟨rest, ?_⟩
      rw [earlier_cons_of_ne haw, List.cons_append, ← hrest]

theorem earlier_total {m : List α} {x w : α} (hx : x ∈ m) (hw : w ∈ m) (hne : x ≠ w) :
    x ∈ earlier m w ∨ w ∈ earlier m x := by
  induction m with
  | nil => exact absurd hx (by simp)
  | cons a m ih =>
    by_cases hax : a = x
    · left
      rw [earlier_cons_of_ne (by rw [hax]; exact hne), hax]
      exact List.mem_cons_self
    · by_cases haw : a = w
      · right
        rw [earlier_cons_of_ne hax, haw]
        exact List.mem_cons_self
      · have hxm : x ∈ m := (List.mem_cons.mp hx).resolve_left (Ne.symm hax)
        have hwm : w ∈ m := (List.mem_cons.mp hw).resolve_left (Ne.symm haw)
        rw [earlier_cons_of_ne haw, earlier_cons_of_ne hax]
        exact (ih hxm hwm).imp (List.mem_cons_of_mem a) (List.mem_cons_of_mem a)

theorem earlier_asymm {m : List α} {x w : α} (h : x ∈ earlier m w) : w ∉ earlier m x := by
  induction m with
  | nil => exact absurd h (by simp [earlier])
  | cons a m ih =>
    intro h'
    by_cases haw : a = w
    · rw [haw, earlier_cons_self] at h
      exact absurd h (by simp)
    · by_cases hax : a = x
      · rw [hax, earlier_cons_self] at h'
        exact absurd h' (by simp)
      · rw [earlier_cons_of_ne haw] at h
        rw [earlier_cons_of_ne hax] at h'
        exact ih ((List.mem_cons.mp h).resolve_left (Ne.symm hax))
          ((List.mem_cons.mp h').resolve_left (Ne.symm haw))

theorem mem_earlier_iff {m : List α} {x w : α} (hx : x ∈ m) (hw : w ∈ m) (hne : x ≠ w) :
    x ∈ earlier m w ↔ w ∉ earlier m x :=
  ⟨earlier_asymm, fun h => (earlier_total hx hw hne).resolve_right h⟩

/-- Looking back from `x` one sees the same from any later point. -/
theorem earlier_earlier {m : List α} {x w : α} (h : x ∈ earlier m w) :
    earlier (earlier m w) x = earlier m x := by
  induction m with
  | nil => exact absurd h (by simp [earlier])
  | cons a m ih =>
    by_cases haw : a = w
    · rw [haw, earlier_cons_self] at h
      exact absurd h (by simp)
    · rw [earlier_cons_of_ne haw] at h ⊢
      by_cases hax : a = x
      · rw [hax, earlier_cons_self, earlier_cons_self]
      · rw [earlier_cons_of_ne hax, earlier_cons_of_ne hax,
          ih ((List.mem_cons.mp h).resolve_left (Ne.symm hax))]

theorem earlier_trans {m : List α} {x y z : α} (h : x ∈ earlier m y) (h' : y ∈ earlier m z) :
    x ∈ earlier m z := by
  rw [← earlier_earlier h'] at h
  exact mem_of_mem_earlier h

/-- The order of the first program. -/
theorem Shuffle.earlier_left {l r m : List α} (h : Shuffle l r m) {x y : α}
    (hxy : x ∈ earlier l y) (hy : y ∉ r) : x ∈ earlier m y := by
  induction h with
  | nil => exact hxy
  | @left a l r m h ih =>
    by_cases hay : a = y
    · rw [hay, earlier_cons_self] at hxy
      exact absurd hxy (by simp)
    · rw [earlier_cons_of_ne hay] at hxy ⊢
      rcases List.mem_cons.mp hxy with rfl | hxy
      · exact List.mem_cons_self
      · exact List.mem_cons_of_mem _ (ih hxy hy)
  | @right b l r m h ih =>
    rw [List.mem_cons, not_or] at hy
    rw [earlier_cons_of_ne (Ne.symm hy.1)]
    exact List.mem_cons_of_mem _ (ih hxy hy.2)

/-- The order of the second program. -/
theorem Shuffle.earlier_right {l r m : List α} (h : Shuffle l r m) {x y : α}
    (hxy : x ∈ earlier r y) (hy : y ∉ l) : x ∈ earlier m y :=
  h.symm.earlier_left hxy hy

/-! ## Registers -/

variable {σ V : Type*} (step : α → σ → σ) {f : σ → V}

/-- **The last write.** A register ends with what `w` made of it, if nothing after `w` touches
it. -/
theorem final_last {m : List α} (hnd : m.Nodup) {w : α} (hw : w ∈ m)
    (hkeep : ∀ x ∈ m, x ≠ w → x ∉ earlier m w → ∀ s, f (step x s) = f s) (s : σ) :
    f (Runs.after step s m) = f (step w (Runs.after step s (earlier m w))) := by
  obtain ⟨rest, hrest⟩ := exists_rest hw
  have hnd' : (earlier m w ++ w :: rest).Nodup := hrest ▸ hnd
  have hkeep' : ∀ x ∈ rest, ∀ s, f (step x s) = f s := by
    intro x hx
    have hxm : x ∈ m := by
      rw [hrest]
      exact List.mem_append_right _ (List.mem_cons_of_mem w hx)
    refine hkeep x hxm ?_ fun hxe => ?_
    · rintro rfl
      exact (List.nodup_cons.mp (List.nodup_append.mp hnd').2.1).1 hx
    · exact (List.nodup_append.mp hnd').2.2 x hxe x (List.mem_cons_of_mem w hx) rfl
  have hsplit : Runs.after step s m =
      Runs.after step (step w (Runs.after step s (earlier m w))) rest := by
    rw [← Runs.after_cons, ← Runs.after_append, ← hrest]
  rw [hsplit, after_keeps hkeep']

/-- A register with two writers ends with what the later of them made of it. -/
theorem final_two {m : List α} (hnd : m.Nodup) {x y : α} (hx : x ∈ m) (hy : y ∈ m) (hne : x ≠ y)
    (hkeep : ∀ c, c ≠ x → c ≠ y → ∀ s, f (step c s) = f s) (s : σ) :
    f (Runs.after step s m) =
      if x ∈ earlier m y then f (step y (Runs.after step s (earlier m y)))
      else f (step x (Runs.after step s (earlier m x))) := by
  split
  case isTrue hxy =>
    exact final_last step hnd hy (fun c _ hcy hce => hkeep c (fun hcx => hce (hcx ▸ hxy)) hcy) s
  case isFalse hxy =>
    have hyx : y ∈ earlier m x := (mem_earlier_iff hy hx (Ne.symm hne)).mpr hxy
    exact final_last step hnd hx (fun c _ hcx hce => hkeep c hcx fun hcy => hce (hcy ▸ hyx)) s

theorem earlier_nodup {m : List α} (h : m.Nodup) (w : α) : (earlier m w).Nodup :=
  h.sublist (List.takeWhile_sublist _)

end order

end Shuffles
