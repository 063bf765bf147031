import Lighting.Lib.CString
import Mathlib.Algebra.Group.Nat.Defs
import Mathlib.Data.List.Range
import Mathlib.Data.Nat.Bitwise

/-!
# Memory as bytes, words in it little-endian

An address holds a byte; `load32` and `store32` are the four bytes of a word, lowest first, and
`copyIn` is `memcpy`. What a write leaves alone is said by addresses: `copyIn_outside` for one
byte, `AgreeOn` for a set of them, and every reading is a function of the addresses it reads.
-/

set_option autoImplicit false

namespace ByteMemory

structure Mem where
  byte : Nat → UInt8

/-- `memcpy(m + a, bs, length of bs)`. -/
def copyIn (m : Mem) (a : Nat) (bs : List UInt8) : Mem :=
  ⟨fun i => if a ≤ i then bs.getD (i - a) (m.byte i) else m.byte i⟩

/-- The `n` bytes from address `a` on. -/
def bytesAt (m : Mem) (a n : Nat) : List UInt8 := (List.range n).map fun i => m.byte (a + i)

def load32 (m : Mem) (a : Nat) : Nat :=
  (m.byte a).toNat + 2 ^ 8 * (m.byte (a + 1)).toNat + 2 ^ 16 * (m.byte (a + 2)).toNat +
    2 ^ 24 * (m.byte (a + 3)).toNat

/-- The bytes of a word, lowest first. -/
def wordBytes (v : Nat) : List UInt8 :=
  [UInt8.ofNat v, UInt8.ofNat (v / 2 ^ 8), UInt8.ofNat (v / 2 ^ 16), UInt8.ofNat (v / 2 ^ 24)]

def store32 (m : Mem) (a v : Nat) : Mem := copyIn m a (wordBytes v)

/-- Two memories with the same bytes at every address of a set. -/
def AgreeOn (A : Nat → Prop) (m m' : Mem) : Prop := ∀ i, A i → m.byte i = m'.byte i

theorem copyIn_outside {m : Mem} {a i : Nat} {bs : List UInt8}
    (h : i < a ∨ a + bs.length ≤ i) : (copyIn m a bs).byte i = m.byte i := by
  unfold copyIn
  dsimp only
  split
  · rw [List.getD_eq_default]
    omega
  · rfl

theorem copyIn_inside {m : Mem} {a k : Nat} {b : List UInt8} (h : k < b.length) :
    (copyIn m a b).byte (a + k) = b[k] := by
  unfold copyIn
  dsimp only
  rw [if_pos (by omega), Nat.add_sub_cancel_left, List.getD_eq_getElem _ _ h]

/-- What is written reads back. -/
theorem bytesAt_copyIn (m : Mem) (a : Nat) (bs : List UInt8) :
    bytesAt (copyIn m a bs) a bs.length = bs := by
  unfold bytesAt
  apply List.ext_getElem
  · simp
  · intro k hk hk'
    rw [List.getElem_map, List.getElem_range]
    exact copyIn_inside hk'

theorem bytesAt_congr {m m' : Mem} {a n : Nat}
    (h : AgreeOn (fun i => a ≤ i ∧ i < a + n) m m') : bytesAt m a n = bytesAt m' a n := by
  unfold bytesAt
  apply List.map_congr_left
  intro k hk
  rw [List.mem_range] at hk
  exact h (a + k) ⟨by omega, by omega⟩

theorem load32_congr {m m' : Mem} {a : Nat}
    (h : AgreeOn (fun i => a ≤ i ∧ i < a + 4) m m') : load32 m a = load32 m' a := by
  unfold load32
  rw [h a ⟨by omega, by omega⟩, h (a + 1) ⟨by omega, by omega⟩, h (a + 2) ⟨by omega, by omega⟩,
    h (a + 3) ⟨by omega, by omega⟩]

theorem length_wordBytes (v : Nat) : (wordBytes v).length = 4 := rfl

theorem store32_outside {m : Mem} {a v i : Nat} (h : i < a ∨ a + 4 ≤ i) :
    (store32 m a v).byte i = m.byte i :=
  copyIn_outside (by rw [length_wordBytes]; exact h)

/-- A word that fits its four bytes reads back. -/
theorem load32_store32 (m : Mem) (a : Nat) {v : Nat} (h : v < 2 ^ 32) :
    load32 (store32 m a v) a = v := by
  have h0 : (store32 m a v).byte a = UInt8.ofNat v :=
    copyIn_inside (k := 0) (b := wordBytes v) (by rw [length_wordBytes]; omega)
  have h1 : (store32 m a v).byte (a + 1) = UInt8.ofNat (v / 2 ^ 8) :=
    copyIn_inside (k := 1) (b := wordBytes v) (by rw [length_wordBytes]; omega)
  have h2 : (store32 m a v).byte (a + 2) = UInt8.ofNat (v / 2 ^ 16) :=
    copyIn_inside (k := 2) (b := wordBytes v) (by rw [length_wordBytes]; omega)
  have h3 : (store32 m a v).byte (a + 3) = UInt8.ofNat (v / 2 ^ 24) :=
    copyIn_inside (k := 3) (b := wordBytes v) (by rw [length_wordBytes]; omega)
  unfold load32
  rw [h0, h1, h2, h3]
  simp only [UInt8.toNat_ofNat']
  omega

theorem load32_store32_of_disjoint {m : Mem} {a b v : Nat} (h : b + 4 ≤ a ∨ a + 4 ≤ b) :
    load32 (store32 m a v) b = load32 m b := by
  apply load32_congr
  intro i hi
  exact store32_outside (by omega)

/-! ## Strings in memory -/

/-- The string in the `n` bytes from `a` on. -/
def textAt (m : Mem) (a n : Nat) : List UInt8 := CString.cstr (bytesAt m a n)

/-- It ends within them. -/
def EndsWithin (m : Mem) (a n : Nat) : Prop := ∃ k, k < n ∧ m.byte (a + k) = 0

theorem bytesAt_add (m : Mem) (a n k : Nat) :
    bytesAt m a (n + k) = bytesAt m a n ++ bytesAt m (a + n) k := by
  unfold bytesAt
  rw [List.range_add, List.map_append, List.map_map]
  congr 1
  apply List.map_congr_left
  intro i _
  rw [Function.comp_apply, Nat.add_assoc]

/-- A string is known by its bytes and the zero behind them. -/
theorem textAt_eq {m : Mem} {a n : Nat} {s : List UInt8} (hnul : (0 : UInt8) ∉ s)
    (hlen : s.length < n) (hbytes : bytesAt m a s.length = s) (hend : m.byte (a + s.length) = 0) :
    textAt m a n = s := by
  obtain ⟨k, rfl⟩ : ∃ k, n = s.length + (k + 1) := ⟨n - s.length - 1, by omega⟩
  have hrest : bytesAt m (a + s.length) (k + 1) = 0 :: bytesAt m (a + s.length + 1) k := by
    rw [Nat.add_comm k 1, bytesAt_add]
    show m.byte (a + s.length + 0) :: _ = _
    rw [Nat.add_zero, hend]
    rfl
  unfold textAt
  rw [bytesAt_add, hbytes, CString.cstr_append hnul, hrest]
  simp [CString.cstr]

theorem textAt_congr {m m' : Mem} {a n : Nat}
    (h : AgreeOn (fun i => a ≤ i ∧ i < a + n) m m') : textAt m a n = textAt m' a n := by
  unfold textAt
  rw [bytesAt_congr h]

end ByteMemory
