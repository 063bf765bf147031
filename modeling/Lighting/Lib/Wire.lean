import Lighting.Lib.CString

/-!
# Numbered fields in a byte string

The wire format of protocol buffers: a message is a list of fields, each a tag and a value. A
tag is the field's number and the kind of its value in one number; numbers are written seven bits
a byte, the lowest first; what is written with its length may be a text or a message again.

`readAll` reads a message without knowing what its numbers mean. `Spells s fs` says that `s` reads
as `fs` whatever follows it, so it is the notion to put messages together with: `Spells.append`
for two pieces, and one lemma for each kind of value. What a reader makes of a field is the last
value that has its number and its kind, and zero or nothing where there is none.
-/

set_option autoImplicit false

namespace Wire

open CString

/-! ## Reading -/

/-- A number at the head: seven bits a byte, and one bit that says there are more. -/
def readVarint : Bytes → Option (Nat × Bytes)
  | [] => none
  | b :: s =>
    if b.toNat < 128 then some (b.toNat, s)
    else (readVarint s).map fun (n, s) => (b.toNat - 128 + 128 * n, s)

/-- The number whose bytes these are, the lowest first. -/
def little : Bytes → Nat
  | [] => 0
  | b :: s => b.toNat + 256 * little s

inductive Value where
  | varint (n : Nat)
  | fixed64 (n : Nat)
  | bytes (content : Bytes)
  | fixed32 (n : Nat)
  deriving DecidableEq, Repr

structure Field where
  number : Nat
  value : Value
  deriving DecidableEq, Repr

def takeExactly (n : Nat) (s : Bytes) : Option (Bytes × Bytes) :=
  if n ≤ s.length then some (s.take n, s.drop n) else none

def readValue (kind : Nat) (s : Bytes) : Option (Value × Bytes) :=
  match kind with
  | 0 => (readVarint s).map fun (n, s) => (.varint n, s)
  | 1 => (takeExactly 8 s).map fun (b, s) => (.fixed64 (little b), s)
  | 2 => (readVarint s).bind fun (n, s) => (takeExactly n s).map fun (b, s) => (.bytes b, s)
  | 5 => (takeExactly 4 s).map fun (b, s) => (.fixed32 (little b), s)
  | _ => none

def readField (s : Bytes) : Option (Field × Bytes) :=
  (readVarint s).bind fun (tag, s) =>
    (readValue (tag % 8) s).map fun (value, s) => (⟨tag / 8, value⟩, s)

/-- Every field takes a byte at least, so the length will do as fuel. -/
def readFields : Nat → Bytes → Option (List Field)
  | _, [] => some []
  | 0, _ :: _ => none
  | fuel + 1, b :: s =>
    (readField (b :: s)).bind fun (f, s) => (readFields fuel s).map (f :: ·)

def readAll (s : Bytes) : Option (List Field) := readFields s.length s

section shortens

variable {s s' : Bytes}

theorem readVarint_lt {n : Nat} (h : readVarint s = some (n, s')) : s'.length < s.length := by
  induction s generalizing n with
  | nil => cases h
  | cons b s ih =>
    unfold readVarint at h
    split at h
    · cases h
      exact Nat.lt_succ_self _
    · obtain ⟨⟨m, s1⟩, hread, heq⟩ := Option.map_eq_some_iff.mp h
      cases heq
      exact Nat.lt_succ_of_lt (ih hread)

theorem takeExactly_le {n : Nat} {b : Bytes} (h : takeExactly n s = some (b, s')) :
    s'.length ≤ s.length := by
  unfold takeExactly at h
  split at h
  · cases h
    rw [List.length_drop]
    exact Nat.sub_le _ _
  · cases h

theorem readValue_le {kind : Nat} {v : Value} (h : readValue kind s = some (v, s')) :
    s'.length ≤ s.length := by
  unfold readValue at h
  split at h
  · obtain ⟨⟨n, s1⟩, hread, heq⟩ := Option.map_eq_some_iff.mp h
    cases heq
    exact Nat.le_of_lt (readVarint_lt hread)
  · obtain ⟨⟨b, s1⟩, hread, heq⟩ := Option.map_eq_some_iff.mp h
    cases heq
    exact takeExactly_le hread
  · obtain ⟨⟨n, s1⟩, hread, htake⟩ := Option.bind_eq_some_iff.mp h
    obtain ⟨⟨b, s2⟩, hread', heq⟩ := Option.map_eq_some_iff.mp htake
    cases heq
    exact Nat.le_trans (takeExactly_le hread') (Nat.le_of_lt (readVarint_lt hread))
  · obtain ⟨⟨b, s1⟩, hread, heq⟩ := Option.map_eq_some_iff.mp h
    cases heq
    exact takeExactly_le hread
  · cases h

theorem readField_lt {f : Field} (h : readField s = some (f, s')) : s'.length < s.length := by
  unfold readField at h
  obtain ⟨⟨tag, s1⟩, hread, hvalue⟩ := Option.bind_eq_some_iff.mp h
  obtain ⟨⟨v, s2⟩, hread', heq⟩ := Option.map_eq_some_iff.mp hvalue
  cases heq
  exact Nat.lt_of_le_of_lt (readValue_le hread') (readVarint_lt hread)

/-- Any fuel that is enough reads the same. -/
theorem readFields_fuel {fuel fuel' : Nat} (h : s.length ≤ fuel) (h' : s.length ≤ fuel') :
    readFields fuel s = readFields fuel' s := by
  induction fuel generalizing fuel' s with
  | zero =>
    cases s with
    | nil => cases fuel' <;> rfl
    | cons b s => exact absurd h (Nat.not_succ_le_zero _)
  | succ fuel ih =>
    cases s with
    | nil => cases fuel' <;> rfl
    | cons b s =>
      cases fuel' with
      | zero => exact absurd h' (Nat.not_succ_le_zero _)
      | succ fuel' =>
        unfold readFields
        cases hread : readField (b :: s) with
        | none => rfl
        | some p =>
          obtain ⟨f, s'⟩ := p
          have hlt : s'.length < s.length + 1 := readField_lt hread
          rw [List.length_cons] at h h'
          have hsame : readFields fuel s' = readFields fuel' s' := ih (by omega) (by omega)
          show Option.map _ (readFields fuel s') = Option.map _ (readFields fuel' s')
          rw [hsame]

theorem readAll_of_readField {f : Field} (h : readField s = some (f, s')) :
    readAll s = (readAll s').map (f :: ·) := by
  have hlt := readField_lt h
  cases s with
  | nil => exact absurd hlt (Nat.not_lt_zero _)
  | cons b s =>
    rw [List.length_cons] at hlt
    have hfuel : readFields s.length s' = readAll s' :=
      readFields_fuel (Nat.le_of_lt_succ hlt) (Nat.le_refl _)
    unfold readAll
    rw [List.length_cons, readFields, h, Option.bind_some]
    dsimp only
    rw [hfuel]
    rfl

end shortens

/-! ## What a string spells -/

/-- The string reads as the fields, whatever follows it. -/
def Spells (s : Bytes) (fs : List Field) : Prop :=
  ∀ rest, readAll (s ++ rest) = (readAll rest).map (fs ++ ·)

section spells

variable {s s' : Bytes} {fs fs' : List Field} {f : Field}

theorem Spells.readAll (h : Spells s fs) : Wire.readAll s = some fs := by
  have hread := h []
  rw [List.append_nil] at hread
  rw [hread]
  show some (fs ++ []) = some fs
  rw [List.append_nil]

theorem Spells.nil : Spells [] [] := by
  intro rest
  cases h : Wire.readAll rest with
  | none => exact h
  | some fs => exact h

theorem Spells.append (h : Spells s fs) (h' : Spells s' fs') : Spells (s ++ s') (fs ++ fs') := by
  intro rest
  rw [List.append_assoc, h, h', Option.map_map]
  congr 1
  funext l
  exact (List.append_assoc fs fs' l).symm

theorem Spells.field (h : ∀ rest, readField (s ++ rest) = some (f, rest)) : Spells s [f] := by
  intro rest
  rw [readAll_of_readField (h rest)]
  rfl

end spells

/-! ## Writing -/

/-- The bytes that read as a number. -/
def IsVarint (s : Bytes) (n : Nat) : Prop := ∀ rest, readVarint (s ++ rest) = some (n, rest)

section writing

variable {s tag content : Bytes} {n : Nat} {b : UInt8}

theorem IsVarint.last (h : b.toNat < 128) : IsVarint [b] b.toNat := by
  intro rest
  show readVarint (b :: rest) = _
  unfold readVarint
  rw [if_pos h]

/-- Seven bits, and the rest behind them. -/
theorem IsVarint.more (hb : b.toNat = n % 128 + 128) (hs : IsVarint s (n / 128)) :
    IsVarint (b :: s) n := by
  intro rest
  rw [List.cons_append, readVarint, if_neg (by omega), hs, hb, Nat.add_sub_cancel]
  show some (n % 128 + 128 * (n / 128), rest) = _
  rw [Nat.mod_add_div]

theorem takeExactly_append (content rest : Bytes) :
    takeExactly content.length (content ++ rest) = some (content, rest) := by
  have hle : content.length ≤ (content ++ rest).length := by
    rw [List.length_append]
    exact Nat.le_add_right _ _
  unfold takeExactly
  rw [if_pos hle, List.take_left, List.drop_left]

theorem readField_append (kind : Nat) {value : Value} (hn : kind < 8)
    (htag : IsVarint tag (8 * n + kind))
    (hvalue : ∀ rest, readValue kind (s ++ rest) = some (value, rest)) (rest : Bytes) :
    readField (tag ++ s ++ rest) = some (⟨n, value⟩, rest) := by
  have hkind : (8 * n + kind) % 8 = kind := by omega
  have hnumber : (8 * n + kind) / 8 = n := by omega
  unfold readField
  rw [List.append_assoc, htag, Option.bind_some]
  dsimp only
  rw [hkind, hnumber, hvalue]
  rfl

theorem Spells.varint {v : Nat} (htag : IsVarint tag (8 * n)) (hs : IsVarint s v) :
    Spells (tag ++ s) [⟨n, .varint v⟩] := by
  apply Spells.field
  apply readField_append 0 (by decide) htag
  intro rest
  show Option.map _ (readVarint (s ++ rest)) = _
  rw [hs]
  rfl

theorem Spells.fixed64 (htag : IsVarint tag (8 * n + 1)) (hs : s.length = 8) :
    Spells (tag ++ s) [⟨n, .fixed64 (little s)⟩] := by
  apply Spells.field
  apply readField_append 1 (by decide) htag
  intro rest
  show Option.map _ (takeExactly 8 (s ++ rest)) = _
  rw [← hs, takeExactly_append]
  rfl

theorem Spells.bytes (htag : IsVarint tag (8 * n + 2)) (hs : IsVarint s content.length) :
    Spells (tag ++ (s ++ content)) [⟨n, .bytes content⟩] := by
  apply Spells.field
  apply readField_append 2 (by decide) htag
  intro rest
  show Option.bind (readVarint (s ++ content ++ rest)) _ = _
  rw [List.append_assoc, hs, Option.bind_some]
  dsimp only
  rw [takeExactly_append]
  rfl

/-- The bytes of a number, a fixed number of them. -/
theorem little_range (k n : Nat) :
    little ((List.range k).map fun i => UInt8.ofNat (n >>> (8 * i))) = n % 256 ^ k := by
  induction k generalizing n with
  | zero =>
    show 0 = n % 1
    rw [Nat.mod_one]
  | succ k ih =>
    have hshift : ∀ i, n >>> (8 * (i + 1)) = (n / 256) >>> (8 * i) := by
      intro i
      rw [Nat.shiftRight_eq_div_pow, Nat.shiftRight_eq_div_pow, Nat.mul_succ, Nat.pow_add,
        Nat.mul_comm, ← Nat.div_div_eq_div_mul]
    have htail : ((List.range k).map Nat.succ).map (fun i => UInt8.ofNat (n >>> (8 * i))) =
        (List.range k).map fun i => UInt8.ofNat ((n / 256) >>> (8 * i)) := by
      rw [List.map_map]
      apply List.map_congr_left
      intro i _
      show UInt8.ofNat (n >>> (8 * (i + 1))) = _
      rw [hshift]
    have hpow : 256 ^ (k + 1) = 256 * 256 ^ k := by rw [Nat.pow_succ, Nat.mul_comm]
    rw [List.range_succ_eq_map, List.map_cons, htail, little, ih, UInt8.toNat_ofNat', hpow,
      Nat.mod_mul]
    rfl

end writing

/-! ## What a reader makes of the fields -/

/-- The value of the last field of a number. -/
def last (n : Nat) (fs : List Field) : Option Value :=
  (fs.filter fun f => f.number = n).getLast?.map Field.value

def getNat (n : Nat) (fs : List Field) : Nat :=
  match last n fs with
  | some (.varint v) => v
  | _ => 0

/-- The bits of a `double`. -/
def getDouble (n : Nat) (fs : List Field) : UInt64 :=
  match last n fs with
  | some (.fixed64 v) => UInt64.ofNat v
  | _ => 0

/-- The bits of a `float`. -/
def getFloat (n : Nat) (fs : List Field) : UInt32 :=
  match last n fs with
  | some (.fixed32 v) => UInt32.ofNat v
  | _ => 0

def getBytes (n : Nat) (fs : List Field) : Bytes :=
  match last n fs with
  | some (.bytes content) => content
  | _ => []

def getUint32 (n : Nat) (fs : List Field) : UInt32 := UInt32.ofNat (getNat n fs)

/-- The low 32 bits, with a sign. -/
def getInt32 (n : Nat) (fs : List Field) : Int := (getNat n fs : Int).bmod (2 ^ 32)

def getBool (n : Nat) (fs : List Field) : Bool := getNat n fs ≠ 0

/-- A message in a field, which may not be there, and has to be one if it is. -/
def getMessage {α : Type*} (read : List Field → Option α) (n : Nat) (fs : List Field) :
    Option (Option α) :=
  match last n fs with
  | some (.bytes content) => ((readAll content).bind read).map some
  | _ => some none

section absent

variable {n : Nat} {fs : List Field}

theorem getNat_none (h : last n fs = none) : getNat n fs = 0 := by
  unfold getNat
  rw [h]

theorem getUint32_none (h : last n fs = none) : getUint32 n fs = 0 := by
  unfold getUint32
  rw [getNat_none h]
  rfl

theorem getInt32_none (h : last n fs = none) : getInt32 n fs = 0 := by
  unfold getInt32
  rw [getNat_none h]
  exact Int.zero_bmod

theorem getFloat_none (h : last n fs = none) : getFloat n fs = 0 := by
  unfold getFloat
  rw [h]

theorem getBytes_none (h : last n fs = none) : getBytes n fs = [] := by
  unfold getBytes
  rw [h]

theorem getMessage_none {α : Type*} {read : List Field → Option α} (h : last n fs = none) :
    getMessage read n fs = some none := by
  unfold getMessage
  rw [h]

end absent

/-- A field that is left out where a condition holds. -/
def optional (p : Prop) [Decidable p] (f : Field) : List Field := if p then [] else [f]

section last

variable {n m : Nat} {v : Value} {fs fs' : List Field}

@[simp] theorem last_nil : last n [] = none := rfl

@[simp] theorem last_append : last n (fs ++ fs') = (last n fs').or (last n fs) := by
  unfold last
  rw [List.filter_append, List.getLast?_append]
  cases (fs'.filter fun f => f.number = n).getLast? <;> rfl

@[simp] theorem last_self : last n [⟨n, v⟩] = some v := by
  simp [last]

@[simp] theorem last_other (h : m ≠ n) : last n [⟨m, v⟩] = none := by
  simp [last, h]

variable {p : Prop} [Decidable p]

@[simp] theorem last_optional_self : last n (optional p ⟨n, v⟩) = if p then none else some v := by
  unfold optional
  split
  · rfl
  · exact last_self

@[simp] theorem last_optional_other (h : m ≠ n) : last n (optional p ⟨m, v⟩) = none := by
  unfold optional
  split
  · rfl
  · exact last_other h

theorem Spells.optional {s : Bytes} {f : Field} (h : ¬p → Spells s [f]) :
    Spells (if p then [] else s) (Wire.optional p f) := by
  unfold Wire.optional
  split
  · exact Spells.nil
  · rename_i hp
    exact h hp

end last

end Wire
