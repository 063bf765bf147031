import Mathlib.Algebra.Group.Int.Defs
import Mathlib.Algebra.Group.Nat.Defs
import Mathlib.Data.List.Basic

/-!
# Byte strings as a C program reads them

The three library calls a small text protocol is parsed with: `memcmp` against a literal,
`sscanf` with literal characters and `%d`, and the end of a string at its first NUL.

`sscanf` answers the list of the integers it converted, in order. It stops at the first
directive that does not match, so a short list is a failed match, and the variables beyond
its length keep what they held: `assigned` says so for one variable. `%d` is `strtol` in base
10 — leading white space, one optional sign, at least one digit — and saturates at the ends
of a 32-bit `int`.
-/

set_option autoImplicit false

namespace CString

/-- Memory contents, lowest address first. -/
abbrev Bytes := List UInt8

def ascii (cs : List Char) : Bytes := cs.map fun c => UInt8.ofNat c.toNat

/-- `memcmp(data, key, length of key) == 0`. -/
def memcmpEq (data key : Bytes) : Bool := data.take key.length == key

/-- What lies beyond the key is not compared. -/
theorem memcmpEq_append {data beyond key : Bytes} (h : key.length ≤ data.length) :
    memcmpEq (data ++ beyond) key = memcmpEq data key := by
  unfold memcmpEq
  rw [List.take_append_of_le_length h]

theorem memcmpEq_iff {data key : Bytes} : memcmpEq data key = true ↔ key <+: data := by
  unfold memcmpEq
  rw [beq_iff_eq, List.prefix_iff_eq_take, eq_comm]

/-- Memory does not start with two keys neither of which starts with the other. -/
theorem memcmpEq_excl {data k : Bytes} (k' : Bytes) (hapart : ¬k <+: k' ∧ ¬k' <+: k)
    (h : memcmpEq data k = true) : memcmpEq data k' = false := by
  rw [Bool.eq_false_iff]
  intro h'
  rw [memcmpEq_iff] at h h'
  rcases List.prefix_or_prefix_of_prefix h h' with hpre | hpre
  · exact hapart.1 hpre
  · exact hapart.2 hpre

/-- The C string at the head of memory: everything before the first NUL. -/
def cstr (data : Bytes) : Bytes := data.takeWhile (· ≠ 0)

def commaByte : UInt8 := 0x2c

def isSpace (b : UInt8) : Bool := b == 0x20 || (0x09 ≤ b && b ≤ 0x0d)

def isDigit (b : UInt8) : Bool := 0x30 ≤ b && b ≤ 0x39

/-- The value of a digit string, most significant digit first. -/
def decimal (ds : Bytes) : Nat := ds.foldl (fun n d => 10 * n + (d.toNat - 0x30)) 0

/-- `strtol` saturates. -/
def saturate (v : Int) : Int := max (-2 ^ 31) (min (2 ^ 31 - 1) v)

/-- An optional sign: whether it was `-`, and what follows it. -/
def scanSign : Bytes → Bool × Bytes
  | [] => (false, [])
  | b :: s => if b = 0x2d then (true, s) else if b = 0x2b then (false, s) else (false, b :: s)

/-- One `%d`: the value converted and the rest of the input, or a matching failure. -/
def scanInt (s : Bytes) : Option (Int × Bytes) :=
  let (negative, body) := scanSign (s.dropWhile isSpace)
  let digits := body.takeWhile isDigit
  if digits = [] then none
  else
    let v : Int := decimal digits
    some (saturate (if negative then -v else v), body.dropWhile isDigit)

/-- What a format string is made of here. -/
inductive Directive where
  | lit (b : UInt8)
  | int
  deriving DecidableEq, Repr

/-- The directives of a run of literal characters. -/
def lits (cs : List Char) : List Directive := (ascii cs).map .lit

/-- The conversions of a format on an input, up to the first failure. -/
def scan : List Directive → Bytes → List Int
  | [], _ => []
  | .lit _ :: _, [] => []
  | .lit b :: f, c :: s => if c = b then scan f s else []
  | .int :: f, s =>
    match scanInt s with
    | some (v, s') => v :: scan f s'
    | none => []

/-- `sscanf` on the C string at the head of memory. -/
def sscanf (data : Bytes) (format : List Directive) : List Int := scan format (cstr data)

/-! ## Text that matches -/

theorem memcmpEq_append_self (key s : Bytes) : memcmpEq (key ++ s) key = true := by
  unfold memcmpEq
  rw [List.take_left, beq_self_eq_true]

/-- A key that is found starts the way memory does. -/
theorem head?_of_memcmpEq {data key : Bytes} (h : memcmpEq data key = true) {b : UInt8}
    (hb : key.head? = some b) : data.head? = some b := by
  unfold memcmpEq at h
  rw [beq_iff_eq] at h
  rw [← h] at hb
  cases data with
  | nil => simp at hb
  | cons c data =>
    cases hn : key.length with
    | zero => simp [hn] at hb
    | succ n => simpa [hn] using hb

/-- A string without a NUL is part of what is read. -/
theorem cstr_append {s rest : Bytes} (h : (0 : UInt8) ∉ s) : cstr (s ++ rest) = s ++ cstr rest := by
  unfold cstr
  rw [List.takeWhile_append_of_pos]
  intro b hb
  simp only [ne_eq, decide_not, Bool.not_eq_eq_eq_not, Bool.not_true, decide_eq_false_iff_not]
  rintro rfl
  exact h hb

theorem scan_lits (cs : List Char) (f : List Directive) (s : Bytes) :
    scan (lits cs ++ f) (ascii cs ++ s) = scan f s := by
  induction cs with
  | nil => rfl
  | cons c cs ih =>
    show scan (.lit (UInt8.ofNat c.toNat) :: (lits cs ++ f))
      (UInt8.ofNat c.toNat :: (ascii cs ++ s)) = scan f s
    rw [scan, if_pos rfl, ih]

/-- A number as it is written: digits, and an `int` holds it. -/
structure Numeral where
  digits : Bytes
  digits_ne : digits ≠ []
  isDigit_of_mem : ∀ b ∈ digits, isDigit b = true
  decimal_lt : decimal digits < 2 ^ 31

def Numeral.value (n : Numeral) : Int := decimal n.digits

theorem isDigit_ne {b : UInt8} (h : isDigit b = true) :
    b ≠ 0 ∧ b ≠ 0x2d ∧ b ≠ 0x2b ∧ b ≠ 0x40 ∧ isSpace b = false := by
  have hlow : 0x30 ≤ b.toNat := by
    simp only [isDigit, Bool.and_eq_true, decide_eq_true_eq, UInt8.le_iff_toNat_le] at h
    exact h.1
  have hne : ∀ c : UInt8, c.toNat < 0x30 → b ≠ c := by
    rintro c hc rfl
    omega
  refine ⟨hne 0 (by decide), hne 0x2d (by decide), hne 0x2b (by decide), ?_, ?_⟩
  · rintro rfl
    exact absurd h (by decide)
  · have hspace : ¬b ≤ 0x0d := by
      rw [UInt8.le_iff_toNat_le]
      have : (0x0d : UInt8).toNat = 13 := rfl
      omega
    simp [isSpace, hne 0x20 (by decide), hspace]

theorem scanInt_numeral (n : Numeral) {b : UInt8} (hb : isDigit b = false) (s : Bytes) :
    scanInt (n.digits ++ b :: s) = some (n.value, b :: s) := by
  obtain ⟨digits, hne, hall, hlt⟩ := n
  have htake : (digits ++ b :: s).takeWhile isDigit = digits := by
    rw [List.takeWhile_append_of_pos hall, List.takeWhile_cons_of_neg (by simp [hb]),
      List.append_nil]
  have hdrop : (digits ++ b :: s).dropWhile isDigit = b :: s := by
    rw [List.dropWhile_append_of_pos hall, List.dropWhile_cons_of_neg (by simp [hb])]
  have hsign : scanSign ((digits ++ b :: s).dropWhile isSpace) = (false, digits ++ b :: s) := by
    cases digits with
    | nil => exact absurd rfl hne
    | cons d ds =>
      have hd := isDigit_ne (hall d List.mem_cons_self)
      rw [List.cons_append, List.dropWhile_cons_of_neg (by simp [hd.2.2.2.2]), scanSign,
        if_neg hd.2.1, if_neg hd.2.2.1]
  have hsaturate : saturate (decimal digits) = decimal digits := by
    unfold saturate
    omega
  unfold scanInt
  rw [hsign]
  dsimp only
  rw [htake, hdrop, if_neg hne]
  simp [hsaturate, Numeral.value]

theorem scan_numeral (n : Numeral) {b : UInt8} (hb : isDigit b = false) (f : List Directive)
    (s : Bytes) : scan (.int :: f) (n.digits ++ b :: s) = n.value :: scan f (b :: s) := by
  rw [scan, scanInt_numeral n hb]

/-- A variable after `sscanf`: its conversion if there was one, else what it held before. -/
def assigned (values : List Int) (k : Nat) (before : Int) : Int := values.getD k before

end CString
