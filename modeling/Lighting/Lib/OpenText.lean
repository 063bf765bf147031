import Lighting.Lib.CString

/-!
# Numbers between commas, in a text that may go on

`readInto` is what `sscanf` with a format of numbers, each followed by a comma, leaves in a
list of variables. The text it runs on is the front of a memory of which only the beginning is
meant, so the question is which texts say everything by themselves: which numbers come out
whatever stands behind the text.

`Settled` decides it for the numbers as such. A text that goes on may turn a last `7` into
`70`, so the last number has to be ended by something or to be beyond the range of an `int`
already (`readInto_settled`, `undecided_of_not_settled`). `SettledWithin` decides it for numbers
that are thrown away together if one of them is above its bound, and where a variable that is
not assigned holds anything (`decidedWithin_of_settled`, `undecidedWithin_of_not_settled`).
`TooLarge` says of one text when they are thrown away (`exceeds_readOn_iff`).
-/

set_option autoImplicit false

namespace CString

/-! ## Keys -/

/-- A text that does not end inside a key has it or not. -/
theorem memcmpEq_append_of_whole {data key : Bytes} (h : data <+: key → data = key) (t : Bytes) :
    memcmpEq (data ++ t) key = memcmpEq data key := by
  by_cases hlen : key.length ≤ data.length
  · exact memcmpEq_append hlen
  · rw [Bool.eq_iff_iff, memcmpEq_iff, memcmpEq_iff]
    refine ⟨fun hkey => ?_, fun hkey => hkey.trans (List.prefix_append data t)⟩
    have hpre : data <+: key :=
      List.prefix_of_prefix_length_le (List.prefix_append data t) hkey (by omega)
    exact absurd (congrArg List.length (h hpre)) (by omega)

/-- A NUL inside a key spoils it. -/
theorem memcmpEq_nul {data key : Bytes} (hkey : (0 : UInt8) ∉ key)
    (hlen : data.length < key.length) (z : Bytes) : memcmpEq (data ++ 0 :: z) key = false := by
  rw [Bool.eq_false_iff]
  intro hfound
  have hpre : data ++ [0] <+: key := by
    apply List.prefix_of_prefix_length_le _ (memcmpEq_iff.mp hfound)
    · simpa using Nat.succ_le_of_lt hlen
    · exact ⟨z, by simp⟩
  exact hkey (hpre.subset (by simp))

/-! ## One number -/

/-- Where a text has a number: whether there is a minus, the digits, and what follows. -/
structure NumberText where
  negative : Bool
  digits : Bytes
  rest : Bytes

def numberText (s : Bytes) : NumberText :=
  let (negative, body) := scanSign (s.dropWhile isSpace)
  ⟨negative, body.takeWhile isDigit, body.dropWhile isDigit⟩

def NumberText.value (n : NumberText) : Int :=
  saturate (if n.negative then -decimal n.digits else decimal n.digits)

theorem scanInt_eq (s : Bytes) :
    scanInt s =
      if (numberText s).digits = [] then none
      else some ((numberText s).value, (numberText s).rest) := rfl

/-- Behind white space and sign, a text is digits and what follows them. -/
theorem numberText_visible {s : Bytes} (h : s.dropWhile isSpace ≠ []) :
    ∃ negative body,
      numberText s = ⟨negative, body.takeWhile isDigit, body.dropWhile isDigit⟩ ∧
      ∀ t, numberText (s ++ t) =
        ⟨negative, (body ++ t).takeWhile isDigit, (body ++ t).dropWhile isDigit⟩ := by
  refine ⟨(scanSign (s.dropWhile isSpace)).1, (scanSign (s.dropWhile isSpace)).2, rfl, ?_⟩
  intro t
  have hdrop : (s ++ t).dropWhile isSpace = s.dropWhile isSpace ++ t := by
    rw [List.dropWhile_append, if_neg (by simpa using h)]
  unfold numberText
  rw [hdrop]
  cases hbody : s.dropWhile isSpace with
  | nil => exact absurd hbody h
  | cons b body =>
    have hsign : scanSign (b :: body ++ t) =
        ((scanSign (b :: body)).1, (scanSign (b :: body)).2 ++ t) := by
      simp only [List.cons_append, scanSign]
      split
      · rfl
      · split <;> rfl
    rw [hsign]

/-- Text behind what follows a number is none of the number's business. -/
theorem numberText_append {s : Bytes} (h : (numberText s).rest ≠ []) (t : Bytes) :
    numberText (s ++ t) =
      { numberText s with rest := (numberText s).rest ++ t } := by
  have hspace : s.dropWhile isSpace ≠ [] := by
    intro hnil
    simp [numberText, hnil, scanSign] at h
  obtain ⟨negative, body, hs, hst⟩ := numberText_visible hspace
  rw [hs] at h ⊢
  rw [hst]
  have hall : ¬(body.takeWhile isDigit).length = body.length := by
    intro hlen
    have hsplit := congrArg List.length (@List.takeWhile_append_dropWhile _ isDigit body)
    rw [List.length_append, hlen, Nat.add_eq_left] at hsplit
    exact h (List.length_eq_zero_iff.mp hsplit)
  rw [List.takeWhile_append, if_neg hall, List.dropWhile_append, if_neg (by simpa using h)]

/-- A text that ends in a number, or where one may start, goes on with digits. -/
theorem numberText_open {s : Bytes} (h : (numberText s).rest = []) {t : Bytes}
    (ht : (numberText s).digits ≠ [] ∨ ∃ b t', t = b :: t' ∧ isDigit b = true) :
    numberText (s ++ t) =
      { negative := (numberText s).negative
        digits := (numberText s).digits ++ t.takeWhile isDigit
        rest := t.dropWhile isDigit } := by
  by_cases hspace : s.dropWhile isSpace = []
  · -- Nothing but white space so far.
    have hs : numberText s = ⟨false, [], []⟩ := by simp [numberText, hspace, scanSign]
    obtain ⟨b, t', rfl, hb⟩ := ht.resolve_left (fun hne => hne (by rw [hs]))
    have hb' := isDigit_ne hb
    have hdrop : (s ++ b :: t').dropWhile isSpace = b :: t' := by
      rw [List.dropWhile_append, hspace]
      exact List.dropWhile_cons_of_neg (by simp [hb'.2.2.2.2])
    have hsign : scanSign (b :: t') = (false, b :: t') := by
      rw [scanSign, if_neg hb'.2.1, if_neg hb'.2.2.1]
    have hst : numberText (s ++ b :: t') =
        ⟨false, (b :: t').takeWhile isDigit, (b :: t').dropWhile isDigit⟩ := by
      unfold numberText
      rw [hdrop, hsign]
    rw [hst, hs, List.nil_append]
  · obtain ⟨negative, body, hs, hst⟩ := numberText_visible hspace
    rw [hs] at h ⊢
    rw [hst]
    have hall : body.takeWhile isDigit = body := by
      have hsplit := @List.takeWhile_append_dropWhile _ isDigit body
      rwa [show body.dropWhile isDigit = [] from h, List.append_nil] at hsplit
    have hnone : body.dropWhile isDigit = [] := h
    rw [List.takeWhile_append, hall, if_pos rfl, List.dropWhile_append, hnone]
    rfl

/-- A NUL ends it. -/
theorem numberText_stop {s : Bytes} (h : (numberText s).rest = []) (z : Bytes) :
    numberText (s ++ 0 :: z) = { numberText s with rest := 0 :: z } := by
  by_cases hspace : s.dropWhile isSpace = []
  · have hs : numberText s = ⟨false, [], []⟩ := by simp [numberText, hspace, scanSign]
    have hdrop : (s ++ 0 :: z).dropWhile isSpace = 0 :: z := by
      rw [List.dropWhile_append, hspace]
      rfl
    rw [hs]
    unfold numberText
    rw [hdrop]
    rfl
  · obtain ⟨negative, body, hs, hst⟩ := numberText_visible hspace
    rw [hs] at h ⊢
    rw [hst]
    have hnone : body.dropWhile isDigit = [] := h
    have hall : body.takeWhile isDigit = body := by
      have hsplit := @List.takeWhile_append_dropWhile _ isDigit body
      rwa [hnone, List.append_nil] at hsplit
    have hzero : (0 :: z).takeWhile isDigit = [] ∧ (0 :: z).dropWhile isDigit = 0 :: z :=
      ⟨rfl, rfl⟩
    rw [List.takeWhile_append, hall, if_pos rfl, List.dropWhile_append, hnone, hzero.1, hzero.2,
      List.append_nil]
    rfl

/-- A NUL behind a text changes no number of it. -/
theorem numberText_nul (s z : Bytes) :
    numberText (s ++ 0 :: z) =
      { numberText s with rest := (numberText s).rest ++ 0 :: z } := by
  by_cases hrest : (numberText s).rest = []
  · rw [numberText_stop hrest, hrest]
    rfl
  · exact numberText_append hrest (0 :: z)

/-! ## Values that no digit changes -/

theorem decimal_append (ds es : Bytes) :
    decimal (ds ++ es) = es.foldl (fun n d => 10 * n + (d.toNat - 0x30)) (decimal ds) :=
  List.foldl_append

theorem decimal_le_append (ds es : Bytes) : decimal ds ≤ decimal (ds ++ es) := by
  rw [decimal_append]
  generalize decimal ds = n
  induction es generalizing n with
  | nil => exact Nat.le_refl _
  | cons e es ih =>
    rw [List.foldl_cons]
    exact Nat.le_trans (by omega) (ih _)

/-- The number is at the end of the range of an `int`, and stays there. -/
def NumberText.Saturated (n : NumberText) : Prop :=
  (if n.negative then 2 ^ 31 else 2 ^ 31 - 1) ≤ decimal n.digits

theorem NumberText.value_saturated {n : NumberText} (h : n.Saturated) (es rest : Bytes) :
    NumberText.value ⟨n.negative, n.digits ++ es, rest⟩ = n.value := by
  have hle := decimal_le_append n.digits es
  unfold Saturated at h
  unfold value saturate
  dsimp only
  split at h
  · rename_i hneg
    simp only [hneg, if_true]
    omega
  · rename_i hneg
    simp only [hneg, Bool.false_eq_true, if_false]
    omega

/-- Digits only make a number without a minus larger. -/
theorem NumberText.lt_value {n : NumberText} (hpos : n.negative = false) {b : Int}
    (habove : b < decimal n.digits) (hb : b < 2 ^ 31 - 1) (es rest : Bytes) :
    b < NumberText.value ⟨n.negative, n.digits ++ es, rest⟩ := by
  have hle := decimal_le_append n.digits es
  unfold value saturate
  dsimp only
  rw [hpos, if_neg Bool.false_ne_true]
  omega

/-- Below it one more digit makes a difference. -/
theorem NumberText.value_nine {n : NumberText} (h : ¬n.Saturated) (rest : Bytes) :
    NumberText.value ⟨n.negative, n.digits ++ [0x39], rest⟩ ≠ n.value := by
  have hnine : decimal (n.digits ++ [0x39]) = 10 * decimal n.digits + 9 := by
    rw [decimal_append]
    rfl
  unfold Saturated at h
  unfold value saturate
  dsimp only
  rw [hnine]
  split at h
  · rename_i hneg
    simp only [hneg, if_true]
    omega
  · rename_i hneg
    simp only [hneg, Bool.false_eq_true, if_false]
    omega

/-! ## Numbers, each with a comma behind it -/

/-- Variables after numbers have been read into them, up to the first that is not there. -/
def readInto : List Int → Bytes → List Int
  | [], _ => []
  | x :: xs, s =>
    match scanInt s with
    | none => x :: xs
    | some (v, rest) =>
      v :: match rest with
        | [] => xs
        | c :: rest => if c = commaByte then readInto xs rest else xs

/-- What follows a number: a comma and the next ones. -/
def readOn (xs : List Int) : Bytes → List Int
  | [] => xs
  | c :: rest => if c = commaByte then readInto xs rest else xs

theorem readInto_cons (x : Int) (xs : List Int) (s : Bytes) :
    readInto (x :: xs) s =
      if (numberText s).digits = [] then x :: xs
      else (numberText s).value :: readOn xs (numberText s).rest := by
  rw [readInto, scanInt_eq]
  by_cases h : (numberText s).digits = []
  · rw [if_pos h, if_pos h]
  · rw [if_neg h, if_neg h]
    cases (numberText s).rest <;> rfl

theorem readInto_none {s : Bytes} (h : (numberText s).digits = []) (xs : List Int) :
    readInto xs s = xs := by
  cases xs with
  | nil => rfl
  | cons x xs => rw [readInto_cons, if_pos h]

theorem readInto_some {s : Bytes} (h : (numberText s).digits ≠ []) (x : Int) (xs : List Int) :
    readInto (x :: xs) s = (numberText s).value :: readOn xs (numberText s).rest := by
  rw [readInto_cons, if_neg h]

theorem readOn_comma (xs : List Int) (s : Bytes) :
    readOn xs (commaByte :: s) = readInto xs s := by
  rw [readOn, if_pos rfl]

theorem readOn_ne {c : UInt8} (hc : c ≠ commaByte) (xs : List Int) (s : Bytes) :
    readOn xs (c :: s) = xs := by
  rw [readOn, if_neg hc]

/-- A number ended by a comma leaves what follows to the next one. -/
theorem readInto_comma {s rest : Bytes} (hdigits : (numberText s).digits ≠ [])
    (hrest : (numberText s).rest = commaByte :: rest) (x : Int) (xs : List Int) (t : Bytes) :
    readInto (x :: xs) (s ++ t) = (numberText s).value :: readInto xs (rest ++ t) := by
  have happend := numberText_append (s := s) (by simp [hrest]) t
  rw [readInto_some (by rw [happend]; exact hdigits), happend, hrest]
  show (numberText s).value :: readOn xs (commaByte :: (rest ++ t)) = _
  rw [readOn_comma]

theorem readOn_nil (s : Bytes) : readOn [] s = [] := by
  cases s with
  | nil => rfl
  | cons c s => exact ite_self _

/-! ## What `sscanf` leaves -/

theorem takeWhile_cstr {p : UInt8 → Bool} (hp : p 0 = false) (s : Bytes) :
    (cstr s).takeWhile p = s.takeWhile p := by
  induction s with
  | nil => rfl
  | cons b s ih =>
    by_cases hb : b = 0
    · subst hb
      rw [List.takeWhile_cons_of_neg (by simp [hp])]
      rfl
    · have hcons : cstr (b :: s) = b :: cstr s := List.takeWhile_cons_of_pos (by simpa using hb)
      rw [hcons, List.takeWhile_cons, List.takeWhile_cons, ih]

theorem dropWhile_cstr {p : UInt8 → Bool} (hp : p 0 = false) (s : Bytes) :
    (cstr s).dropWhile p = cstr (s.dropWhile p) := by
  induction s with
  | nil => rfl
  | cons b s ih =>
    by_cases hb : b = 0
    · subst hb
      rw [List.dropWhile_cons_of_neg (by simp [hp])]
      rfl
    · have hcons : cstr (b :: s) = b :: cstr s := List.takeWhile_cons_of_pos (by simpa using hb)
      rw [hcons, List.dropWhile_cons, List.dropWhile_cons, ih]
      split
      · rfl
      · exact hcons.symm

theorem scanSign_cstr (s : Bytes) :
    scanSign (cstr s) = ((scanSign s).1, cstr (scanSign s).2) := by
  cases s with
  | nil => rfl
  | cons b s =>
    by_cases hb : b = 0
    · subst hb
      rfl
    · have hcons : cstr (b :: s) = b :: cstr s := List.takeWhile_cons_of_pos (by simpa using hb)
      rw [hcons, scanSign, scanSign]
      split
      · rfl
      · split
        · rfl
        · rw [hcons]

theorem scanInt_cstr (s : Bytes) :
    scanInt (cstr s) = (scanInt s).map fun r => (r.1, cstr r.2) := by
  unfold scanInt
  rw [dropWhile_cstr rfl, scanSign_cstr]
  dsimp only
  rw [takeWhile_cstr rfl, dropWhile_cstr rfl]
  split <;> rfl

/-- A format that has no NUL reads nothing behind one. -/
theorem scan_cstr {f : List Directive} (hf : .lit 0 ∉ f) (s : Bytes) :
    scan f (cstr s) = scan f s := by
  induction f generalizing s with
  | nil => rfl
  | cons directive f ih =>
    replace ih := fun s => ih (fun hmem => hf (List.mem_cons_of_mem _ hmem)) s
    cases directive with
    | lit b =>
      have hb : b ≠ 0 := by
        rintro rfl
        exact hf List.mem_cons_self
      cases s with
      | nil => rfl
      | cons c s =>
        by_cases hc : c = 0
        · subst hc
          rw [scan, if_neg hb.symm]
          rfl
        · have hcons : cstr (c :: s) = c :: cstr s :=
            List.takeWhile_cons_of_pos (by simpa using hc)
          rw [hcons, scan, scan, ih]
    | int =>
      rw [scan, scan, scanInt_cstr]
      cases scanInt s with
      | none => rfl
      | some r => exact congrArg (r.1 :: ·) (ih r.2)

theorem sscanf_key (cs : List Char) {f : List Directive} (hf : .lit 0 ∉ lits cs ++ f)
    (s : Bytes) : sscanf (ascii cs ++ s) (lits cs ++ f) = scan f s := by
  unfold sscanf
  rw [scan_cstr hf, scan_lits]

/-- `%d,` so many times. -/
def numberFormat : Nat → List Directive
  | 0 => []
  | k + 1 => .int :: .lit commaByte :: numberFormat k

theorem mapIdx_assigned_nil (xs : List Int) : xs.mapIdx (assigned []) = xs := by
  induction xs with
  | nil => rfl
  | cons x xs ih =>
    rw [List.mapIdx_cons]
    exact congrArg (x :: ·) ih

theorem mapIdx_assigned_cons (v : Int) (vs : List Int) (x : Int) (xs : List Int) :
    (x :: xs).mapIdx (assigned (v :: vs)) = v :: xs.mapIdx (assigned vs) := by
  rw [List.mapIdx_cons]
  rfl

/-- The variables after the conversions of `%d,%d,…` have been assigned. -/
theorem assigned_numberFormat (f : List Directive) (xs : List Int) (s : Bytes) :
    xs.mapIdx (assigned (scan (numberFormat xs.length ++ f) s)) = readInto xs s := by
  induction xs generalizing s with
  | nil => rfl
  | cons x xs ih =>
    show (x :: xs).mapIdx
      (assigned (scan (.int :: .lit commaByte :: (numberFormat xs.length ++ f)) s)) = _
    rw [scan, readInto]
    cases scanInt s with
    | none => exact mapIdx_assigned_nil (x :: xs)
    | some r =>
      dsimp only
      rw [mapIdx_assigned_cons]
      congr 1
      cases r.2 with
      | nil => exact mapIdx_assigned_nil xs
      | cons c rest =>
        rw [scan]
        dsimp only
        split
        · exact ih rest
        · exact mapIdx_assigned_nil xs

/-- The same when the numbers follow a comma. -/
theorem assigned_readOn (f : List Directive) (xs : List Int) (s : Bytes) :
    xs.mapIdx (assigned (scan (.lit commaByte :: (numberFormat xs.length ++ f)) s)) =
      readOn xs s := by
  cases s with
  | nil => exact mapIdx_assigned_nil xs
  | cons c rest =>
    rw [scan, readOn]
    split
    · exact assigned_numberFormat f xs rest
    · exact mapIdx_assigned_nil xs

/-- One number, with nothing behind it. -/
theorem assigned_int (x : Int) (s : Bytes) : [assigned (scan [.int] s) 0 x] = readInto [x] s := by
  rw [scan, readInto]
  cases scanInt s with
  | none => rfl
  | some r =>
    dsimp only
    cases r.2 with
    | nil => rfl
    | cons c rest => exact congrArg (r.1 :: ·) (ite_self _).symm

/-! ## Numbers that are settled -/

/-- The next `k` numbers come out whatever stands behind the text: each is ended within it, or
is missing within it, or is the last one and at the end of its range. -/
def Settled : Nat → Bytes → Prop
  | 0, _ => True
  | k + 1, s =>
    match (numberText s).rest with
    | [] => k = 0 ∧ (numberText s).digits ≠ [] ∧ (numberText s).Saturated
    | c :: rest => (numberText s).digits ≠ [] → c = commaByte → Settled k rest

theorem readInto_settled {k : Nat} :
    ∀ {xs : List Int} {s : Bytes}, xs.length = k → Settled k s →
      ∀ t, readInto xs (s ++ t) = readInto xs s := by
  induction k with
  | zero =>
    intro xs s hlen _ t
    rw [List.length_eq_zero_iff.mp hlen]
    rfl
  | succ k ih =>
    intro xs s hlen h t
    cases xs with
    | nil => exact absurd hlen (by simp)
    | cons x xs =>
      replace hlen : xs.length = k := by simpa using hlen
      rw [Settled] at h
      cases hrest : (numberText s).rest with
      | nil =>
        rw [hrest] at h
        obtain ⟨rfl, hdigits, hsaturated⟩ := h
        have hopen := numberText_open hrest (t := t) (.inl hdigits)
        have hmore : (numberText (s ++ t)).digits ≠ [] := by
          rw [hopen]
          simp [hdigits]
        rw [readInto_some hmore, readInto_some hdigits, List.length_eq_zero_iff.mp hlen,
          readOn_nil, readOn_nil, hopen, NumberText.value_saturated hsaturated]
      | cons c rest =>
        rw [hrest] at h
        have happend := numberText_append (s := s) (by simp [hrest]) t
        by_cases hdigits : (numberText s).digits = []
        · rw [readInto_none hdigits, readInto_none (by rw [happend]; exact hdigits)]
        · rw [readInto_some hdigits, readInto_some (by rw [happend]; exact hdigits), happend,
            hrest]
          show (numberText s).value :: readOn xs (c :: (rest ++ t)) =
            (numberText s).value :: readOn xs (c :: rest)
          by_cases hc : c = commaByte
          · rw [hc, readOn_comma, readOn_comma, ih hlen (h hdigits hc)]
          · rw [readOn_ne hc, readOn_ne hc]

/-- A number that may start where a text ends can be any digit. -/
theorem numberText_digit {s : Bytes} (hrest : (numberText s).rest = [])
    (hdigits : (numberText s).digits = []) {d : UInt8} (hd : isDigit d = true) (z : Bytes) :
    numberText (s ++ d :: 0 :: z) = ⟨(numberText s).negative, [d], 0 :: z⟩ := by
  have htake : (d :: 0 :: z).takeWhile isDigit = [d] ∧
      (d :: 0 :: z).dropWhile isDigit = 0 :: z := by
    rw [List.takeWhile_cons_of_pos hd, List.dropWhile_cons_of_pos hd]
    exact ⟨rfl, rfl⟩
  rw [numberText_open hrest (.inr ⟨d, 0 :: z, rfl, hd⟩), hdigits, htake.1, htake.2,
    List.nil_append]

/-- One more digit behind a number the text ends in. -/
theorem numberText_nine {s : Bytes} (hrest : (numberText s).rest = [])
    (hdigits : (numberText s).digits ≠ []) (z : Bytes) :
    numberText (s ++ 0x39 :: 0 :: z) =
      ⟨(numberText s).negative, (numberText s).digits ++ [0x39], 0 :: z⟩ := by
  rw [numberText_open hrest (.inl hdigits)]
  rfl

/-- There are two texts behind it with which the numbers differ. -/
def Undecided (xs : List Int) (s : Bytes) : Prop :=
  ∃ t t', ∀ z z', readInto xs (s ++ (t ++ 0 :: z)) ≠ readInto xs (s ++ (t' ++ 0 :: z'))

section undecided

variable {x : Int} {xs : List Int} {s rest : Bytes}

/-- A number that is still to come may be a 7 or an 8. -/
theorem undecided_missing (hrest : (numberText s).rest = [])
    (hdigits : (numberText s).digits = []) : Undecided (x :: xs) s := by
  refine ⟨[0x37], [0x38], ?_⟩
  intro z z' heq
  have h7 : numberText (s ++ ([0x37] ++ 0 :: z)) = _ := numberText_digit hrest hdigits rfl z
  have h8 : numberText (s ++ ([0x38] ++ 0 :: z')) = _ := numberText_digit hrest hdigits rfl z'
  rw [readInto_some (by rw [h7]; exact List.cons_ne_nil _ _), h7,
    readInto_some (by rw [h8]; exact List.cons_ne_nil _ _), h8] at heq
  have hhead :
      saturate (if (numberText s).negative then -decimal [0x37] else decimal [0x37]) =
        saturate (if (numberText s).negative then -decimal [0x38] else decimal [0x38]) :=
    (List.cons.inj heq).1
  revert hhead
  cases (numberText s).negative <;> decide

/-- A number at the end may have a digit more. -/
theorem undecided_digit (hrest : (numberText s).rest = []) (hdigits : (numberText s).digits ≠ [])
    (hunsaturated : ¬(numberText s).Saturated) : Undecided (x :: xs) s := by
  refine ⟨[], [0x39], ?_⟩
  intro z z' heq
  have hnul : numberText (s ++ ([] ++ 0 :: z)) = _ := numberText_nul s z
  have hnine : numberText (s ++ ([0x39] ++ 0 :: z')) = _ := numberText_nine hrest hdigits z'
  rw [readInto_some (by rw [hnul]; exact hdigits), hnul, readInto_some (by rw [hnine]; simp),
    hnine] at heq
  exact NumberText.value_nine hunsaturated (0 :: z') (List.cons.inj heq).1.symm

/-- It may be ended by a comma. -/
theorem undecided_comma (hrest : (numberText s).rest = []) (hdigits : (numberText s).digits ≠ [])
    (h : Undecided xs []) : Undecided (x :: xs) s := by
  obtain ⟨t, t', hne⟩ := h
  have hnext : ∀ t : Bytes, readInto (x :: xs) (s ++ commaByte :: t) =
      (numberText s).value :: readInto xs t := by
    intro t
    have hended : numberText (s ++ commaByte :: t) =
        { numberText s with rest := commaByte :: t } := by
      rw [numberText_open hrest (.inl hdigits)]
      simp [commaByte, isDigit]
    rw [readInto_some (by rw [hended]; exact hdigits), hended, readOn_comma]
    rfl
  refine ⟨commaByte :: t, commaByte :: t', ?_⟩
  intro z z' heq
  rw [List.cons_append, List.cons_append, hnext, hnext] at heq
  exact hne z z' (List.cons.inj heq).2

theorem undecided_cons (hdigits : (numberText s).digits ≠ [])
    (hrest : (numberText s).rest = commaByte :: rest) (h : Undecided xs rest) :
    Undecided (x :: xs) s := by
  obtain ⟨t, t', hne⟩ := h
  refine ⟨t, t', ?_⟩
  intro z z' heq
  rw [readInto_comma hdigits hrest, readInto_comma hdigits hrest] at heq
  exact hne z z' (List.cons.inj heq).2

end undecided

/-- **A text that is not settled** can be followed by two texts with which the numbers differ. -/
theorem undecided_of_not_settled {k : Nat} :
    ∀ {xs : List Int} {s : Bytes}, xs.length = k → ¬Settled k s → Undecided xs s := by
  induction k with
  | zero => exact fun _ h => absurd trivial h
  | succ k ih =>
    intro xs s hlen h
    cases xs with
    | nil => exact absurd hlen (by simp)
    | cons x xs =>
      replace hlen : xs.length = k := by simpa using hlen
      rw [Settled] at h
      cases hrest : (numberText s).rest with
      | nil =>
        rw [hrest] at h
        by_cases hdigits : (numberText s).digits = []
        · exact undecided_missing hrest hdigits
        by_cases hsaturated : (numberText s).Saturated
        · -- No digit changes it, but another number follows.
          have hk : k ≠ 0 := fun hk => h ⟨hk, hdigits, hsaturated⟩
          cases xs with
          | nil => exact absurd hlen.symm hk
          | cons x' xs => exact undecided_comma hrest hdigits (undecided_missing rfl rfl)
        · exact undecided_digit hrest hdigits hsaturated
      | cons c rest =>
        rw [hrest] at h
        obtain ⟨hdigits, rfl, hnot⟩ : (numberText s).digits ≠ [] ∧ c = commaByte ∧
            ¬Settled k rest := by
          by_contra hall
          exact h fun hd hc => by_contra fun hn => hall ⟨hd, hc, hn⟩
        exact undecided_cons hdigits hrest (ih hlen hnot)

/-! ## Numbers that are settled within their bounds -/

/-- Some value is above its bound. -/
def Exceeds : List Int → List Int → Prop
  | b :: bs, y :: ys => b < y ∨ Exceeds bs ys
  | _, _ => False

/-- Numbers with a bound each come out, or are together above their bounds, whatever stands
behind the text and whatever the variables hold: the text has all of them, each within its bound
and ended in the text or for good, or all up to one that is above. -/
def SettledWithin : List Int → Bytes → Prop
  | [], _ => True
  | b :: bs, s =>
    (numberText s).digits ≠ [] ∧
      match (numberText s).rest with
      | [] =>
        ((numberText s).negative = false ∧ b < decimal (numberText s).digits) ∨
          (bs = [] ∧ (numberText s).negative = true ∧ (numberText s).Saturated)
      | c :: rest =>
        b < (numberText s).value ∨ bs = [] ∨ (c = commaByte ∧ SettledWithin bs rest)

/-- Bounds an `int` can be above, and that 0 and 1 are not. -/
def Bounds (bs : List Int) : Prop := ∀ b ∈ bs, 1 ≤ b ∧ b < 2 ^ 31 - 1

/-- The numbers are above their bounds whatever stands behind the text and the variables hold,
or they are always the same. -/
def DecidedWithin (bs : List Int) (s : Bytes) : Prop :=
  (∀ xs t, xs.length = bs.length → Exceeds bs (readInto xs (s ++ t))) ∨
    ∃ ys, ∀ xs t, xs.length = bs.length → readInto xs (s ++ t) = ys

section decidedWithin

variable {b : Int} {bs : List Int} {s rest : Bytes}

/-- A number that is there is read into the first variable. -/
theorem exists_readInto {n : NumberText} (hn : numberText s = n) (hdigits : n.digits ≠ [])
    {xs : List Int} (hlen : xs.length = (b :: bs).length) :
    ∃ ys : List Int, ys.length = bs.length ∧ readInto xs s = n.value :: readOn ys n.rest := by
  subst hn
  cases xs with
  | nil => exact absurd hlen (by simp)
  | cons x xs => exact ⟨xs, by simpa using hlen, readInto_some hdigits x xs⟩

/-- The text ends in a number that is above its bound, or is the last one and at the end of its
range. -/
theorem decidedWithin_open (hrest : (numberText s).rest = []) (hdigits : (numberText s).digits ≠ [])
    (hb : b < 2 ^ 31 - 1)
    (h : (numberText s).negative = false ∧ b < decimal (numberText s).digits ∨
      bs = [] ∧ (numberText s).negative = true ∧ (numberText s).Saturated) :
    DecidedWithin (b :: bs) s := by
  have hopen := fun t => numberText_open hrest (t := t) (.inl hdigits)
  rcases h with ⟨hpos, habove⟩ | ⟨rfl, hneg, hsaturated⟩
  · left
    intro xs t hlen
    obtain ⟨ys, -, hread⟩ := exists_readInto (hopen t) (by simp [hdigits]) hlen
    rw [hread]
    exact .inl (NumberText.lt_value hpos habove hb _ _)
  · right
    refine ⟨[(numberText s).value], ?_⟩
    intro xs t hlen
    obtain ⟨ys, hys, hread⟩ := exists_readInto (hopen t) (by simp [hdigits]) hlen
    rw [hread, List.length_eq_zero_iff.mp hys, readOn_nil, NumberText.value_saturated hsaturated]

/-- The first number is ended, and is above its bound or the last one. -/
theorem decidedWithin_ended (hrest : (numberText s).rest ≠ [])
    (hdigits : (numberText s).digits ≠ []) (h : b < (numberText s).value ∨ bs = []) :
    DecidedWithin (b :: bs) s := by
  have happend := fun t => numberText_append hrest t
  rcases h with habove | rfl
  · left
    intro xs t hlen
    obtain ⟨ys, -, hread⟩ := exists_readInto (happend t) hdigits hlen
    rw [hread]
    exact .inl habove
  · right
    refine ⟨[(numberText s).value], ?_⟩
    intro xs t hlen
    obtain ⟨ys, hys, hread⟩ := exists_readInto (happend t) hdigits hlen
    rw [hread, List.length_eq_zero_iff.mp hys, readOn_nil]
    rfl

theorem decidedWithin_cons (hdigits : (numberText s).digits ≠ [])
    (hrest : (numberText s).rest = commaByte :: rest) (h : DecidedWithin bs rest) :
    DecidedWithin (b :: bs) s := by
  have hon : ∀ {xs t}, xs.length = (b :: bs).length → ∃ ys, ys.length = bs.length ∧
      readInto xs (s ++ t) = (numberText s).value :: readInto ys (rest ++ t) := by
    intro xs t hlen
    cases xs with
    | nil => exact absurd hlen (by simp)
    | cons x xs => exact ⟨xs, by simpa using hlen, readInto_comma hdigits hrest x xs t⟩
  rcases h with hexceeds | ⟨ys, hfixed⟩
  · left
    intro xs t hlen
    obtain ⟨ys, hys, hread⟩ := hon (t := t) hlen
    rw [hread]
    exact .inr (hexceeds ys t hys)
  · right
    refine ⟨(numberText s).value :: ys, ?_⟩
    intro xs t hlen
    obtain ⟨zs, hzs, hread⟩ := hon (t := t) hlen
    rw [hread, hfixed zs t hzs]

end decidedWithin

/-- **A text that is settled within the bounds** leaves nothing to what stands behind it. -/
theorem decidedWithin_of_settled {bs : List Int} :
    ∀ {s : Bytes}, Bounds bs → SettledWithin bs s → DecidedWithin bs s := by
  induction bs with
  | nil =>
    intro s _ _
    refine .inr ⟨[], ?_⟩
    intro xs t hlen
    rw [List.length_eq_zero_iff.mp hlen]
    rfl
  | cons b bs ih =>
    intro s hbounds h
    obtain ⟨hdigits, h⟩ := h
    cases hrest : (numberText s).rest with
    | nil =>
      rw [hrest] at h
      exact decidedWithin_open hrest hdigits (hbounds b List.mem_cons_self).2 h
    | cons c rest =>
      rw [hrest] at h
      have hne : (numberText s).rest ≠ [] := by simp [hrest]
      rcases h with habove | hlast | ⟨rfl, hsettled⟩
      · exact decidedWithin_ended hne hdigits (.inl habove)
      · exact decidedWithin_ended hne hdigits (.inr hlast)
      · have hbs : Bounds bs := fun b' hb' => hbounds b' (List.mem_cons_of_mem b hb')
        exact decidedWithin_cons hdigits hrest (ih hbs hsettled)

theorem not_exceeds_replicate {v : Int} (hv : v ≤ 1) {bs : List Int} (hbounds : Bounds bs)
    (n : Nat) : ¬Exceeds bs (List.replicate n v) := by
  induction bs generalizing n with
  | nil => exact id
  | cons b bs ih =>
    cases n with
    | zero => exact id
    | succ n =>
      have hb := hbounds b List.mem_cons_self
      rintro (hlt | hrest)
      · omega
      · exact ih (fun b' hb' => hbounds b' (List.mem_cons_of_mem b hb')) n hrest

theorem replicate_zero_ne_one {n : Nat} (hn : n ≠ 0) :
    List.replicate n (0 : Int) ≠ List.replicate n 1 := by
  cases n with
  | zero => exact absurd rfl hn
  | succ n => exact fun h => absurd (List.cons.inj h).1 (by decide)

/-- There are texts behind it and things for the variables to hold with which the numbers
differ, and are the first time within their bounds. -/
def UndecidedWithin (bs : List Int) (s : Bytes) : Prop :=
  ∃ t t' xs xs', xs.length = bs.length ∧ xs'.length = bs.length ∧ ∀ z z',
    ¬Exceeds bs (readInto xs (s ++ (t ++ 0 :: z))) ∧
      readInto xs (s ++ (t ++ 0 :: z)) ≠ readInto xs' (s ++ (t' ++ 0 :: z'))

section undecidedWithin

variable {b : Int} {bs : List Int} {s rest : Bytes}

/-- A variable that is not assigned holds a 0 or a 1. -/
theorem undecidedWithin_missing (hbounds : Bounds (b :: bs))
    (hdigits : (numberText s).digits = []) : UndecidedWithin (b :: bs) s := by
  refine ⟨[], [], List.replicate (bs.length + 1) 0, List.replicate (bs.length + 1) 1,
    List.length_replicate, List.length_replicate, ?_⟩
  intro z z'
  have hnone : ∀ z, (numberText (s ++ ([] ++ 0 :: z))).digits = [] := by
    intro z
    rw [List.nil_append, numberText_nul]
    exact hdigits
  rw [readInto_none (hnone z), readInto_none (hnone z')]
  exact ⟨not_exceeds_replicate (by decide) hbounds _, replicate_zero_ne_one (by simp)⟩

theorem undecidedWithin_unassigned (hbounds : Bounds bs) (hdigits : (numberText s).digits ≠ [])
    (hle : (numberText s).value ≤ b) (hmore : bs ≠ [])
    (hcomma : ∀ rest, (numberText s).rest ≠ commaByte :: rest) : UndecidedWithin (b :: bs) s := by
  have hread : ∀ v z, readInto (0 :: List.replicate bs.length v) (s ++ ([] ++ 0 :: z)) =
      (numberText s).value :: List.replicate bs.length v := by
    intro v z
    have hnul : numberText (s ++ ([] ++ 0 :: z)) = _ := numberText_nul s z
    rw [readInto_some (by rw [hnul]; exact hdigits), hnul]
    show (numberText s).value :: readOn _ ((numberText s).rest ++ 0 :: z) = _
    cases hrest : (numberText s).rest with
    | nil => rw [List.nil_append, readOn_ne (by decide)]
    | cons c rest =>
      have hc : c ≠ commaByte := by
        rintro rfl
        exact hcomma rest hrest
      rw [List.cons_append, readOn_ne hc]
  refine ⟨[], [], 0 :: List.replicate bs.length 0, 0 :: List.replicate bs.length 1, by simp,
    by simp, ?_⟩
  intro z z'
  rw [hread, hread]
  constructor
  · rintro (hlt | hrest)
    · omega
    · exact not_exceeds_replicate (by decide) hbounds _ hrest
  · intro heq
    exact replicate_zero_ne_one (by simpa using hmore) (List.cons.inj heq).2

theorem undecidedWithin_digit (hrest : (numberText s).rest = [])
    (hdigits : (numberText s).digits ≠ []) (hle : (numberText s).value ≤ b)
    (hunsaturated : ¬(numberText s).Saturated) : UndecidedWithin [b] s := by
  refine ⟨[], [0x39], [0], [0], rfl, rfl, ?_⟩
  intro z z'
  have hnul : numberText (s ++ ([] ++ 0 :: z)) = _ := numberText_nul s z
  have hnine : numberText (s ++ ([0x39] ++ 0 :: z')) = _ := numberText_nine hrest hdigits z'
  rw [readInto_some (by rw [hnul]; exact hdigits), hnul, readInto_some (by rw [hnine]; simp),
    hnine, readOn_nil]
  constructor
  · rintro (hlt | hfalse)
    · exact absurd hle (Int.not_le.mpr hlt)
    · exact hfalse
  · intro heq
    exact NumberText.value_nine hunsaturated (0 :: z') (List.cons.inj heq).1.symm

theorem undecidedWithin_cons (hdigits : (numberText s).digits ≠ [])
    (hle : (numberText s).value ≤ b) (hrest : (numberText s).rest = commaByte :: rest)
    (h : UndecidedWithin bs rest) : UndecidedWithin (b :: bs) s := by
  obtain ⟨t, t', xs, xs', hlen, hlen', hdiffer⟩ := h
  refine ⟨t, t', 0 :: xs, 0 :: xs', by simp [hlen], by simp [hlen'], ?_⟩
  intro z z'
  rw [readInto_comma hdigits hrest, readInto_comma hdigits hrest]
  constructor
  · rintro (hlt | hexceeds)
    · omega
    · exact (hdiffer z z').1 hexceeds
  · intro heq
    exact (hdiffer z z').2 (List.cons.inj heq).2

end undecidedWithin

/-- **A text that is not settled within the bounds** can be followed by texts, with the
variables holding something, with which the numbers differ and are the first time within
them. -/
theorem undecidedWithin_of_not_settled {bs : List Int} :
    ∀ {s : Bytes}, Bounds bs → ¬SettledWithin bs s → UndecidedWithin bs s := by
  induction bs with
  | nil => exact fun _ h => absurd trivial h
  | cons b bs ih =>
    intro s hbounds h
    have hb := hbounds b List.mem_cons_self
    have hbs : Bounds bs := fun b' hb' => hbounds b' (List.mem_cons_of_mem b hb')
    by_cases hdigits : (numberText s).digits = []
    · exact undecidedWithin_missing hbounds hdigits
    cases hrest : (numberText s).rest with
    | nil =>
      rw [SettledWithin, hrest] at h
      have hnone : ∀ rest, (numberText s).rest ≠ commaByte :: rest := by
        rw [hrest]
        exact fun rest => (List.cons_ne_nil _ _).symm
      have hnot : (numberText s).negative = false → ¬b < decimal (numberText s).digits :=
        fun hneg habove => h ⟨hdigits, .inl ⟨hneg, habove⟩⟩
      have hle : (numberText s).value ≤ b := by
        unfold NumberText.value saturate
        cases hneg : (numberText s).negative with
        | false =>
          have := hnot hneg
          rw [if_neg Bool.false_ne_true]
          omega
        | true =>
          rw [if_pos rfl]
          omega
      by_cases hmore : bs = []
      · subst hmore
        have hunsaturated : ¬(numberText s).Saturated := by
          intro hs
          cases hneg : (numberText s).negative with
          | false =>
            have := hnot hneg
            unfold NumberText.Saturated at hs
            rw [hneg, if_neg Bool.false_ne_true] at hs
            omega
          | true => exact h ⟨hdigits, .inr ⟨rfl, hneg, hs⟩⟩
        exact undecidedWithin_digit hrest hdigits hle hunsaturated
      · exact undecidedWithin_unassigned hbs hdigits hle hmore hnone
    | cons c rest =>
      rw [SettledWithin, hrest] at h
      have hle : (numberText s).value ≤ b := by
        by_contra habove
        exact h ⟨hdigits, .inl (by omega)⟩
      have hmore : bs ≠ [] := fun hnil => h ⟨hdigits, .inr (.inl hnil)⟩
      by_cases hc : c = commaByte
      · subst hc
        have hnot : ¬SettledWithin bs rest := fun hs => h ⟨hdigits, .inr (.inr ⟨rfl, hs⟩)⟩
        exact undecidedWithin_cons hdigits hle hrest (ih hbs hnot)
      · refine undecidedWithin_unassigned hbs hdigits hle hmore ?_
        intro rest' hrest'
        exact hc (List.cons.inj (hrest.symm.trans hrest')).1

/-! ## Numbers above their bounds -/

/-- A comma and a number behind it. -/
def nextNumber? : Bytes → Option NumberText
  | [] => none
  | c :: rest =>
    if c = commaByte ∧ (numberText rest).digits ≠ [] then some (numberText rest) else none

/-- Of the numbers of a text, each with a comma before it, one is above its bound; or, from the
first that is missing on, one of the variables is. -/
def TooLarge : List Int → List Int → Bytes → Prop
  | b :: bs, x :: xs, s =>
    match nextNumber? s with
    | some n => b < n.value ∨ TooLarge bs xs n.rest
    | none => Exceeds (b :: bs) (x :: xs)
  | _, _, _ => False

theorem readOn_number {s : Bytes} {n : NumberText} (h : nextNumber? s = some n) (x : Int)
    (xs : List Int) : readOn (x :: xs) s = n.value :: readOn xs n.rest := by
  cases s with
  | nil => exact absurd h (by simp [nextNumber?])
  | cons c rest =>
    rw [nextNumber?] at h
    split at h
    · rename_i hnext
      obtain ⟨rfl, hdigits⟩ := hnext
      obtain rfl := Option.some.inj h
      rw [readOn_comma, readInto_some hdigits]
    · exact absurd h (by simp)

theorem readOn_no_number {s : Bytes} (h : nextNumber? s = none) (xs : List Int) :
    readOn xs s = xs := by
  cases s with
  | nil => rfl
  | cons c rest =>
    by_cases hc : c = commaByte
    · subst hc
      have hdigits : (numberText rest).digits = [] := by
        by_contra hne
        rw [nextNumber?, if_pos ⟨rfl, hne⟩] at h
        exact absurd h (by simp)
      rw [readOn_comma, readInto_none hdigits]
    · exact readOn_ne hc xs rest

/-- **What is read is above its bounds** exactly if the text is too large for them. -/
theorem exceeds_readOn_iff {bs : List Int} :
    ∀ {xs : List Int} {s : Bytes}, Exceeds bs (readOn xs s) ↔ TooLarge bs xs s := by
  induction bs with
  | nil =>
    intro xs s
    rfl
  | cons b bs ih =>
    intro xs s
    cases xs with
    | nil =>
      rw [readOn_nil]
      rfl
    | cons x xs =>
      rw [TooLarge]
      cases hnext : nextNumber? s with
      | none =>
        rw [readOn_no_number hnext]
      | some n =>
        rw [readOn_number hnext]
        exact or_congr_right ih

end CString
