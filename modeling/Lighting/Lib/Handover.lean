import Mathlib.Data.List.Range
import Lighting.Lib.Runs

/-!
# A record handed over under a flag

A writer publishes one value after the other: it raises a flag and then overwrites a record,
part by part. A reader tests the flag, takes the record and lowers the flag. Nothing else
orders the two.

What is asked is that the reader takes every value once, in order, and nothing else: what was
taken so far are the first values (`Faithful`), and with the flag down there is none left.
`faithful_iff` says for which orders of turns that holds whatever the values are. The reader
has to take the record while it holds the first value not yet taken, as a whole, and to lower
the flag while there is no value it has not taken (`InTurn`). It is a matter of the turns
only: `SameOrder` is what two runs with the same turns share.
-/

set_option autoImplicit false

namespace Handover

open Runs

/-- Where the reader is. -/
inductive Stage where
  | testing
  | taking
  | lowering
  deriving DecidableEq, Repr

/-- Whose turn it is. -/
inductive Turn where
  | writer
  | reader
  deriving DecidableEq, Repr

/-- `rest` is what is left to write of the value in work, `begun` how many values the writer
has raised the flag for, `given` what the reader has taken. -/
structure State (ρ : Type*) where
  flag : Bool
  record : ρ
  rest : List (ρ → ρ)
  stage : Stage
  begun : Nat
  given : List ρ

variable {φ ρ : Type*}

/-- The record after some writes. -/
def written (ws : List (ρ → ρ)) (r : ρ) : ρ := ws.foldl (fun r w => w r) r

def step (writes : φ → List (ρ → ρ)) (values : Nat → φ) : Turn → State ρ → State ρ
  | .writer, s =>
    match s.rest with
    | [] => { s with flag := true, rest := writes (values s.begun), begun := s.begun + 1 }
    | w :: rest => { s with record := w s.record, rest := rest }
  | .reader, s =>
    match s.stage with
    | .testing => if s.flag then { s with stage := .taking } else s
    | .taking => { s with given := s.given ++ [s.record], stage := .lowering }
    | .lowering => { s with flag := false, stage := .testing }

section equations

variable {writes : φ → List (ρ → ρ)} {values : Nat → φ} {s : State ρ}

theorem step_begin (h : s.rest = []) : step writes values .writer s =
    { s with flag := true, rest := writes (values s.begun), begun := s.begun + 1 } := by
  simp only [step, h]

theorem step_write {w : ρ → ρ} {rest : List (ρ → ρ)} (h : s.rest = w :: rest) :
    step writes values .writer s = { s with record := w s.record, rest := rest } := by
  simp only [step, h]

theorem step_test (h : s.stage = .testing) :
    step writes values .reader s = if s.flag then { s with stage := .taking } else s := by
  simp only [step, h]

theorem step_take (h : s.stage = .taking) : step writes values .reader s =
    { s with given := s.given ++ [s.record], stage := .lowering } := by
  simp only [step, h]

theorem step_lower (h : s.stage = .lowering) :
    step writes values .reader s = { s with flag := false, stage := .testing } := by
  simp only [step, h]

end equations

def start (blank : ρ) : State ρ := ⟨false, blank, [], .testing, 0, []⟩

/-- Every value is written in as many parts, and they make the whole of it. -/
structure Writing (writes : φ → List (ρ → ρ)) (whole : φ → ρ) (parts : Nat) : Prop where
  parts_pos : 0 < parts
  length : ∀ v, (writes v).length = parts
  whole : ∀ v r, written (writes v) r = whole v

/-- `a` can be told from `b`, from the blank record and from a record half written. -/
structure Telling (writes : φ → List (ρ → ρ)) (whole : φ → ρ) (blank : ρ) (a b : φ) : Prop where
  ne : whole b ≠ whole a
  blank : blank ≠ whole a
  torn : ∀ v r ws, ws ≠ [] → ws <+: writes v → ws ≠ writes v → written ws r ≠ whole a

/-- What was taken are the first values, and with the flag down all of them. -/
structure Faithful (whole : φ → ρ) (values : Nat → φ) (s : State ρ) : Prop where
  given : s.given = (List.range s.given.length).map fun k => whole (values k)
  given_le : s.given.length ≤ s.begun
  none_left : s.flag = false → s.given.length = s.begun

/-- The reader takes the record while it holds the first value not taken: that is the last one
begun, which has been written, or the one before it, of which nothing has been overwritten. It
lowers the flag while there is no value it has not taken. -/
def InTurn (parts : Nat) (turn : Turn) (s : State ρ) : Prop :=
  turn = .reader →
    (s.stage = .taking →
      (s.rest = [] ∧ s.given.length + 1 = s.begun) ∨
        (s.rest.length = parts ∧ s.given.length + 2 = s.begun)) ∧
    (s.stage = .lowering → s.given.length = s.begun)

/-! ## What the record holds -/

/-- What the record holds when `n` values have been written. -/
def last (whole : φ → ρ) (values : Nat → φ) (blank : ρ) : Nat → ρ
  | 0 => blank
  | n + 1 => whole (values n)

/-- The record holds the last value begun, or that value is half written over the one
before. -/
def Record (writes : φ → List (ρ → ρ)) (whole : φ → ρ) (values : Nat → φ) (blank : ρ)
    (s : State ρ) : Prop :=
  (s.rest = [] ∧ s.record = last whole values blank s.begun) ∨
    ∃ n done, s.begun = n + 1 ∧ s.rest ≠ [] ∧ done ++ s.rest = writes (values n) ∧
      s.record = written done (last whole values blank n)

/-- `Record`, and the flag is up from the test to the end of the turn. -/
structure Inv (writes : φ → List (ρ → ρ)) (whole : φ → ρ) (values : Nat → φ) (blank : ρ)
    (s : State ρ) : Prop where
  record : Record writes whole values blank s
  flag : s.stage ≠ .testing → s.flag = true

section runs

variable {writes : φ → List (ρ → ρ)} {whole : φ → ρ} {parts : Nat} {blank : ρ}

theorem start_inv (values : Nat → φ) : Inv writes whole values blank (start blank) :=
  ⟨.inl ⟨rfl, rfl⟩, fun h => absurd rfl h⟩

theorem Record.writer (hw : Writing writes whole parts) {values : Nat → φ} {s : State ρ}
    (h : Record writes whole values blank s) :
    Record writes whole values blank (step writes values .writer s) := by
  rcases h with ⟨hrest, hrecord⟩ | ⟨n, done, hbegun, hne, hsplit, hrecord⟩
  · refine .inr ⟨s.begun, [], ?_⟩
    have hlen := hw.length (values s.begun)
    have hpos := hw.parts_pos
    have hwrites : writes (values s.begun) ≠ [] := fun hnil => by
      rw [hnil, List.length_nil] at hlen
      omega
    rw [step_begin hrest]
    exact ⟨rfl, hwrites, rfl, hrecord⟩
  · cases hrest : s.rest with
    | nil => exact absurd hrest hne
    | cons w rest =>
      have hsplit' : (done ++ [w]) ++ rest = writes (values n) := by
        rw [← hsplit, hrest, List.append_assoc, List.singleton_append]
      have hrecord' : w s.record = written (done ++ [w]) (last whole values blank n) := by
        simp only [written, List.foldl_append, List.foldl_cons, List.foldl_nil]
        exact congrArg w hrecord
      rw [step_write hrest]
      cases rest with
      | nil =>
        -- The last part: what has been written is the whole of the value.
        rw [List.append_nil] at hsplit'
        refine .inl ⟨rfl, ?_⟩
        show w s.record = last whole values blank s.begun
        rw [hrecord', hsplit', hw.whole, hbegun]
        rfl
      | cons w' rest =>
        exact .inr ⟨n, done ++ [w], hbegun, List.cons_ne_nil _ _, hsplit', hrecord'⟩

theorem Inv.step (hw : Writing writes whole parts) {values : Nat → φ} (turn : Turn) {s : State ρ}
    (h : Inv writes whole values blank s) :
    Inv writes whole values blank (step writes values turn s) := by
  cases turn with
  | writer =>
    refine ⟨h.record.writer hw, ?_⟩
    cases hrest : s.rest with
    | nil =>
      rw [step_begin hrest]
      exact fun _ => rfl
    | cons w rest =>
      rw [step_write hrest]
      exact h.flag
  | reader =>
    cases hstage : s.stage with
    | testing =>
      rw [step_test hstage]
      split
      · rename_i hflag
        exact ⟨h.record, fun _ => hflag⟩
      · exact h
    | taking =>
      rw [step_take hstage]
      exact ⟨h.record, fun _ => h.flag (by simp [hstage])⟩
    | lowering =>
      rw [step_lower hstage]
      exact ⟨h.record, fun hne => absurd rfl hne⟩

/-! ## One turn -/

theorem Faithful.writer {values : Nat → φ} {s : State ρ} (h : Faithful whole values s) :
    Faithful whole values (step writes values .writer s) := by
  cases hrest : s.rest with
  | nil =>
    rw [step_begin hrest]
    exact ⟨h.given, Nat.le_succ_of_le h.given_le, fun hflag => absurd hflag (by simp)⟩
  | cons w rest =>
    rw [step_write hrest]
    exact ⟨h.given, h.given_le, h.none_left⟩

/-- Taking keeps the record of what was taken faithful exactly if the record holds the first
value not taken. -/
theorem faithful_taking {values : Nat → φ} {s : State ρ} (hstage : s.stage = .taking)
    (hflag : s.flag = true) (h : Faithful whole values s) :
    Faithful whole values (step writes values .reader s) ↔
      s.given.length < s.begun ∧ s.record = whole (values s.given.length) := by
  rw [step_take hstage]
  have hlen : (s.given ++ [s.record]).length = s.given.length + 1 := by simp
  constructor
  · intro hafter
    have hle := hafter.given_le
    have hgiven := hafter.given
    simp only [hlen] at hle hgiven
    rw [List.range_succ, List.map_append, ← h.given] at hgiven
    refine ⟨hle, ?_⟩
    simpa using List.append_cancel_left hgiven
  · rintro ⟨hlt, hrecord⟩
    refine ⟨?_, ?_, fun hdown => ?_⟩
    · simp only [hlen]
      rw [List.range_succ, List.map_append, ← h.given, hrecord]
      rfl
    · simp only [hlen]
      exact hlt
    · exact absurd hdown (by simp [hflag])

theorem faithful_lowering {values : Nat → φ} {s : State ρ} (hstage : s.stage = .lowering)
    (h : Faithful whole values s) :
    Faithful whole values (step writes values .reader s) ↔ s.given.length = s.begun := by
  rw [step_lower hstage]
  constructor
  · intro hafter
    exact hafter.none_left rfl
  · intro hall
    exact ⟨h.given, h.given_le, fun _ => hall⟩

theorem faithful_testing {values : Nat → φ} {s : State ρ} (hstage : s.stage = .testing)
    (h : Faithful whole values s) : Faithful whole values (step writes values .reader s) := by
  rw [step_test hstage]
  split
  · exact ⟨h.given, h.given_le, h.none_left⟩
  · exact h

/-- In its turn the reader finds the first value not taken. -/
theorem Record.first (hw : Writing writes whole parts) {values : Nat → φ} {s : State ρ}
    (h : Record writes whole values blank s)
    (hturn : (s.rest = [] ∧ s.given.length + 1 = s.begun) ∨
      (s.rest.length = parts ∧ s.given.length + 2 = s.begun)) :
    s.record = whole (values s.given.length) := by
  have hpos := hw.parts_pos
  rcases h with ⟨hrest, hrecord⟩ | ⟨n, done, hbegun, hne, hsplit, hrecord⟩
  · rcases hturn with ⟨-, hcount⟩ | ⟨hlen, -⟩
    · rw [hrecord, ← hcount]
      rfl
    · rw [hrest, List.length_nil] at hlen
      omega
  · rcases hturn with ⟨hnil, -⟩ | ⟨hlen, hcount⟩
    · exact absurd hnil hne
    · have hdone : done = [] := by
        have htotal := congrArg List.length hsplit
        rw [List.length_append, hw.length, hlen] at htotal
        exact List.length_eq_zero_iff.mp (by omega)
      have hn : n = s.given.length + 1 := by omega
      rw [hrecord, hdone, hn]
      rfl

/-- If the first value not taken can be told and all others are the other one, a record that
holds it holds it as a whole. -/
theorem Record.told (hw : Writing writes whole parts) {a b : φ}
    (ht : Telling writes whole blank a b) {values : Nat → φ} {s : State ρ}
    (h : Record writes whole values blank s)
    (hother : ∀ k, k ≠ s.given.length → values k = b) (hrecord : s.record = whole a) :
    (s.rest = [] ∧ s.given.length + 1 = s.begun) ∨
      (s.rest.length = parts ∧ s.given.length + 2 = s.begun) := by
  -- The last value of `n` is `a` only if it is the one not taken.
  have hlast : ∀ n, last whole values blank n = whole a → n = s.given.length + 1 := by
    intro n hn
    cases n with
    | zero => exact absurd hn ht.blank
    | succ n =>
      by_cases hk : n = s.given.length
      · rw [hk]
      · have hn' : whole (values n) = whole a := hn
        rw [hother n hk] at hn'
        exact absurd hn' ht.ne
  rcases h with ⟨hrest, hrec⟩ | ⟨n, done, hbegun, hne, hsplit, hrec⟩
  · refine .inl ⟨hrest, ?_⟩
    rw [hrec] at hrecord
    exact (hlast _ hrecord).symm
  · rw [hrec] at hrecord
    by_cases hdone : done = []
    · subst hdone
      refine .inr ⟨?_, ?_⟩
      · rw [← hw.length (values n), ← hsplit, List.nil_append]
      · rw [hbegun, hlast n hrecord]
    · refine absurd hrecord (ht.torn (values n) _ done hdone ⟨s.rest, hsplit⟩ fun hall => hne ?_)
      rw [hall] at hsplit
      simpa using hsplit

/-! ## Runs -/

/-- Turns that are kept in order keep what was taken faithful. -/
theorem Faithful.step (hw : Writing writes whole parts) {values : Nat → φ} {turn : Turn}
    {s : State ρ} (hinv : Inv writes whole values blank s) (h : Faithful whole values s)
    (hturn : InTurn parts turn s) : Faithful whole values (step writes values turn s) := by
  cases turn with
  | writer => exact h.writer
  | reader =>
    obtain ⟨htake, hlower⟩ := hturn rfl
    cases hstage : s.stage with
    | testing => exact faithful_testing hstage h
    | taking =>
      rw [faithful_taking hstage (hinv.flag (by simp [hstage])) h]
      have hfirst := htake hstage
      exact ⟨by omega, hinv.record.first hw hfirst⟩
    | lowering => exact (faithful_lowering hstage h).mpr (hlower hstage)

theorem always_faithful (hw : Writing writes whole parts) {values : Nat → φ} {turns : List Turn}
    {s : State ρ} (hinv : Inv writes whole values blank s) (h : Faithful whole values s)
    (halong : Along (step writes values) (InTurn parts) s turns) :
    Always (step writes values) (Faithful whole values) s turns := by
  induction turns generalizing s with
  | nil =>
    intro js hjs
    rw [List.prefix_nil.mp hjs]
    exact h
  | cons turn turns ih =>
    rw [always_cons]
    exact ⟨h, ih (hinv.step hw turn) (h.step hw hinv halong.1) halong.2⟩

/-- Two states that are at the same point of the same turns. -/
structure SameOrder (s t : State ρ) : Prop where
  flag : s.flag = t.flag
  rest : s.rest.length = t.rest.length
  stage : s.stage = t.stage
  begun : s.begun = t.begun
  given : s.given.length = t.given.length

theorem SameOrder.step (hw : Writing writes whole parts) (values values' : Nat → φ) (turn : Turn)
    {s t : State ρ} (h : SameOrder s t) :
    SameOrder (step writes values turn s) (step writes values' turn t) := by
  cases turn with
  | writer =>
    have hrest := h.rest
    cases hs : s.rest with
    | nil =>
      have ht : t.rest = [] := by
        rw [hs, List.length_nil] at hrest
        exact List.length_eq_zero_iff.mp hrest.symm
      rw [step_begin hs, step_begin ht]
      exact ⟨rfl, by simp [hw.length], h.stage, by simp [h.begun], h.given⟩
    | cons w rest =>
      cases ht : t.rest with
      | nil =>
        rw [hs, ht] at hrest
        exact absurd hrest (by simp)
      | cons w' rest' =>
        rw [step_write hs, step_write ht]
        rw [hs, ht] at hrest
        exact ⟨h.flag, by simpa using hrest, h.stage, h.begun, h.given⟩
  | reader =>
    cases hs : s.stage with
    | testing =>
      rw [step_test hs, step_test (h.stage ▸ hs)]
      by_cases hflag : s.flag = true
      · rw [if_pos hflag, if_pos (h.flag ▸ hflag)]
        exact ⟨h.flag, h.rest, rfl, h.begun, h.given⟩
      · rw [if_neg hflag, if_neg (h.flag ▸ hflag)]
        exact h
    | taking =>
      rw [step_take hs, step_take (h.stage ▸ hs)]
      exact ⟨h.flag, h.rest, rfl, h.begun, by simp [h.given]⟩
    | lowering =>
      rw [step_lower hs, step_lower (h.stage ▸ hs)]
      exact ⟨rfl, h.rest, rfl, h.begun, h.given⟩

theorem SameOrder.inTurn {turn : Turn} {s t : State ρ} (h : SameOrder s t) :
    InTurn parts turn s ↔ InTurn parts turn t := by
  have hnil : s.rest = [] ↔ t.rest = [] := by
    rw [← List.length_eq_zero_iff, h.rest, List.length_eq_zero_iff]
  unfold InTurn
  rw [hnil, h.rest, h.stage, h.begun, h.given]

theorem SameOrder.along (hw : Writing writes whole parts) (values values' : Nat → φ)
    {turns : List Turn} {s t : State ρ} (h : SameOrder s t) :
    Along (Handover.step writes values) (InTurn parts) s turns ↔
      Along (Handover.step writes values') (InTurn parts) t turns := by
  induction turns generalizing s t with
  | nil => simp
  | cons turn turns ih =>
    rw [along_cons, along_cons, h.inTurn, ih (h.step hw values values' turn)]

theorem SameOrder.refl (s : State ρ) : SameOrder s s := ⟨rfl, rfl, rfl, rfl, rfl⟩

/-- A turn out of order loses, repeats or tears some value. -/
theorem inTurn_of_faithful (hw : Writing writes whole parts) {a b : φ}
    (ht : Telling writes whole blank a b) {values : Nat → φ} {turn : Turn} {s : State ρ}
    (hinv : Inv writes whole values blank s) (h : Faithful whole values s)
    (hfirst : values s.given.length = a) (hother : ∀ k, k ≠ s.given.length → values k = b)
    (hafter : Faithful whole values (step writes values turn s)) : InTurn parts turn s := by
  rintro rfl
  constructor
  · intro hstage
    rw [faithful_taking hstage (hinv.flag (by simp [hstage])) h, hfirst] at hafter
    exact hinv.record.told hw ht hother hafter.2
  · intro hstage
    exact (faithful_lowering hstage h).mp hafter

/-- **The turns that hand over.** Whatever the values are, what was taken is faithful
throughout, exactly if the reader always is in turn. -/
theorem faithful_iff (hw : Writing writes whole parts) {a b : φ}
    (ht : Telling writes whole blank a b) (values₀ : Nat → φ) (turns : List Turn) :
    (∀ values, Always (step writes values) (Faithful whole values) (start blank) turns) ↔
      Along (step writes values₀) (InTurn parts) (start blank) turns := by
  have hstart : ∀ values : Nat → φ, Faithful whole values (start blank) := fun _ =>
    ⟨rfl, Nat.le_refl _, fun _ => rfl⟩
  constructor
  · intro hall
    rw [along_iff_inputs]
    intro turns' turn hpre
    -- All values but the one that is due are the other one.
    let due := (after (step writes values₀) (start blank) turns').given.length
    let values : Nat → φ := fun k => if k = due then a else b
    have hsame : ∀ (js : List Turn) {s t : State ρ}, SameOrder s t →
        SameOrder (after (step writes values₀) s js) (after (step writes values) t js) := by
      intro js
      induction js with
      | nil => exact fun h => h
      | cons turn js ih => exact fun h => ih (h.step hw values₀ values turn)
    have horder := hsame turns' (SameOrder.refl (start blank))
    have hdue : (after (step writes values) (start blank) turns').given.length = due :=
      horder.given.symm
    have hafter := hall values _ hpre
    rw [after_append] at hafter
    rw [horder.inTurn]
    refine inTurn_of_faithful hw ht
      (after_invariant (fun turn _ h => Inv.step hw turn h) (start_inv values))
      (hall values _ ((List.prefix_append _ _).trans hpre)) ?_ ?_ hafter
    · rw [hdue]
      exact if_pos rfl
    · intro k hk
      rw [hdue] at hk
      exact if_neg hk
  · intro halong values
    refine always_faithful hw (start_inv values) (hstart values) ?_
    exact ((SameOrder.refl _).along hw values values₀).mpr halong

end runs

end Handover
