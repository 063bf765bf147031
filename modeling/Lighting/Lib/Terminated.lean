import Mathlib.Data.List.Count
import Mathlib.Data.List.Infix
import Lighting.Lib.Runs

/-!
# Messages with a terminator, on a line without a lock

A message on the line is its text and then `n` equal stops, which no text contains. `read` takes
a line apart into its messages, and what `frames` puts on a line is read back (`read_eq_iff`).

The writers of a line write the text of a message at once, but each of its stops by itself, and
nothing keeps one writer from starting while another still owes stops. The text may also be
another one than was meant, of the same length. `read_line_iff` is exact: when no stops are owed
any more, what is read are the texts that were meant, if and only if each was written as it was
meant and with nothing owed.
-/

set_option autoImplicit false

namespace Terminated

open Runs

variable {α : Type*} (stop : α) (n : ℕ)

def frames (texts : List (List α)) : List α :=
  texts.flatMap (· ++ List.replicate n stop)

/-! ## Reading -/

section read

variable [DecidableEq α]

/-- The messages on a line, and what is left at its end. -/
def read : List α → List α → List (List α) × List α
  | [], pending => ([], pending)
  | a :: line, pending =>
    if List.replicate n stop <:+ pending ++ [a] then
      let (texts, rest) := read line []
      ((pending ++ [a]).take (pending.length + 1 - n) :: texts, rest)
    else read line (pending ++ [a])

theorem read_sound (line : List α) : ∀ pending : List α,
    frames stop n (read stop n line pending).1 ++ (read stop n line pending).2 =
      pending ++ line := by
  induction line with
  | nil =>
    intro pending
    exact (List.append_nil pending).symm
  | cons a line ih =>
    intro pending
    unfold read
    split
    · rename_i hstops
      obtain ⟨text, htext⟩ := hstops
      have hlength : text.length = pending.length + 1 - n := by
        have h := congrArg List.length htext
        simp only [List.length_append, List.length_replicate, List.length_singleton] at h
        omega
      have htake : (pending ++ [a]).take (pending.length + 1 - n) = text := by
        rw [← htext, ← hlength, List.take_left]
      rw [htake]
      show (text ++ List.replicate n stop) ++ frames stop n (read stop n line []).1 ++
        (read stop n line []).2 = _
      rw [List.append_assoc, ih, htext, List.nil_append, List.append_assoc]
      rfl
    · rw [ih, List.append_assoc]
      rfl

/-- Stops behind a text that has none. -/
theorem stops_suffix_iff {text : List α} (htext : stop ∉ text) (k : ℕ) :
    List.replicate n stop <:+ text ++ List.replicate k stop ↔ n ≤ k := by
  constructor
  · intro h
    have hcount := h.sublist.count_le stop
    rwa [List.count_append, List.count_eq_zero_of_not_mem htext, List.count_replicate_self,
      List.count_replicate_self, Nat.zero_add] at hcount
  · intro h
    refine ⟨text ++ List.replicate (k - n) stop, ?_⟩
    rw [List.append_assoc, ← List.replicate_add, Nat.sub_add_cancel h]

variable {n}

theorem read_text (hn : 0 < n) (text : List α) : ∀ pending line : List α,
    stop ∉ text → stop ∉ pending →
      read stop n (text ++ line) pending = read stop n line (pending ++ text) := by
  induction text with
  | nil =>
    intro pending line _ _
    rw [List.nil_append, List.append_nil]
  | cons a text ih =>
    intro pending line htext hpending
    rw [List.mem_cons, not_or] at htext
    obtain ⟨ha, htext⟩ := htext
    have hnext : stop ∉ pending ++ [a] := by
      simp [hpending, ha]
    have hnot : ¬List.replicate n stop <:+ pending ++ [a] := by
      intro h
      rw [← List.append_nil (pending ++ [a])] at h
      have hzero : n ≤ 0 := (stops_suffix_iff stop n hnext 0).mp h
      exact absurd hn (Nat.not_lt_of_le hzero)
    rw [List.cons_append, read, if_neg hnot, ih _ _ htext hnext, List.append_assoc]
    rfl

theorem read_stops {text : List α} (htext : stop ∉ text) (line : List α) (m : ℕ) :
    ∀ k, k + (m + 1) = n →
      read stop n (List.replicate (m + 1) stop ++ line) (text ++ List.replicate k stop) =
        (text :: (read stop n line []).1, (read stop n line []).2) := by
  have hsnoc : ∀ k, text ++ List.replicate k stop ++ [stop] =
      text ++ List.replicate (k + 1) stop := by
    intro k
    rw [List.append_assoc, ← List.replicate_succ']
  induction m with
  | zero =>
    intro k hk
    have hlast : List.replicate n stop <:+ text ++ List.replicate (k + 1) stop :=
      (stops_suffix_iff stop n htext (k + 1)).mpr hk.symm.le
    show read stop n (stop :: line) _ = _
    rw [read, hsnoc, if_pos hlast]
    have hlength : (text ++ List.replicate k stop).length + 1 - n = text.length := by
      simp only [List.length_append, List.length_replicate]
      omega
    rw [hlength, List.take_left]
  | succ m ih =>
    intro k hk
    have hmore : ¬List.replicate n stop <:+ text ++ List.replicate (k + 1) stop := by
      rw [stops_suffix_iff stop n htext (k + 1)]
      omega
    rw [List.replicate_succ, List.cons_append, read, hsnoc, if_neg hmore]
    exact ih (k + 1) (by omega)

theorem read_frames (hn : 0 < n) (texts : List (List α)) (htexts : ∀ text ∈ texts, stop ∉ text) :
    read stop n (frames stop n texts) [] = (texts, []) := by
  induction texts with
  | nil => rfl
  | cons text texts ih =>
    obtain ⟨htext, hrest⟩ := List.forall_mem_cons.mp htexts
    obtain ⟨m, rfl⟩ : ∃ m, n = m + 1 := Nat.exists_eq_succ_of_ne_zero hn.ne'
    show read stop (m + 1)
      (text ++ List.replicate (m + 1) stop ++ frames stop (m + 1) texts) [] = _
    rw [List.append_assoc, read_text stop hn text _ _ htext List.not_mem_nil, List.nil_append]
    have hstops := read_stops stop htext (frames stop (m + 1) texts) m 0 (Nat.zero_add _)
    rw [List.replicate_zero, List.append_nil] at hstops
    rw [hstops, ih hrest]

/-- **What is read.** -/
theorem read_eq_iff (hn : 0 < n) {texts : List (List α)} (htexts : ∀ text ∈ texts, stop ∉ text)
    (line : List α) : read stop n line [] = (texts, []) ↔ line = frames stop n texts := by
  constructor
  · intro h
    have hsound := read_sound stop n line []
    rw [h, List.append_nil, List.nil_append] at hsound
    exact hsound.symm
  · rintro rfl
    exact read_frames stop hn texts htexts

end read

/-! ## Writing -/

inductive Op (α : Type*) where
  /-- What was meant, and what was written. -/
  | text (meant written : List α)
  | stop
  deriving DecidableEq, Repr

namespace Op

def bytes : Op α → List α
  | .text _ written => written
  | .stop => [stop]

def meant? : Op α → Option (List α)
  | .text meant _ => some meant
  | .stop => none

/-- How many stops are owed. -/
def owed : Op α → ℕ → ℕ
  | .text _ _, k => k + n
  | .stop, k => k - 1

/-- A stop is written only if it is owed. -/
def Owes (op : Op α) (k : ℕ) : Prop := op = .stop → 0 < k

/-- A text is not empty, contains no stop, and is as long as what was meant. -/
def Clear : Op α → Prop
  | .text meant written =>
    meant ≠ [] ∧ stop ∉ meant ∧ stop ∉ written ∧ written.length = meant.length
  | .stop => True

/-- A text is written as it was meant, with nothing owed. -/
def Undisturbed (op : Op α) (k : ℕ) : Prop :=
  ∀ meant written, op = .text meant written → k = 0 ∧ written = meant

theorem undisturbed_text {meant written : List α} {k : ℕ} :
    (Op.text meant written).Undisturbed k ↔ k = 0 ∧ written = meant := by
  constructor
  · intro h
    exact h meant written rfl
  · intro h _ _ heq
    cases heq
    exact h

theorem undisturbed_stop (k : ℕ) : (Op.stop : Op α).Undisturbed k := by
  intro _ _ h
  cases h

end Op

open Op

/-- What is on the line after all. -/
def line (ops : List (Op α)) : List α := ops.flatMap (Op.bytes stop)

def meants (ops : List (Op α)) : List (List α) := ops.filterMap Op.meant?

/-- The stops that are owed and the messages after them are what follows on the line. -/
theorem line_eq_iff (ops : List (Op α)) : ∀ k, (∀ op ∈ ops, op.Clear stop) →
    Along (owed n) Owes k ops → after (owed n) k ops = 0 →
      (line stop ops = List.replicate k stop ++ frames stop n (meants ops) ↔
        Along (owed n) Undisturbed k ops) := by
  induction ops with
  | nil =>
    intro k _ _ hend
    have hk : k = 0 := hend
    subst hk
    exact iff_of_true rfl trivial
  | cons op ops ih =>
    intro k hclear howes hend
    obtain ⟨hop, hops⟩ := List.forall_mem_cons.mp hclear
    rw [along_cons]
    cases op with
    | stop =>
      obtain ⟨j, rfl⟩ : ∃ j, k = j + 1 := Nat.exists_eq_succ_of_ne_zero (howes.1 rfl).ne'
      have hrest := ih j hops howes.2 hend
      rw [and_iff_right (undisturbed_stop (j + 1))]
      show stop :: line stop ops =
        stop :: (List.replicate j stop ++ frames stop n (meants ops)) ↔ _
      rw [List.cons_inj_right]
      exact hrest
    | text meant written =>
      obtain ⟨hne, -, hwritten, hlength⟩ := hop
      have hrest := ih (k + n) hops howes.2 hend
      rw [undisturbed_text]
      show written ++ line stop ops =
        List.replicate k stop ++ (meant ++ List.replicate n stop ++ frames stop n (meants ops)) ↔
          _ ∧ Along (owed n) Undisturbed (k + n) ops
      rw [← hrest]
      cases k with
      | zero =>
        rw [List.replicate_zero, List.nil_append, Nat.zero_add, List.append_assoc]
        constructor
        · intro h
          obtain ⟨hsame, hline⟩ := List.append_inj h hlength
          exact ⟨⟨rfl, hsame⟩, hline⟩
        · intro h
          rw [h.1.2, h.2]
      | succ j =>
        -- A stop is expected, and the text begins with none.
        apply iff_of_false
        · intro h
          have hpos : 0 < written.length := hlength ▸ List.length_pos_iff.mpr hne
          obtain ⟨a, rest, rfl⟩ := List.exists_cons_of_length_pos hpos
          rw [List.replicate_succ, List.cons_append, List.cons_append] at h
          exact hwritten ((List.cons.inj h).1 ▸ List.mem_cons_self)
        · intro h
          exact absurd h.1.1 (Nat.succ_ne_zero j)

/-- **Writers on one line.** When nothing is owed any more, what is read are the texts that were
meant, in the order they were written, exactly if each was written as meant and with nothing
owed. -/
theorem read_line_iff [DecidableEq α] (hn : 0 < n) {ops : List (Op α)}
    (hclear : ∀ op ∈ ops, op.Clear stop) (howes : Along (owed n) Owes 0 ops)
    (hend : after (owed n) 0 ops = 0) :
    read stop n (line stop ops) [] = (meants ops, []) ↔ Along (owed n) Undisturbed 0 ops := by
  have htexts : ∀ text ∈ meants ops, stop ∉ text := by
    intro text htext
    obtain ⟨op, hop, hmeant⟩ := List.mem_filterMap.mp htext
    cases op with
    | text meant written =>
      cases hmeant
      exact (hclear _ hop).2.1
    | stop => cases hmeant
  rw [read_eq_iff stop hn htexts]
  exact line_eq_iff stop n ops 0 hclear howes hend

end Terminated
