import Mathlib.Data.List.Basic
import Mathlib.Data.List.TakeWhile

/-!
# `strtok`

The tokenizer of the C library, as a function on the saved pointer: `none` is a null pointer,
`some s` points at the rest `s` of a string. A call skips the delimiters it is given, cuts the
token at the next one and leaves the pointer behind it; at the end of the string it answers
`none` and goes on answering `none`.

One call is a page of case distinctions and ten of them in a row are hopeless, so nothing
below looks at a call. `remaining` is the list of tokens that calls with one delimiter are
going to answer, by `List.splitOn`, and the two halves of a call are the head and the tail of
it (`strtok_fst`, `strtok_snd`).
-/

set_option autoImplicit false

namespace Strtok

variable {α : Type*} [DecidableEq α]

/-- A call: the token, and the pointer saved for the next call. -/
def strtok (delim : α) : Option (List α) → Option (List α) × Option (List α)
  | none => (none, none)
  | some s =>
    let start := s.dropWhile (· == delim)
    if start = [] then (none, none)
    else
      ( some (start.takeWhile (· != delim)),
        match start.dropWhile (· != delim) with
        | [] => none
        | _ :: rest => some rest )

/-- The pieces between delimiters that have something in them. -/
def tokens (delim : α) (s : List α) : List (List α) := (s.splitOn delim).filter (!·.isEmpty)

/-- The tokens that are left behind a saved pointer. -/
def remaining (delim : α) (p : Option (List α)) : List (List α) := tokens delim (p.getD [])

section tokens

variable {delim : α}

theorem tokens_append (s t : List α) :
    tokens delim (s ++ delim :: t) = tokens delim s ++ tokens delim t := by
  unfold tokens
  rw [List.splitOn_append_cons_self, List.filter_append]

@[simp] theorem tokens_delim_cons (s : List α) : tokens delim (delim :: s) = tokens delim s :=
  tokens_append [] s

/-- A text without a delimiter is a token, unless it is empty. -/
theorem tokens_of_not_mem {s : List α} (h : delim ∉ s) (hne : s ≠ []) :
    tokens delim s = [s] := by
  unfold tokens
  rw [List.splitOn_eq_singleton h]
  simp [hne]

theorem tokens_field {s : List α} (h : delim ∉ s) (t : List α) :
    tokens delim (s ++ delim :: t) = if s = [] then tokens delim t else s :: tokens delim t := by
  by_cases hne : s = []
  · simp [hne]
  · rw [tokens_append, tokens_of_not_mem h hne, if_neg hne, List.singleton_append]

theorem tokens_dropWhile (s : List α) :
    tokens delim (s.dropWhile (· == delim)) = tokens delim s := by
  induction s with
  | nil => rfl
  | cons a s ih =>
    by_cases ha : a = delim
    · subst ha
      rw [List.dropWhile_cons_of_pos (by simp), ih, tokens_delim_cons]
    · rw [List.dropWhile_cons_of_neg (by simpa using ha)]

end tokens

/-- What stands behind the first token of a string and the delimiter that ends it. -/
def behind (delim : α) (s : List α) : List α :=
  ((s.dropWhile (· == delim)).dropWhile (· != delim)).tail

/-- If a delimiter ends the first token, what follows the string is behind it, too. -/
theorem behind_append {delim : α} {s : List α} (h : delim ∈ s.dropWhile (· == delim))
    (t : List α) : behind delim (s ++ t) = behind delim s ++ t := by
  have hne : s.dropWhile (· == delim) ≠ [] := List.ne_nil_of_mem h
  have hstop : (s.dropWhile (· == delim)).dropWhile (· != delim) ≠ [] := by
    rw [ne_eq, List.dropWhile_eq_nil_iff]
    intro hall
    have := hall delim h
    simp at this
  unfold behind
  rw [List.dropWhile_append, if_neg (by simpa using hne), List.dropWhile_append,
    if_neg (by simpa using hstop), List.tail_append_of_ne_nil hstop]

/-- The tokens another delimiter makes of it. -/
theorem remaining_strtok (delim other : α) (s : List α) :
    remaining other (strtok delim (some s)).2 = tokens other (behind delim s) := by
  unfold strtok behind
  dsimp only
  split
  · rename_i hstart
    rw [hstart]
    rfl
  · cases (s.dropWhile (· == delim)).dropWhile (· != delim) <;> rfl

/-! ## A call is a step through the tokens -/

theorem dropWhile_head_ne {delim a : α} {s rest : List α}
    (h : s.dropWhile (· == delim) = a :: rest) : a ≠ delim := by
  have hhead := List.head?_dropWhile_not (· == delim) s
  rw [h] at hhead
  simpa using hhead

/-- A text that does not start with a delimiter is its first token and what is behind it. -/
theorem tokens_start {delim : α} {s : List α} (hne : s.takeWhile (· != delim) ≠ []) :
    tokens delim s = s.takeWhile (· != delim) ::
      remaining delim (match s.dropWhile (· != delim) with
        | [] => none
        | _ :: rest => some rest) := by
  have hcut := List.takeWhile_append_dropWhile (p := (· != delim)) (l := s)
  have hmem : delim ∉ s.takeWhile (· != delim) := fun h => by
    have := List.mem_takeWhile_imp h
    simp at this
  cases hrest : s.dropWhile (· != delim) with
  | nil =>
    -- The token runs to the end of the string.
    have htokens := tokens_of_not_mem hmem hne
    rw [hrest, List.append_nil] at hcut
    conv_lhs => rw [← hcut]
    rw [htokens]
    rfl
  | cons b rest =>
    have hb : b = delim := by
      have hhead := List.head?_dropWhile_not (· != delim) s
      rw [hrest] at hhead
      simpa using hhead
    subst hb
    rw [hrest] at hcut
    conv_lhs => rw [← hcut]
    rw [tokens_field hmem, if_neg hne]
    rfl

theorem strtok_eq (delim : α) (p : Option (List α)) :
    (strtok delim p).1 = (remaining delim p).head? ∧
      remaining delim (strtok delim p).2 = (remaining delim p).tail := by
  cases p with
  | none => exact ⟨rfl, rfl⟩
  | some s =>
    have hskip : remaining delim (some s) = tokens delim (s.dropWhile (· == delim)) :=
      (tokens_dropWhile s).symm
    rw [hskip]
    unfold strtok
    dsimp only
    cases hstart : s.dropWhile (· == delim) with
    | nil => exact ⟨rfl, rfl⟩
    | cons a t =>
      have hne : (a :: t).takeWhile (· != delim) ≠ [] := by
        rw [List.takeWhile_cons_of_pos (by simpa using dropWhile_head_ne hstart)]
        simp
      rw [if_neg (by simp), tokens_start hne]
      exact ⟨rfl, rfl⟩

@[simp] theorem strtok_fst (delim : α) (p : Option (List α)) :
    (strtok delim p).1 = (remaining delim p).head? := (strtok_eq delim p).1

@[simp] theorem strtok_snd (delim : α) (p : Option (List α)) :
    remaining delim (strtok delim p).2 = (remaining delim p).tail := (strtok_eq delim p).2

end Strtok
