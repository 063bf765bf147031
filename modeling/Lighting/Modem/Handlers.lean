import Lighting.Model.Modem

/-!
# What a handler can take

A line that ends the command is not stored, so any will do. A line that is stored has to be short
enough for the tail to be looked for within the strings, and an operator line must have no more
fields than `bg96_handle_cops` has pointers for, less the null pointer behind them
(`cops_safe_iff`). The handlers of a modem that keeps to this leave the object in one piece
(`handle_isSome`).
-/

set_option autoImplicit false

namespace Lighting.Dialogue

open CString ByteMemory

/-! ## The fields of an operator line -/

theorem splitFields_eq (room : Nat) (saved : Option Bytes) : splitFields room saved =
    if (Strtok.remaining commaByte saved).length < room then
      some (Strtok.remaining commaByte saved)
    else none := by
  induction room generalizing saved with
  | zero => rfl
  | succ room ih =>
    have hfst := Strtok.strtok_fst commaByte saved
    have hsnd := Strtok.strtok_snd commaByte saved
    unfold splitFields
    generalize Strtok.strtok commaByte saved = r at hfst hsnd ⊢
    obtain ⟨field, saved'⟩ := r
    dsimp only at hfst hsnd
    subst hfst
    cases hl : Strtok.remaining commaByte saved with
    | nil => rfl
    | cons field fields =>
      rw [hl, List.tail_cons] at hsnd
      dsimp only [List.head?_cons]
      rw [ih, hsnd, List.length_cons]
      by_cases hlt : fields.length < room
      · rw [if_pos hlt, if_pos (by omega)]
        rfl
      · rw [if_neg hlt, if_neg (by omega)]
        rfl

/-- A line that ends before the last string does has no tail behind it. -/
theorem storeString_isSome (f : CharField) {line : Bytes} (m : Mem)
    (hlen : f.start + line.length ≤ actAddress) : (storeString f line m).isSome := by
  unfold storeString
  dsimp only
  split
  · unfold stripCrLfTail clearByte
    split
    · rw [if_pos (by omega)]
      rfl
    · split
      · rw [if_pos (by omega)]
        rfl
      · rfl
  · rfl

/-- With fields of the size of the operator's name or less, the loop keeps within its array of five
pointers exactly if there are at most four. -/
theorem storeCops_isSome_iff {line : Bytes} (m : Mem) (hkey : memcmpEq line copsKey = true)
    (hshort : ∀ field ∈ Strtok.tokens commaByte line, field.length ≤ 32) :
    (storeCops line m).isSome ↔ (Strtok.tokens commaByte line).length ≤ 4 := by
  have hsplit := splitFields_eq 5 (some line)
  have hremaining : Strtok.remaining commaByte (some line) = Strtok.tokens commaByte line := rfl
  rw [hremaining] at hsplit
  unfold storeCops
  rw [if_pos hkey, hsplit]
  by_cases hle : (Strtok.tokens commaByte line).length ≤ 4
  · rw [if_pos (by omega)]
    have hoper : (if 3 ≤ (Strtok.tokens commaByte line).length then
        storeString .oper ((Strtok.tokens commaByte line).getD 2 []) m
        else some m).isSome := by
      split
      · rename_i hthree
        apply storeString_isSome
        have hfield := hshort _ (List.getElem_mem (show 2 < (Strtok.tokens commaByte line).length by
          omega))
        rw [List.getD_eq_getElem _ _ (by omega)]
        simp only [CharField.oper, actAddress]
        omega
      · rfl
    dsimp only
    refine iff_of_true ?_ hle
    split
    · rw [Option.isSome_map]
      exact hoper
    · exact hoper
  · rw [if_neg (by omega)]
    exact iff_of_false Bool.false_ne_true hle

/-- A modem object as `calloc` leaves it. -/
def freshDce : Dce := ⟨⟨fun _ => 0⟩, ⟨0, 0, 0, 0, 0⟩, .processing, none⟩

/-- **The operator line that overflows.** With fields of the size of the operator's name or less,
`bg96_handle_cops` keeps within its array exactly if the line has a result code in it, and is not
split, or has at most four fields. -/
theorem cops_safe_iff (line : Bytes) (d : Dce) (hkey : memcmpEq line copsKey = true)
    (hshort : ∀ field ∈ Strtok.tokens commaByte line, field.length ≤ 32) :
    (LineHandler.bg96HandleCops.handle line d).isSome ↔
      resultCode line ≠ none ∨ (Strtok.tokens commaByte line).length ≤ 4 := by
  unfold LineHandler.handle
  rw [show LineHandler.bg96HandleCops.verdict line = resultCode line from rfl]
  cases hcode : resultCode line with
  | some state => exact iff_of_true rfl (.inl (Option.some_ne_none state))
  | none =>
    show ((storeCops line d.memory).map _).isSome ↔ _
    rw [Option.isSome_map, storeCops_isSome_iff d.memory hkey hshort]
    constructor
    · exact .inr
    · intro h
      exact h.resolve_left fun hne => hne rfl

/-- An operator that has a comma in its name. -/
def commaOperator : Bytes :=
  copsKey ++ ascii [':', ' ', '0', ',', '0', ',', '"', 'A', ',', 'B', '"', ',', '7', '\r', '\n']

theorem cops_safe_iff_commaOperator :
    (LineHandler.bg96HandleCops.handle commaOperator freshDce).isSome ↔
      resultCode commaOperator ≠ none ∨ (Strtok.tokens commaByte commaOperator).length ≤ 4 :=
  cops_safe_iff commaOperator freshDce (by decide) (by decide)

/-! ## Lines that keep the object in one piece -/

/-- A line that is stored within the strings. -/
def Keeps (h : LineHandler) (line : Bytes) : Prop :=
  match h with
  | .bg96HandleCgmm | .bg96HandleCgsn | .bg96HandleCimi => line.length ≤ 64
  | .bg96HandleCops =>
    memcmpEq line copsKey = true →
      (Strtok.tokens commaByte line).length ≤ 4 ∧
        ∀ field ∈ Strtok.tokens commaByte line, field.length ≤ 32
  | _ => True

variable {h : LineHandler} {line : Bytes}

theorem store_isSome (d : Dce) (hkeeps : Keeps h line) : (h.store line d).isSome := by
  cases h with
  | bg96HandleCgmm | bg96HandleCgsn | bg96HandleCimi =>
    have hlength : line.length ≤ 64 := hkeeps
    show ((storeString _ line d.memory).map _).isSome
    rw [Option.isSome_map]
    apply storeString_isSome
    simp only [CharField.name, CharField.imei, CharField.imsi, actAddress]
    omega
  | bg96HandleCops =>
    show ((storeCops line d.memory).map _).isSome
    rw [Option.isSome_map]
    by_cases hkey : memcmpEq line copsKey = true
    · obtain ⟨hfour, hshort⟩ := hkeeps hkey
      exact (storeCops_isSome_iff d.memory hkey hshort).mpr hfour
    · unfold storeCops
      rw [if_neg hkey]
      rfl
  | _ => rfl

theorem handle_isSome (d : Dce) (hkeeps : h.verdict line = none → Keeps h line) :
    (h.handle line d).isSome := by
  unfold LineHandler.handle
  cases hverdict : h.verdict line with
  | some state => rfl
  | none => exact store_isSome d (hkeeps hverdict)

end Lighting.Dialogue
