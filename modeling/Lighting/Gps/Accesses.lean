import Lighting.Model.Gps

/-!
# Which reads of the receiver are safe

The parser of `_gps_task` checks that its text contains `GNRMC` and nothing else. The tokens
it then works on need not come from that sentence, or be there at all; a return value of -1
goes through the test `if (len)`.

`gpsRead_defined_iff` lists what the bytes have to be for every access to be one: the tokens
the chain copies or looks at are there, the two it copies fit their buffers, and the two it
takes digits from are long enough.
-/

set_option autoImplicit false

namespace Lighting

open CString Strtok

theorem strcpyToken_eq_some {temp : Option Bytes} {token : Bytes} :
    strcpyToken temp = some token ↔ temp = some token ∧ token.length < 20 := by
  cases temp with
  | none => simp [strcpyToken]
  | some t =>
    simp only [strcpyToken, Option.bind_some, Option.ite_none_right_eq_some, Option.some.injEq]
    constructor
    · rintro ⟨hlt, rfl⟩
      exact ⟨rfl, hlt⟩
    · rintro ⟨rfl, hlt⟩
      exact ⟨hlt, rfl⟩

theorem sixChars_isSome (s : Bytes) : (sixChars s).isSome = true ↔ 6 ≤ s.length := by
  match s with
  | c₀ :: c₁ :: c₂ :: c₃ :: c₄ :: c₅ :: cs => simp [sixChars]
  | [] | [_] | [_, _] | [_, _, _] | [_, _, _, _] | [_, _, _, _, _] => simp [sixChars]

/-- The digits are there exactly if both strings have six characters. -/
theorem gpsForm_isSome (stringTime stringDate : Bytes) :
    (gpsForm stringTime stringDate).isSome = true ↔
      6 ≤ stringTime.length ∧ 6 ≤ stringDate.length := by
  rw [← sixChars_isSome, ← sixChars_isSome]
  unfold gpsForm
  cases sixChars stringTime with
  | none => exact ⟨fun h => Bool.noConfusion h, fun h => h.1⟩
  | some time =>
    cases sixChars stringDate with
    | none => exact ⟨fun h => Bool.noConfusion h, fun h => h.2⟩
    | some date => exact ⟨fun _ => ⟨rfl, rfl⟩, fun _ => rfl⟩

/-- What the tokens have to be: the second, of which the time is copied, and the third are
there, and if that says `A` and not `V` the tenth is, of which the date is copied. -/
def TokensFit (tokens : List Bytes) : Prop :=
  ∃ time status, tokens[1]? = some time ∧ tokens[2]? = some status ∧ time.length < 20 ∧
    (letterV ∉ status → letterA ∈ status →
      ∃ date, tokens[9]? = some date ∧ date.length < 20 ∧ 6 ≤ time.length ∧ 6 ≤ date.length)

/-- The reads that are safe to parse. -/
def SafeRead : UartRead → Prop
  | .failed => False
  | .bytes data _ => strstr (cstr data) rmcKey = true → TokensFit (rmcTokens (cstr data))

/-- A token that is there has those before it. -/
theorem getElem?_of_le {α : Type*} {l : List α} {m n : Nat} {a : α} (h : l[n]? = some a)
    (hm : m ≤ n) : ∃ b, l[m]? = some b := by
  obtain ⟨hn, -⟩ := List.getElem?_eq_some_iff.mp h
  exact ⟨l[m], List.getElem?_eq_getElem (Nat.lt_of_le_of_lt hm hn)⟩

/-- The part of the chain behind the status `A`. -/
theorem dateBranch_defined_iff (tokens : List Bytes) (time : Bytes) :
    ((tokens[3]?.bind fun _ => tokens[5]?.bind fun _ =>
        (strcpyToken tokens[9]?).map (Rmc.fixed time)).bind gpsConvert).isSome = true ↔
      ∃ date, tokens[9]? = some date ∧ date.length < 20 ∧ 6 ≤ time.length ∧ 6 ≤ date.length := by
  cases hdate : tokens[9]? with
  | none => simp [strcpyToken]
  | some date =>
    obtain ⟨latitude, hlatitude⟩ := getElem?_of_le hdate (m := 3) (by decide)
    obtain ⟨longitude, hlongitude⟩ := getElem?_of_le hdate (m := 5) (by decide)
    rw [hlatitude, hlongitude, Option.bind_some, Option.bind_some]
    by_cases hlt : date.length < 20
    · have hcopy : strcpyToken (some date) = some date := strcpyToken_eq_some.mpr ⟨rfl, hlt⟩
      simp [hcopy, gpsConvert, gpsForm_isSome, hlt]
    · simp [strcpyToken, hlt]

theorem rmcChain_defined_iff (data : Bytes) :
    ((rmcChain data).bind gpsConvert).isSome = true ↔ TokensFit (rmcTokens data) := by
  rw [rmcChain_eq]
  generalize rmcTokens data = tokens
  unfold TokensFit
  cases htime : tokens[1]? with
  | none => simp [strcpyToken]
  | some time =>
    by_cases hlt : time.length < 20
    · have hcopy : strcpyToken (some time) = some time := strcpyToken_eq_some.mpr ⟨rfl, hlt⟩
      rw [hcopy, Option.bind_some]
      cases hstatus : tokens[2]? with
      | none => simp
      | some status =>
        rw [Option.bind_some]
        by_cases hV : letterV ∈ status
        · simp [hV, hlt, gpsConvert]
        · by_cases hA : letterA ∈ status
          · rw [if_neg hV, if_pos hA, dateBranch_defined_iff]
            simp [hV, hA, hlt]
          · simp [hV, hA, hlt, gpsConvert]
    · simp [strcpyToken, hlt]

/-- **When a read is safe.** Every access of an iteration is one exactly if `uart_read_bytes`
did not fail and, should the text contain `GNRMC`, the tokens behind its first `$`-piece fit. -/
theorem gpsRead_defined_iff (r : UartRead) : (gpsRead r).isSome = true ↔ SafeRead r := by
  cases r with
  | failed => simp [gpsRead, SafeRead]
  | bytes data hlt =>
    simp only [gpsRead, SafeRead]
    by_cases hempty : data.length = 0
    · obtain rfl := List.length_eq_zero_iff.mp hempty
      have hnone : strstr (cstr []) rmcKey = false := by decide
      simp [hnone]
    · rw [if_neg hempty]
      by_cases hrmc : strstr (cstr data) rmcKey = true
      · rw [if_pos hrmc, rmcChain_defined_iff]
        simp [hrmc]
      · simp [hrmc]

/-- A sentence that is cut off behind its name, and a failed read. -/
theorem gpsRead_not_defined :
    gpsRead (.bytes (ascii ['$', 'G', 'N', 'R', 'M', 'C', ',']) (by decide)) = none ∧
      gpsRead .failed = none := by
  refine ⟨?_, rfl⟩
  decide

end Lighting
