import Mathlib.Data.List.Induction
import Mathlib.Data.List.Perm.Basic
import Mathlib.Order.WellFounded
import Lighting.Lib.Runs

/-!
# One scratch buffer for many callers

A caller writes its packing to the front of a buffer and later hands over as much of the
buffer as its packing is long. The buffer is shared and nothing keeps the callers apart. A
hand-over is taken or refused; what is refused is gone.

What is taken is the packing of the callers, each once, in every order of their steps in
which a caller hands over before the next one packs, if nothing is refused (`items_eq`). What
is refused is missing in the end (`taken_of_length`), and in any other order there are packings
for which the rest is not right: of the callers that lose the buffer the one that packed first
is never handed over. `items_perm_iff` is both directions.
-/

set_option autoImplicit false

namespace Scratch

open Runs

variable {ι μ α : Type*}

inductive Op (ι : Type*) where
  | pack (caller : ι)
  | send (caller : ι) (taken : Bool)
  deriving DecidableEq, Repr

/-- The buffer after a write to its front. -/
def overlay (packing buffer : List α) : List α := packing ++ buffer.drop packing.length

def step (packing : ι → List α) : Op ι → List α → List α
  | .pack i, buffer => overlay (packing i) buffer
  | .send _ _, buffer => buffer

/-- What a step hands over, if it is taken. -/
def item (packing : ι → List α) : Op ι → List α → Option (List α)
  | .pack _, _ => none
  | .send i taken, buffer => if taken then some (buffer.take (packing i).length) else none

/-- Who packed last. -/
def owner : Op ι → Option ι → Option ι
  | .pack i, _ => some i
  | .send _ _, o => o

/-- A caller hands over only while it was the last to pack. -/
def OwnSend (op : Op ι) (o : Option ι) : Prop := ∀ i taken, op = .send i taken → o = some i

/-- A hand-over is taken. -/
def Op.Taken (op : Op ι) : Prop := ∀ i taken, op = .send i taken → taken = true

def Op.pack? : Op ι → Option ι
  | .pack i => some i
  | .send _ _ => none

def Op.send? : Op ι → Option ι
  | .pack _ => none
  | .send i _ => some i

/-- The callers in the order they pack. -/
def packers (ops : List (Op ι)) : List ι := ops.filterMap Op.pack?

/-- The callers in the order they hand over, taken or not. -/
def senders (ops : List (Op ι)) : List ι := ops.filterMap Op.send?

/-- Each caller packs once, and hands over once and later. -/
structure Interleaving (callers : List ι) (ops : List (Op ι)) : Prop where
  nodup : callers.Nodup
  packs : (packers ops).Perm callers
  sends : (senders ops).Perm callers
  packs_first : ∀ js i taken, js ++ [.send i taken] <+: ops → i ∈ packers js

/-- The last to pack finds its packing at the front of the buffer. -/
def Fronted (packing : ι → List α) (o : Option ι) (buffer : List α) : Prop :=
  ∀ i, o = some i → packing i <+: buffer

theorem Fronted.step {packing : ι → List α} {o : Option ι} {buffer : List α}
    (h : Fronted packing o buffer) (op : Op ι) :
    Fronted packing (owner op o) (step packing op buffer) := by
  cases op with
  | pack i =>
    rintro j ⟨rfl⟩
    exact List.prefix_append _ _
  | send i taken => exact h

theorem Fronted.after {packing : ι → List α} (ops : List (Op ι)) :
    ∀ {o : Option ι} {buffer : List α}, Fronted packing o buffer →
      Fronted packing (after owner o ops) (after (Scratch.step packing) buffer ops) := by
  induction ops with
  | nil => exact fun h => h
  | cons op ops ih => exact fun h => ih (h.step op)

theorem senders_cons (op : Op ι) (ops : List (Op ι)) :
    senders (op :: ops) = op.send?.toList ++ senders ops := by
  cases op <;> rfl

/-- **Callers that keep apart.** What is handed over are their packings. -/
theorem items_eq {packing : ι → List α} {ops : List (Op ι)} (htaken : ∀ op ∈ ops, op.Taken) :
    ∀ {o : Option ι} {buffer : List α}, Fronted packing o buffer → Along owner OwnSend o ops →
      outputs (step packing) (item packing) buffer ops = (senders ops).map packing := by
  induction ops with
  | nil => intro o buffer _ _; rfl
  | cons op ops ih =>
    intro o buffer hfront halong
    have hrest := ih (fun op hop => htaken op (List.mem_cons_of_mem _ hop)) (hfront.step op)
      halong.2
    rw [outputs_cons, hrest, senders_cons, List.map_append]
    congr 1
    cases op with
    | pack i => rfl
    | send i taken =>
      obtain rfl : taken = true := htaken _ List.mem_cons_self i taken rfl
      -- The front of the buffer is the sender's own.
      have hown : packing i <+: buffer := hfront i (halong.1 i true rfl)
      show [buffer.take (packing i).length] = [packing i]
      rw [← List.prefix_iff_eq_take.mp hown]

/-! ## Refusals -/

theorem items_length_le (packing : ι → List α) (buffer : List α) (ops : List (Op ι)) :
    (outputs (step packing) (item packing) buffer ops).length ≤ (senders ops).length := by
  induction ops generalizing buffer with
  | nil => rfl
  | cons op ops ih =>
    have hrest := ih (step packing op buffer)
    rw [outputs_cons, senders_cons, List.length_append, List.length_append]
    cases op with
    | pack i => simpa [item, Op.send?] using hrest
    | send i taken =>
      cases taken
      · simp only [item, Op.send?, Option.toList_some, List.length_singleton, Bool.false_eq_true,
          if_false, Option.toList_none, List.length_nil]
        omega
      · simpa [item, Op.send?] using hrest

/-- **Nothing is missing only if nothing was refused.** -/
theorem taken_of_length {packing : ι → List α} {ops : List (Op ι)} :
    ∀ {buffer : List α}, (outputs (step packing) (item packing) buffer ops).length =
        (senders ops).length → ∀ op ∈ ops, op.Taken := by
  induction ops with
  | nil => exact fun _ op hop => absurd hop (by simp)
  | cons op ops ih =>
    intro buffer hlength
    have hle := items_length_le packing (step packing op buffer) ops
    rw [outputs_cons, senders_cons, List.length_append, List.length_append] at hlength
    have hop : op.Taken := by
      rintro i taken rfl
      by_contra hnot
      simp only [item, Op.send?, hnot, if_false, Option.toList_none, Option.toList_some,
        List.length_nil, List.length_singleton] at hlength
      omega
    have hone : (item packing op buffer).toList.length = op.send?.toList.length := by
      cases op with
      | pack i => rfl
      | send i taken =>
        obtain rfl : taken = true := hop i taken rfl
        rfl
    have hrest : (outputs (step packing) (item packing) (step packing op buffer) ops).length =
        (senders ops).length := by omega
    rintro op' hop'
    rcases List.mem_cons.mp hop' with rfl | hop'
    · exact hop
    · exact ih hrest op' hop'

/-! ## Callers that do not -/

theorem after_owner (ops : List (Op ι)) : after owner none ops = (packers ops).getLast? := by
  induction ops using List.reverseRecOn with
  | nil => rfl
  | append_singleton ops op ih =>
    rw [after_append, ih, packers, packers, List.filterMap_append]
    cases op with
    | pack i =>
      show some i = (_ ++ [i]).getLast?
      rw [List.getLast?_concat]
    | send i taken =>
      show _ = (_ ++ []).getLast?
      rw [List.append_nil]
      rfl

theorem packers_initial {js ops : List (Op ι)} (h : js <+: ops) : packers js <+: packers ops := by
  obtain ⟨ks, rfl⟩ := h
  exact ⟨packers ks, (List.filterMap_append).symm⟩

/-- Who packs last comes after everyone who packs. -/
theorem idxOf_le_last [DecidableEq ι] {l l' : List ι} (hpre : l <+: l') (hnodup : l'.Nodup)
    {i m : ι} (hi : i ∈ l) (hm : l.getLast? = some m) : l'.idxOf i ≤ l'.idxOf m := by
  obtain ⟨t, rfl⟩ := hpre
  obtain ⟨front, rfl⟩ := List.getLast?_eq_some_iff.mp hm
  have hnot : m ∉ front := by
    intro hmem
    have hfront : (front ++ [m]).Nodup := hnodup.sublist (List.sublist_append_left _ _)
    exact (List.nodup_append.mp hfront).2.2 m hmem m List.mem_cons_self rfl
  have hlast : (front ++ [m] ++ t).idxOf m = front.length := by
    rw [List.append_assoc, List.idxOf_append_of_notMem hnot]
    simp
  rw [hlast, List.append_assoc]
  rcases List.mem_append.mp hi with hin | hin
  · rw [List.idxOf_append_of_mem hin]
    exact Nat.le_of_lt (List.idxOf_lt_length_of_mem hin)
  · rw [List.mem_singleton.mp hin, List.idxOf_append_of_notMem hnot]
    simp

/-- A caller hands over once. -/
theorem same_send {callers : List ι} {ops : List (Op ι)} (h : Interleaving callers ops)
    {js js' : List (Op ι)} {i : ι} {taken taken' : Bool} (hpre : js ++ [.send i taken] <+: ops)
    (hpre' : js' ++ [.send i taken'] <+: ops) : js = js' := by
  have hnodup : (senders ops).Nodup := h.sends.nodup_iff.mpr h.nodup
  -- A second hand-over after the first would be there twice.
  have htwice : ∀ {ks ks' : List (Op ι)} {t t' : Bool}, ks ++ [.send i t] <+: ks' →
      ks' ++ [.send i t'] <+: ops → False := by
    rintro ks ks' t t' ⟨rest, rfl⟩ ⟨rest', rfl⟩
    simp only [senders, List.filterMap_append, List.filterMap_cons, List.filterMap_nil, Op.send?]
      at hnodup
    have hfront := hnodup.sublist (List.sublist_append_left _ _)
    refine (List.nodup_append.mp hfront).2.2 i ?_ i List.mem_cons_self rfl
    simp
  have hdone : ∀ {ks ks' : List (Op ι)} {t : Bool}, ks <+: ops → ks' ++ [.send i t] <+: ops →
      ks.length ≤ ks'.length → ks <+: ks' := fun hks hks' hle =>
    List.prefix_of_prefix_length_le hks ((List.prefix_append _ _).trans hks') hle
  rcases Nat.lt_trichotomy js.length js'.length with hlt | heq | hgt
  · exact (htwice (hdone hpre hpre' (by simpa using Nat.succ_le_of_lt hlt)) hpre').elim
  · exact (hdone ((List.prefix_append _ _).trans hpre) hpre' heq.le).eq_of_length heq
  · exact (htwice (hdone hpre' hpre (by simpa using Nat.succ_le_of_lt hgt)) hpre).elim

/-- If some callers lose the buffer, the one of them that packed first is the owner at no
hand-over. -/
theorem exists_lost [DecidableEq ι] {callers : List ι} {ops : List (Op ι)}
    (h : Interleaving callers ops) (hnot : ¬Along owner OwnSend none ops) :
    ∃ m ∈ callers, ∀ js i taken, js ++ [.send i taken] <+: ops →
      after owner none js ≠ some m := by
  have hnodup : (packers ops).Nodup := h.packs.nodup_iff.mpr h.nodup
  let lost : Set ι :=
    {i | ∃ js taken, js ++ [.send i taken] <+: ops ∧ after owner none js ≠ some i}
  have hlost : lost.Nonempty := by
    rw [along_iff_inputs] at hnot
    by_contra hempty
    refine hnot fun js op hpre i taken hop => ?_
    subst hop
    by_contra hne
    exact hempty ⟨i, js, taken, hpre, hne⟩
  -- The lost caller that packs first.
  obtain ⟨m, ⟨js₀, taken₀, hpre₀, hne₀⟩, hfirst⟩ :=
    (measure fun i => (packers ops).idxOf i).wf.has_min lost hlost
  have hmem : ∀ {js i taken}, js ++ [.send i taken] <+: ops → i ∈ packers ops := fun hpre =>
    (packers_initial ((List.prefix_append _ _).trans hpre)).subset (h.packs_first _ _ _ hpre)
  refine ⟨m, h.packs.subset (hmem hpre₀), ?_⟩
  intro js i taken hpre howner
  by_cases hi : i = m
  · -- Its own hand-over, of which there is one.
    subst hi
    exact hne₀ (by rw [same_send h hpre₀ hpre]; exact howner)
  · have hlosti : i ∈ lost := ⟨js, taken, hpre, by rw [howner]; simpa using Ne.symm hi⟩
    have hle : (packers ops).idxOf i ≤ (packers ops).idxOf m := by
      rw [after_owner] at howner
      exact idxOf_le_last (packers_initial ((List.prefix_append _ _).trans hpre)) hnodup
        (h.packs_first js i taken hpre) howner
    have hge : ¬(packers ops).idxOf i < (packers ops).idxOf m := hfirst i hlosti
    have heq : (packers ops).idxOf i = (packers ops).idxOf m := by omega
    exact hi ((List.idxOf_inj (hmem hpre)).mp heq)

/-- A hand-over takes what the owner has packed, if all packings are of one length. -/
theorem item_owner {packing : ι → List α} {n : Nat} (hlen : ∀ i, (packing i).length = n)
    {o : Option ι} {buffer : List α} (hfront : Fronted packing o buffer) {i j : ι}
    (howner : o = some j) {taken : Bool} {x : List α}
    (hx : item packing (.send i taken) buffer = some x) : x = packing j := by
  have hown := hfront j howner
  have htake : buffer.take (packing i).length = x := by
    cases taken with
    | false => exact absurd hx (by simp [item])
    | true => exact Option.some.inj hx
  rw [← htake, hlen i, ← hlen j, ← List.prefix_iff_eq_take.mp hown]

/-- **One scratch buffer.** For every interleaving of the callers' steps and all answers to
their hand-overs: whatever their messages are, what is taken are the packings of the messages,
each once, exactly if nothing is refused and every caller hands over while it was the last to
pack. -/
theorem items_perm_iff [DecidableEq ι] {pack : μ → List α} {a b : μ}
    (hlen : (pack a).length = (pack b).length) (hne : pack a ≠ pack b) {callers : List ι}
    {ops : List (Op ι)} (h : Interleaving callers ops) (buffer : List α) :
    (∀ message : ι → μ,
        (outputs (step (pack ∘ message)) (item (pack ∘ message)) buffer ops).Perm
          (callers.map (pack ∘ message))) ↔
      (∀ op ∈ ops, op.Taken) ∧ Along owner OwnSend none ops := by
  have hstart : ∀ packing : ι → List α, Fronted packing none buffer := fun _ _ hnone =>
    absurd hnone (Option.some_ne_none _).symm
  constructor
  · intro hall
    have hlength := (hall fun _ => b).length_eq
    rw [List.length_map, ← h.sends.length_eq] at hlength
    refine ⟨taken_of_length hlength, ?_⟩
    by_contra hnot
    obtain ⟨m, hm, hlost⟩ := exists_lost h hnot
    -- Only the lost caller has the message `a`.
    let message : ι → μ := fun i => if i = m then a else b
    have hsize : ∀ i, ((pack ∘ message) i).length = (pack b).length := by
      intro i
      by_cases hi : i = m
      · simp [message, hi, hlen]
      · simp [message, hi]
    have ha : pack a ∈ callers.map (pack ∘ message) :=
      List.mem_map.mpr ⟨m, hm, by simp [message]⟩
    rw [← (hall message).mem_iff, mem_outputs] at ha
    obtain ⟨js, op, hpre, hitem⟩ := ha
    cases op with
    | pack i => exact absurd hitem (Option.some_ne_none _).symm
    | send i taken =>
      have hmem := h.packs_first js i taken hpre
      obtain ⟨j, howner⟩ : ∃ j, after owner none js = some j := by
        rw [after_owner]
        exact ⟨_, List.getLast?_eq_some_getLast (List.ne_nil_of_mem hmem)⟩
      have hj : j ≠ m := fun hj => hlost js i taken hpre (hj ▸ howner)
      have heq := item_owner hsize ((hstart (pack ∘ message)).after js) howner hitem
      simp only [Function.comp_apply, message, if_neg hj] at heq
      exact hne heq
  · rintro ⟨htaken, halong⟩ message
    rw [items_eq htaken (hstart _) halong]
    exact h.sends.map _

end Scratch
