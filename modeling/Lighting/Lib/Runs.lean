import Mathlib.Data.List.Basic

/-!
# Runs of a step function

A reactive program is a function `step : ι → σ → σ`: one input, handled to completion. A run
is a list of inputs, `after step s is` is the state it ends in, and `Along step P s is` says
that `P` held of every input together with the state it was handled in.

`after_invariant` carries an invariant through a run. `Along` is used in both directions: as a
*guard* it says under which inputs a run is considered, as a *conclusion* it is a property of
transitions. `along_congr` says that two transition properties that agree wherever the invariant
holds are the same property of runs, and `along_lockstep` does the same for two machines that
stay related only as long as the property holds.

`Always` is about states: `P` holds in every state the run reaches. `always_iff_along` turns
it into a property of transitions. If, from states that are fine, one step stays fine exactly
under a guard, then a run is fine throughout exactly if every step of it met the guard.
-/

set_option autoImplicit false

namespace Runs

variable {σ ι : Type*} (step : ι → σ → σ)

def after (s : σ) (is : List ι) : σ :=
  is.foldl (fun s i => step i s) s

/-- `P` holds of every input of the run and the state it is handled in. -/
def Along (P : ι → σ → Prop) : σ → List ι → Prop
  | _, [] => True
  | s, i :: is => P i s ∧ Along P (step i s) is

def Always (P : σ → Prop) (s : σ) (is : List ι) : Prop :=
  ∀ js, js <+: is → P (after step s js)

/-- What the inputs of a run put out, in order. -/
def outputs {ω : Type*} (out : ι → σ → Option ω) : σ → List ι → List ω
  | _, [] => []
  | s, i :: is => (out i s).toList ++ outputs out (step i s) is

@[simp] theorem after_nil (s : σ) : after step s [] = s := rfl

@[simp] theorem after_cons (s : σ) (i : ι) (is : List ι) :
    after step s (i :: is) = after step (step i s) is := rfl

@[simp] theorem outputs_nil {ω : Type*} (out : ι → σ → Option ω) (s : σ) :
    outputs step out s [] = [] := rfl

theorem outputs_cons {ω : Type*} (out : ι → σ → Option ω) (s : σ) (i : ι) (is : List ι) :
    outputs step out s (i :: is) = (out i s).toList ++ outputs step out (step i s) is := rfl

theorem outputs_bind {ω ω' : Type*} (out : ι → σ → Option ω) (f : ω → Option ω') (s : σ)
    (is : List ι) : outputs step (fun i s => (out i s).bind f) s is =
      (outputs step out s is).filterMap f := by
  induction is generalizing s with
  | nil => rfl
  | cons i is ih =>
    rw [outputs_cons, outputs_cons, ih, List.filterMap_append]
    congr 1
    cases hout : out i s with
    | none => rfl
    | some x =>
      cases hf : f x <;> simp [hf]

/-- What is put out of every input alike. -/
theorem outputs_some {ω : Type*} (out : ι → ω) (s : σ) (is : List ι) :
    outputs step (fun i _ => some (out i)) s is = is.map out := by
  induction is generalizing s with
  | nil => rfl
  | cons i is ih => rw [outputs_cons, ih, List.map_cons, Option.toList_some, List.singleton_append]

theorem after_append (s : σ) (is js : List ι) :
    after step s (is ++ js) = after step (after step s is) js :=
  List.foldl_append

@[simp] theorem along_nil (P : ι → σ → Prop) (s : σ) : Along step P s [] := trivial

@[simp] theorem along_cons (P : ι → σ → Prop) (s : σ) (i : ι) (is : List ι) :
    Along step P s (i :: is) ↔ P i s ∧ Along step P (step i s) is := Iff.rfl

instance Along.decidable (P : ι → σ → Prop) [∀ i s, Decidable (P i s)] :
    ∀ (s : σ) (is : List ι), Decidable (Along step P s is)
  | _, [] => isTrue trivial
  | s, i :: is =>
    have := Along.decidable P (step i s) is
    inferInstanceAs (Decidable (P i s ∧ Along step P (step i s) is))

theorem along_append (P : ι → σ → Prop) (s : σ) (is js : List ι) :
    Along step P s (is ++ js) ↔ Along step P s is ∧ Along step P (after step s is) js := by
  induction is generalizing s with
  | nil => simp
  | cons i is ih => simp only [List.cons_append, along_cons, after_cons, ih, and_assoc]

variable {step}

/-- `Along` by the prefixes of the run. -/
theorem along_iff_inputs {P : ι → σ → Prop} {s : σ} {is : List ι} :
    Along step P s is ↔ ∀ js i, js ++ [i] <+: is → P i (after step s js) := by
  induction is generalizing s with
  | nil => simp
  | cons k is ih =>
    rw [along_cons, ih]
    constructor
    · rintro ⟨hk, h⟩ js i hpre
      cases js with
      | nil =>
        obtain ⟨rfl, -⟩ := List.cons_prefix_cons.mp hpre
        exact hk
      | cons j js =>
        obtain ⟨rfl, hrest⟩ := List.cons_prefix_cons.mp hpre
        exact h js i hrest
    · intro h
      refine ⟨h [] k (by simp), fun js i hpre => ?_⟩
      exact h (k :: js) i (List.cons_prefix_cons.mpr ⟨rfl, hpre⟩)

/-- What a run puts out, by its prefixes. -/
theorem mem_outputs {ω : Type*} {out : ι → σ → Option ω} {x : ω} {s : σ} {is : List ι} :
    x ∈ outputs step out s is ↔ ∃ js i, js ++ [i] <+: is ∧ out i (after step s js) = some x := by
  induction is generalizing s with
  | nil => simp
  | cons k is ih =>
    rw [outputs_cons, List.mem_append, Option.mem_toList, ih]
    constructor
    · rintro (hk | ⟨js, i, hpre, hi⟩)
      · exact ⟨[], k, by simp, hk⟩
      · exact ⟨k :: js, i, List.cons_prefix_cons.mpr ⟨rfl, hpre⟩, hi⟩
    · rintro ⟨js, i, hpre, hi⟩
      cases js with
      | nil =>
        obtain ⟨rfl, -⟩ := List.cons_prefix_cons.mp hpre
        exact .inl hi
      | cons j js =>
        obtain ⟨rfl, hrest⟩ := List.cons_prefix_cons.mp hpre
        exact .inr ⟨js, i, hrest, hi⟩

/-- **The invariant rule.** What every step preserves holds at the end of every run. -/
theorem after_invariant {Inv : σ → Prop} (hstep : ∀ i s, Inv s → Inv (step i s))
    {is : List ι} {s : σ} (h0 : Inv s) : Inv (after step s is) := by
  induction is generalizing s with
  | nil => exact h0
  | cons i is ih => exact ih (hstep i s h0)

/-- What the inputs of one run preserve. -/
theorem after_invariant_of_mem {Inv : σ → Prop} {is : List ι}
    (hstep : ∀ i ∈ is, ∀ s, Inv s → Inv (step i s)) {s : σ} (h0 : Inv s) :
    Inv (after step s is) := by
  induction is generalizing s with
  | nil => exact h0
  | cons i is ih =>
    exact ih (fun j hj => hstep j (List.mem_cons_of_mem i hj)) (hstep i List.mem_cons_self s h0)

/-- What every step under the guard preserves. -/
theorem after_invariant_of_along {Inv : σ → Prop} {Guard : ι → σ → Prop}
    (hstep : ∀ i s, Guard i s → Inv s → Inv (step i s)) {is : List ι} {s : σ}
    (hguard : Along step Guard s is) (h0 : Inv s) : Inv (after step s is) := by
  induction is generalizing s with
  | nil => exact h0
  | cons i is ih =>
    obtain ⟨hi, hrest⟩ := hguard
    exact ih hrest (hstep i s hi h0)

/-- Two transition properties that agree on every state of the invariant agree on runs. -/
theorem along_congr {Inv : σ → Prop} {P Q : ι → σ → Prop}
    (hstep : ∀ i s, Inv s → Inv (step i s)) (hPQ : ∀ i s, Inv s → (P i s ↔ Q i s)) :
    ∀ {is : List ι} {s : σ}, Inv s → (Along step P s is ↔ Along step Q s is) := by
  intro is
  induction is with
  | nil => intro s _; simp
  | cons i is ih =>
    intro s h0
    rw [along_cons, along_cons, hPQ i s h0, ih (hstep i s h0)]

/-- What the invariant says of every transition. -/
theorem along_of_invariant {Inv : σ → Prop} {P : ι → σ → Prop}
    (hstep : ∀ i s, Inv s → Inv (step i s)) (hP : ∀ i s, Inv s → P i s) :
    ∀ {is : List ι} {s : σ}, Inv s → Along step P s is := by
  intro is
  induction is with
  | nil => exact fun _ => trivial
  | cons i is ih => exact fun h0 => ⟨hP i _ h0, ih (hstep i _ h0)⟩

theorem along_and {P Q : ι → σ → Prop} {s : σ} {is : List ι} :
    Along step (fun i s => P i s ∧ Q i s) s is ↔ Along step P s is ∧ Along step Q s is := by
  induction is generalizing s with
  | nil => simp
  | cons i is ih =>
    simp only [along_cons, ih]
    tauto

/-- **Two machines in lockstep.** If they stay related as long as the first has its property,
and the property of the one is that of the other while they are related, it is the same
property of runs. -/
theorem along_lockstep {τ : Type*} {step' : ι → τ → τ} {R : σ → τ → Prop} {P : ι → σ → Prop}
    {Q : ι → τ → Prop} (hiff : ∀ i s t, R s t → (P i s ↔ Q i t))
    (hnext : ∀ i s t, R s t → P i s → R (step i s) (step' i t)) :
    ∀ {is : List ι} {s : σ} {t : τ}, R s t → (Along step P s is ↔ Along step' Q t is) := by
  intro is
  induction is with
  | nil => intro s t _; simp
  | cons i is ih =>
    intro s t h
    rw [along_cons, along_cons, ← hiff i s t h]
    exact and_congr_right fun hP => ih (hnext i s t h hP)

theorem Always.last {P : σ → Prop} {s : σ} {is : List ι} (h : Always step P s is) :
    P (after step s is) :=
  h is (List.prefix_refl is)

theorem always_cons {P : σ → Prop} {s : σ} {i : ι} {is : List ι} :
    Always step P s (i :: is) ↔ P s ∧ Always step P (step i s) is := by
  constructor
  · intro h
    refine ⟨h [] (List.nil_prefix), fun js hjs => ?_⟩
    exact h (i :: js) (List.cons_prefix_cons.mpr ⟨rfl, hjs⟩)
  · rintro ⟨hs, h⟩ js hjs
    rcases List.prefix_cons_iff.mp hjs with rfl | ⟨ks, rfl, hks⟩
    · exact hs
    · exact h ks hks

/-- **The exact guard.** If one step from a good state leads to a good state exactly under the
guard, a run stays good exactly if all its steps meet the guard. -/
theorem always_iff_along {Inv Good : σ → Prop} {Guard : ι → σ → Prop}
    (hinv : ∀ i s, Inv s → Inv (step i s))
    (hstep : ∀ i s, Inv s → Good s → (Good (step i s) ↔ Guard i s)) :
    ∀ {is : List ι} {s : σ}, Inv s → Good s →
      (Always step Good s is ↔ Along step Guard s is) := by
  intro is
  induction is with
  | nil =>
    intro s _ hs
    refine ⟨fun _ => trivial, fun _ js hjs => ?_⟩
    rw [List.prefix_nil.mp hjs]
    exact hs
  | cons i is ih =>
    intro s h0 hs
    rw [always_cons, along_cons]
    constructor
    · rintro ⟨-, h⟩
      have hgood : Good (step i s) := h [] List.nil_prefix
      exact ⟨(hstep i s h0 hs).mp hgood, (ih (hinv i s h0) hgood).mp h⟩
    · rintro ⟨hguard, h⟩
      exact ⟨hs, (ih (hinv i s h0) ((hstep i s h0 hs).mpr hguard)).mpr h⟩

/-- **The exact guard, under a contract.** The invariant makes a state good; a step that meets
the guard keeps the invariant, and one that does not ends in a state that is not good. -/
theorem always_iff_guard {Inv Good : σ → Prop} {Contract Guard : ι → σ → Prop}
    (hgood : ∀ s, Inv s → Good s)
    (hkeep : ∀ i s, Inv s → Contract i s → Guard i s → Inv (step i s))
    (hbreak : ∀ i s, Inv s → Contract i s → Good (step i s) → Guard i s) :
    ∀ {is : List ι} {s : σ}, Inv s → Along step Contract s is →
      (Always step Good s is ↔ Along step Guard s is) := by
  intro is
  induction is with
  | nil =>
    intro s h0 _
    refine ⟨fun _ => trivial, fun _ js hjs => ?_⟩
    rw [List.prefix_nil.mp hjs]
    exact hgood s h0
  | cons i is ih =>
    intro s h0 hcontract
    rw [along_cons] at hcontract
    obtain ⟨hi, hrest⟩ := hcontract
    rw [always_cons, along_cons]
    constructor
    · intro h
      have hguard := hbreak i s h0 hi (h.2 [] List.nil_prefix)
      exact ⟨hguard, (ih (hkeep i s h0 hi hguard) hrest).mp h.2⟩
    · intro h
      exact ⟨hgood s h0, (ih (hkeep i s h0 hi h.1) hrest).mpr h.2⟩

/-! ## Simulation

A step of one machine is at most one act of another. `act` says which, and the acts of a run
are its `outputs`. -/

section simulation

variable {τ α : Type*} {astep : α → τ → τ} {act : ι → σ → Option α} {abs : σ → τ}

/-- What an act that may be none does. -/
def perform (astep : α → τ → τ) : Option α → τ → τ
  | none, t => t
  | some a, t => astep a t

theorem after_toList (a : Option α) (t : τ) : after astep t a.toList = perform astep a t := by
  cases a <;> rfl

theorem along_toList (P : α → τ → Prop) (a : Option α) (t : τ) :
    Along astep P t a.toList ↔ ∀ b ∈ a, P b t := by
  cases a <;> simp

/-- Where a run ends, by its acts. -/
theorem after_simulates (hsim : ∀ i s, abs (step i s) = perform astep (act i s) (abs s))
    (s : σ) (is : List ι) :
    abs (after step s is) = after astep (abs s) (outputs step act s is) := by
  induction is generalizing s with
  | nil => rfl
  | cons i is ih => rw [after_cons, ih, outputs_cons, after_append, after_toList, hsim]

/-- A property of acts, read along a run. -/
theorem along_simulates (hsim : ∀ i s, abs (step i s) = perform astep (act i s) (abs s))
    (P : α → τ → Prop) (s : σ) (is : List ι) :
    Along step (fun i s => ∀ a ∈ act i s, P a (abs s)) s is ↔
      Along astep P (abs s) (outputs step act s is) := by
  induction is generalizing s with
  | nil => simp
  | cons i is ih =>
    rw [along_cons, ih, outputs_cons, along_append, along_toList, after_toList, hsim]

/-- A property of states, read along a run. -/
theorem always_simulates (hsim : ∀ i s, abs (step i s) = perform astep (act i s) (abs s))
    (P : τ → Prop) (s : σ) (is : List ι) :
    Always step (fun s => P (abs s)) s is ↔
      Always astep P (abs s) (outputs step act s is) := by
  induction is generalizing s with
  | nil =>
    simp only [Always, List.prefix_nil, forall_eq, after_nil, outputs_nil]
  | cons i is ih =>
    rw [always_cons, ih, outputs_cons, hsim]
    cases hact : act i s with
    | none =>
      -- Without an act the state is the one the rest of the run starts in.
      simp only [perform, Option.toList_none, List.nil_append]
      exact and_iff_right_of_imp fun h => h [] List.nil_prefix
    | some a =>
      simp only [perform, Option.toList_some, List.singleton_append]
      exact always_cons.symm

end simulation

end Runs
