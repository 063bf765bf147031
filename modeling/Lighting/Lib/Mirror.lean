import Lighting.Lib.Runs

/-!
# A cache mirrored over a queue that loses

A writer keeps the last value of each key in a cache and puts every value it writes into a
FIFO as well. The FIFO may refuse the value; a value that is taken out of it may be lost on
its way. Neither is tried again.

What the other side holds of a key is the last value of the key that got through. It is the
cached one as long as the value written last is still in the FIFO or got through, which is
what `intact` keeps track of (`Faithful`, `faithful_sent`).

A value without a key is one that is only passed on.
-/

set_option autoImplicit false

namespace Mirrors

open Runs

variable {κ β : Type*} [DecidableEq κ] (key : β → Option κ)

/-- `sent` is what got through since the last restart. -/
structure Mirror (κ β : Type*) where
  cache : κ → β
  queue : List β
  sent : List β
  intact : κ → Bool

inductive Act (β : Type*) where
  | write (b : β) (accepted : Bool)
  | send (ok : Bool)
  | restart

/-- Which keys are intact after a write. -/
def written (b : β) (accepted : Bool) (intact : κ → Bool) : κ → Bool :=
  fun k => if key b = some k then accepted else intact k

/-- Which keys are intact after `b` was lost: its own key is only if a later value of the key
is waiting. -/
def lost (b : β) (rest : List β) (intact : κ → Bool) : κ → Bool :=
  fun k => if key b = some k then intact k && rest.any (key · = some k) else intact k

def act : Act β → Mirror κ β → Mirror κ β
  | .write b accepted, m =>
    { m with
      cache := fun k => if key b = some k then b else m.cache k
      queue := if accepted then m.queue ++ [b] else m.queue
      intact := written key b accepted m.intact }
  | .send ok, m =>
    match m.queue with
    | [] => m
    | b :: rest =>
      { m with
        queue := rest
        sent := if ok then m.sent ++ [b] else m.sent
        intact := if ok then m.intact else lost key b rest m.intact }
  | .restart, m => { m with sent := [], intact := fun _ => false }

def last (k : κ) (bs : List β) : Option β := (bs.filter (key · = some k)).getLast?

section last

variable {key} {k : κ}

theorem last_append (xs ys : List β) :
    last key k (xs ++ ys) = (last key k ys).or (last key k xs) := by
  unfold last
  rw [List.filter_append, List.getLast?_append]

theorem last_singleton {b : β} (hb : key b = some k) : last key k [b] = some b := by
  simp [last, hb]

theorem last_singleton_of_ne {b : β} (hb : key b ≠ some k) : last key k [b] = none := by
  simp [last, hb]

theorem last_isSome {bs : List β} (h : bs.any (key · = some k) = true) :
    (last key k bs).isSome := by
  obtain ⟨b, hb, hkey⟩ := List.any_eq_true.mp h
  rw [last, List.getLast?_isSome]
  exact List.ne_nil_of_mem (List.mem_filter.mpr ⟨hb, hkey⟩)

/-- A value that another of its key follows is not the last one. -/
theorem last_drop {xs rest : List β} {b : β}
    (h : key b = some k → rest.any (key · = some k) = true) :
    last key k (xs ++ b :: rest) = last key k (xs ++ rest) := by
  rw [last_append, last_append, ← List.singleton_append, last_append]
  by_cases hb : key b = some k
  · have hsome := last_isSome (h hb)
    obtain ⟨c, hc⟩ := Option.isSome_iff_exists.mp hsome
    rw [hc]
    rfl
  · rw [last_singleton_of_ne hb, Option.or_none]

end last

/-- Of an intact key, the last value sent or waiting is the cached one. -/
def Faithful (m : Mirror κ β) : Prop :=
  ∀ k, m.intact k = true → last key k (m.sent ++ m.queue) = some (m.cache k)

variable {key}

theorem act_faithful {m : Mirror κ β} (h : Faithful key m) (a : Act β) :
    Faithful key (act key a m) := by
  intro k hk
  cases a with
  | write b accepted =>
    by_cases hb : key b = some k
    · -- The key is intact only if the queue has taken the value.
      have haccepted : accepted = true := by simpa [act, written, hb] using hk
      simp only [act, haccepted, if_true, hb]
      rw [← List.append_assoc, last_append, last_singleton hb, Option.some_or]
    · have hintact : m.intact k = true := by simpa [act, written, hb] using hk
      have hlast := h k hintact
      simp only [act, hb, if_false]
      cases accepted with
      | false => simpa using hlast
      | true =>
        rw [if_pos rfl, ← List.append_assoc, last_append, last_singleton_of_ne hb,
          Option.none_or]
        exact hlast
  | send ok =>
    cases hq : m.queue with
    | nil =>
      have hact : act key (.send ok) m = m := by simp only [act, hq]
      rw [hact] at hk ⊢
      exact h k hk
    | cons b rest =>
      cases ok with
      | true =>
        simp only [act, hq, if_true] at hk ⊢
        have hlast := h k hk
        rw [hq] at hlast
        rw [List.append_assoc, List.singleton_append]
        exact hlast
      | false =>
        simp only [act, hq, Bool.false_eq_true, if_false] at hk ⊢
        by_cases hb : key b = some k
        · -- A later value of the key is waiting behind the lost one.
          have hboth : m.intact k = true ∧ rest.any (key · = some k) = true := by
            simpa [lost, hb] using hk
          have hlast := h k hboth.1
          rw [hq, last_drop fun _ => hboth.2] at hlast
          exact hlast
        · have hintact : m.intact k = true := by simpa [lost, hb] using hk
          have hlast := h k hintact
          rw [hq, last_drop fun h => absurd h hb] at hlast
          exact hlast
  | restart => exact absurd hk (by simp [act])

/-- Of a restarted mirror no key is intact. -/
theorem restart_faithful (m : Mirror κ β) : Faithful key (act key .restart m) :=
  fun _ hk => absurd hk Bool.false_ne_true

/-- **The mirror.** After any acts, of an intact key the last value sent or waiting is the
cached one. -/
theorem after_faithful {m : Mirror κ β} (h : Faithful key m) (as : List (Act β)) :
    Faithful key (after (act key) m as) := by
  have hstep : ∀ (a : Act β) (n : Mirror κ β), Faithful key n → Faithful key (act key a n) :=
    fun a _ hn => act_faithful hn a
  exact after_invariant hstep h

/-- With nothing waiting, the last value sent is the cached one. -/
theorem faithful_sent {m : Mirror κ β} (h : Faithful key m) (hq : m.queue = []) {k : κ}
    (hk : m.intact k = true) : last key k m.sent = some (m.cache k) := by
  have hlast := h k hk
  rwa [hq, List.append_nil] at hlast

end Mirrors
