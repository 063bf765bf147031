import Lighting.Lib.Runs

/-!
# A queue that lends what it holds

Items are put in, taken out in order under a token, and given back by their token; until then
the taker may look at them. `Account` is who has what, and an event is `Honest` if a queue may
answer so: what is taken is the first that waits, under a token nobody has, and nothing is
answered only where nothing waits.

Whatever a program answers, if all of it is honest then what was taken, followed by what still
waits, is what was put in (`taken_append_waiting`): nothing is lost, nothing comes twice, and
the order is kept.
-/

set_option autoImplicit false

namespace Lending

open Runs

variable {κ α : Type*}

/-- `lent` is handed out and not given back. -/
structure Account (κ α : Type*) where
  lent : List (κ × α)
  waiting : List α
  deriving DecidableEq

inductive Event (κ α : Type*) where
  | put (a : α)
  | refuse (a : α)
  | take (k : κ) (a : α)
  /-- There was nothing to take. -/
  | idle
  | giveBack (k : κ)
  deriving DecidableEq, Repr

def Account.empty : Account κ α := ⟨[], []⟩

def book [DecidableEq κ] : Event κ α → Account κ α → Account κ α
  | .put a, q => { q with waiting := q.waiting ++ [a] }
  | .refuse _, q => q
  | .take k a, q => { lent := q.lent ++ [(k, a)], waiting := q.waiting.tail }
  | .idle, q => q
  | .giveBack k, q => { q with lent := q.lent.filter fun p => p.1 ≠ k }

/-- Whether a token is out. -/
def Account.Out (q : Account κ α) (k : κ) : Prop := ∃ a, (k, a) ∈ q.lent

def Honest : Event κ α → Account κ α → Prop
  | .put _, _ => True
  | .refuse _, _ => True
  | .take k a, q => q.waiting.head? = some a ∧ ¬q.Out k
  | .idle, q => q.waiting = []
  | .giveBack k, q => q.Out k

def Event.put? : Event κ α → Option α
  | .put a => some a
  | _ => none

def Event.taken? : Event κ α → Option α
  | .take _ a => some a
  | _ => none

/-- What went in, in order. -/
def puts (es : List (Event κ α)) : List α := es.filterMap Event.put?

/-- What came out, in order. -/
def takens (es : List (Event κ α)) : List α := es.filterMap Event.taken?

variable [DecidableEq κ]

theorem book_waiting {e : Event κ α} {q : Account κ α} (h : Honest e q) :
    e.taken?.toList ++ (book e q).waiting = q.waiting ++ e.put?.toList := by
  cases e with
  | put a => rfl
  | refuse a => exact (List.append_nil _).symm
  | take k a =>
    obtain ⟨hhead, -⟩ := h
    show a :: q.waiting.tail = q.waiting ++ []
    rw [List.append_nil]
    cases hw : q.waiting with
    | nil =>
      rw [hw] at hhead
      exact absurd hhead (Option.some_ne_none a).symm
    | cons b bs =>
      rw [hw] at hhead
      rw [Option.some.inj hhead, List.tail_cons]
  | idle => exact (List.append_nil _).symm
  | giveBack k => exact (List.append_nil _).symm

/-- **First in, first out.** -/
theorem taken_append_waiting {es : List (Event κ α)} {q : Account κ α}
    (h : Along book Honest q es) :
    takens es ++ (after book q es).waiting = q.waiting ++ puts es := by
  induction es generalizing q with
  | nil => exact (List.append_nil _).symm
  | cons e es ih =>
    rw [along_cons] at h
    have hstep := book_waiting h.1
    have htakens : takens (e :: es) = e.taken?.toList ++ takens es := by
      unfold takens
      rw [List.filterMap_cons]
      cases e.taken? <;> rfl
    have hputs : puts (e :: es) = e.put?.toList ++ puts es := by
      unfold puts
      rw [List.filterMap_cons]
      cases e.put? <;> rfl
    rw [after_cons, htakens, List.append_assoc, ih h.2, ← List.append_assoc, hstep, hputs,
      List.append_assoc]

end Lending
