import Mathlib.Data.Option.Basic

/-!
# A limiter over a clock that never goes back

A limiter is called every now and then and lets a request through at the first call, then at
the first call that is a timeout or more after the last request. It reads the clock when it is
called, and again when it records a request. A reading is given by the time since the one
before it, which is what makes the clock one that never goes back.
-/

set_option autoImplicit false

namespace Pacer

/-- A call: the time since the last reading, and the time until the request is recorded. -/
structure Call where
  idle : Nat
  gap : Nat

/-- The last reading of the clock, and the one recorded with the last request. -/
structure Limiter where
  now : Int
  request : Option Int

/-- The reading a call starts with. -/
def Call.tick (c : Call) (l : Limiter) : Int := l.now + c.idle

/-- The reading a request is recorded with. -/
def Call.record (c : Call) (l : Limiter) : Int := c.tick l + c.gap

/-- The state after a call that sent a request, or did not. -/
def Limiter.called (l : Limiter) (c : Call) (sent : Bool) : Limiter :=
  if sent then ⟨c.record l, some (c.record l)⟩ else { l with now := c.tick l }

/-- A request is due: there was none, or it is a timeout ago. -/
def Limiter.due (timeout : Int) (l : Limiter) (c : Call) : Bool :=
  l.request.all fun r => r + timeout ≤ c.tick l

def step (timeout : Int) (c : Call) (l : Limiter) : Limiter := l.called c (l.due timeout c)

/-- Every record is in the past. -/
structure Limiter.Past (l : Limiter) : Prop where
  now : 0 ≤ l.now
  request : ∀ r, l.request = some r → 0 ≤ r ∧ r ≤ l.now

theorem Limiter.Past.called {l : Limiter} (h : l.Past) (c : Call) (sent : Bool) :
    (l.called c sent).Past := by
  have hnow := h.now
  have htick : l.now ≤ c.tick l := Int.le_add_of_nonneg_right (Int.natCast_nonneg _)
  have hrecord : c.tick l ≤ c.record l := Int.le_add_of_nonneg_right (Int.natCast_nonneg _)
  unfold Limiter.called
  cases sent with
  | true =>
    refine ⟨?_, fun r hr => ?_⟩
    · change 0 ≤ c.record l
      omega
    · obtain rfl := Option.some.inj hr
      exact ⟨by omega, Int.le_refl _⟩
  | false =>
    refine ⟨?_, fun r hr => ?_⟩
    · change 0 ≤ c.tick l
      omega
    · have hpast := h.request r hr
      change 0 ≤ r ∧ r ≤ c.tick l
      omega

end Pacer
