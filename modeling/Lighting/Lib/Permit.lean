import Lighting.Lib.Runs

/-!
# A permission that lapses with the connection

A peer grants a permission over a connection; the permission is for that connection only. One
party keeps a flag, `granted`, which it clears when a connection opens or closes and sets when
a grant reaches it; another checks the flag and later uses the permission. A grant carries the
connection it was sent on, and may arrive when that connection is long gone.

Two things are asked of the flag: that it is never up while no connection is, and that every
use on a connection comes after a grant of that connection. The first holds of a run exactly
if every grant arrives while a connection is open (`always_sound_iff`). The second holds if
every grant arrives before the next connection opens and every use follows a check made on
the same connection (`uses_own`).
-/

set_option autoImplicit false

namespace Permits

open Runs

/-- `epoch` numbers the connections, `own` says whether a grant of the present one has arrived,
`checked` is the connection on which the flag was last found up. -/
structure Permit where
  isOpen : Bool
  epoch : Nat
  granted : Bool
  own : Bool
  checked : Nat
  deriving DecidableEq, Repr

inductive Act where
  | opens
  | closes
  | grant (epoch : Nat)
  | check
  | use
  deriving DecidableEq, Repr

def act : Act → Permit → Permit
  | .opens, p => { p with isOpen := true, epoch := p.epoch + 1, granted := false, own := false }
  | .closes, p => { p with isOpen := false, granted := false }
  | .grant epoch, p => { p with granted := true, own := p.own || epoch = p.epoch }
  | .check, p => if p.granted then { p with checked := p.epoch } else p
  | .use, p => p

/-- The flag is not up while no connection is. -/
def Sound (p : Permit) : Prop := p.granted = true → p.isOpen = true

/-- A use on a connection comes after a grant of that connection. -/
def UsesOwn (a : Act) (p : Permit) : Prop :=
  a = .use → p.isOpen = true → p.own = true

/-- A grant arrives while a connection is open. -/
def GrantsOpen (a : Act) (p : Permit) : Prop :=
  ∀ epoch, a = .grant epoch → p.isOpen = true

/-- A grant arrives before the next connection opens. -/
def GrantsOwn (a : Act) (p : Permit) : Prop :=
  ∀ epoch, a = .grant epoch → epoch = p.epoch

/-- The flag was found up on the connection of the use. -/
def UsesChecked (a : Act) (p : Permit) : Prop :=
  a = .use → p.isOpen = true → p.checked = p.epoch

theorem act_sound_iff {p : Permit} (h : Sound p) (a : Act) :
    Sound (act a p) ↔ GrantsOpen a p := by
  cases a with
  | opens => simp [Sound, act, GrantsOpen]
  | closes => simp [Sound, act, GrantsOpen]
  | grant epoch => simp [Sound, act, GrantsOpen]
  | check =>
    have hcheck : (act .check p).granted = p.granted ∧ (act .check p).isOpen = p.isOpen := by
      by_cases hg : p.granted = true <;> simp [act, hg]
    simpa [Sound, hcheck, GrantsOpen] using h
  | use => simpa [act, GrantsOpen] using h

/-- **The flag is sound exactly if no grant arrives between two connections.** -/
theorem always_sound_iff {p : Permit} (h : Sound p) (as : List Act) :
    Always act Sound p as ↔ Along act GrantsOpen p as :=
  always_iff_along (fun _ _ (_ : True) => trivial) (fun a _ _ hp => act_sound_iff hp a) trivial h

/-- From the first connection on the flag is up only after a grant of the present connection,
and so it was when it was last checked on the present connection. -/
structure Owned (p : Permit) : Prop where
  opened : p.isOpen = true → 0 < p.epoch
  granted : 0 < p.epoch → p.granted = true → p.own = true
  checked_le : p.checked ≤ p.epoch
  checked : 0 < p.epoch → p.checked = p.epoch → p.own = true

theorem act_owned {p : Permit} (h : Owned p) {a : Act} (hgrant : GrantsOwn a p) :
    Owned (act a p) := by
  cases a with
  | opens =>
    have hle := h.checked_le
    refine ⟨fun _ => Nat.succ_pos _, fun _ hg => absurd hg (by simp [act]), ?_, ?_⟩
    · exact Nat.le_succ_of_le hle
    · -- What was checked before the connection opened was checked on another one.
      intro _ hchecked
      have : p.checked = p.epoch + 1 := hchecked
      omega
  | closes =>
    exact ⟨fun ho => absurd ho (by simp [act]), fun _ hg => absurd hg (by simp [act]),
      h.checked_le, h.checked⟩
  | grant epoch =>
    have hown : (act (.grant epoch) p).own = true := by simp [act, hgrant epoch rfl]
    exact ⟨h.opened, fun _ _ => hown, h.checked_le, fun _ _ => hown⟩
  | check =>
    by_cases hg : p.granted = true
    · have hact : act .check p = { p with checked := p.epoch } := if_pos hg
      rw [hact]
      exact ⟨h.opened, h.granted, Nat.le_refl _, fun hpos _ => h.granted hpos hg⟩
    · have hact : act .check p = p := if_neg hg
      rw [hact]
      exact h
  | use => exact h

theorem Owned.uses {p : Permit} (h : Owned p) {a : Act} (huse : UsesChecked a p) :
    UsesOwn a p := by
  intro ha ho
  exact h.checked (h.opened ho) (huse ha ho)

/-- **The permission used is the connection's own**, in a run in which every grant arrives
before the next connection opens and every use follows a check on the same connection. -/
theorem uses_own {as : List Act} :
    ∀ {p : Permit}, Owned p → Along act GrantsOwn p as → Along act UsesChecked p as →
      Along act UsesOwn p as := by
  induction as with
  | nil => intro p _ _ _; trivial
  | cons a as ih =>
    intro p h hgrant huse
    exact ⟨h.uses huse.1, ih (act_owned h hgrant.1) hgrant.2 huse.2⟩

end Permits
