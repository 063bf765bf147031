import Lighting.Lib.Runs
import Lighting.Model.Gps

/-!
# The spacing and the length of the acquisition windows

One `long` of 32 bits serves two deadlines, the 30 s from one window to the next and the 10 s
of a window. It holds the tick of the last opening or, after a window that ran out, of its end,
and is subtracted from a reading of 64 bits. While the tick that was stored is below `2^31` both
tests are exact. From there on the difference is never below `2^31`: outside a window the next
one opens at once, and inside it is over before anything is read.

`windows_kept_iff` is the exact condition. It is a long one only because a device that is slow
enough does no harm: the last clause would have every iteration take ten seconds.
-/

set_option autoImplicit false

namespace Lighting

open Runs

/-- What an iteration of `_gps_task` meets: the time since the last reading of `esp_tick_get`,
the time until it is read again, and what came of the read, if there is one. -/
structure GpsPass where
  idle : Nat
  gap : Nat
  reading : GpsReading

/-- The two loops, with what the 32 bits do not show: the last reading of the clock, the tick
that was stored last, and the tick of the last opening. -/
structure Acquisition where
  loop : GpsLoop
  now : Int
  stored : Int
  opened : Option Int

namespace Acquisition

def start : Acquisition := ⟨GpsLoop.start, 0, 0, none⟩

def tick (p : GpsPass) (a : Acquisition) : Int := a.now + p.idle

def tickAgain (p : GpsPass) (a : Acquisition) : Int := a.tick p + p.gap

def inWindow (a : Acquisition) : Bool := a.loop.window.isSome

/-- A window opens in this iteration. -/
def opens (p : GpsPass) (a : Acquisition) : Bool := !a.inWindow && !a.loop.waits (a.tick p)

/-- `uart_read_bytes` is called in this iteration. -/
def reads (p : GpsPass) (a : Acquisition) : Bool := a.inWindow && a.loop.reads (a.tick p)

/-- The window runs out in this iteration. -/
def expires (p : GpsPass) (a : Acquisition) : Bool := a.inWindow && !a.loop.reads (a.tick p)

def step (p : GpsPass) (a : Acquisition) : Acquisition where
  loop := gpsTaskPass (a.tick p) (a.tickAgain p) p.reading a.loop
  now := if a.opens p || a.expires p then a.tickAgain p else a.tick p
  stored := if a.opens p || a.expires p then a.tickAgain p else a.stored
  opened := if a.opens p then some (a.tickAgain p) else a.opened

/-- The second active fix of the window. -/
def SecondFix (p : GpsPass) (a : Acquisition) : Prop :=
  a.reads p = true ∧ a.loop.window = some 1 ∧ ∃ form, p.reading = .fixed form

/-- A window opens 30 s after the one before or later, reads in its first 10 s only, and ends
with its second fix or when the 10 s are over. -/
structure Kept (p : GpsPass) (a : Acquisition) : Prop where
  spacing : a.opens p = true → ∀ w, a.opened = some w → w + 30000 ≤ a.tickAgain p
  reading : a.reads p = true → ∃ w, a.opened = some w ∧ a.tick p < w + 10000
  length : a.inWindow = true → (a.step p).inWindow = false →
    SecondFix p a ∨ ∃ w, a.opened = some w ∧ w + 10000 ≤ a.tick p

/-- Once the stored tick has left the 32 bits, an iteration outside a window comes 30 s after
the last opening or later, and one in a window 10 s after it or later. -/
def Slow (p : GpsPass) (a : Acquisition) : Prop :=
  2 ^ 31 ≤ a.stored → ∀ w, a.opened = some w →
    if a.inWindow then w + 10000 ≤ a.tick p else w + 30000 ≤ a.tickAgain p

/-- What every reachable state satisfies. -/
structure Inv (a : Acquisition) : Prop where
  now : 0 ≤ a.stored ∧ a.stored ≤ a.now
  last : a.loop.lastGetTickGps = wrap32 a.stored
  opened : ∀ w, a.opened = some w → w ≤ a.stored
  window : a.inWindow = true → a.opened = some a.stored

variable {a : Acquisition} {p : GpsPass}

theorem tick_le (a : Acquisition) (p : GpsPass) : a.now ≤ a.tick p ∧ a.tick p ≤ a.tickAgain p :=
  ⟨Int.le_add_of_nonneg_right (Int.natCast_nonneg _),
    Int.le_add_of_nonneg_right (Int.natCast_nonneg _)⟩

/-- The difference from a stored tick below `2^31` is exact. -/
theorem wrap32_of_lt {t : Int} (h0 : 0 ≤ t) (h : t < 2 ^ 31) : wrap32 t = t := by
  unfold wrap32
  omega

/-- Any other stored tick reads as one in the far past. -/
theorem wrap32_le_sub {t : Int} (h : 2 ^ 31 ≤ t) : wrap32 t ≤ t - 2 ^ 32 := by
  unfold wrap32
  omega

/-! ## What an iteration does -/

/-- Outside a window the task waits, or opens one. -/
theorem step_waiting (hout : a.inWindow = false) (p : GpsPass) :
    a.loop.waits (a.tick p) = true ∧ a.step p = { a with now := a.tick p } ∨
      a.loop.waits (a.tick p) = false ∧ a.step p =
        ⟨{ a.loop.store (a.tickAgain p) with window := some 0 }, a.tickAgain p, a.tickAgain p,
          some (a.tickAgain p)⟩ := by
  have hnone : a.loop.window = none := by
    unfold inWindow at hout
    exact Option.not_isSome_iff_eq_none.mp (Bool.eq_false_iff.mp hout)
  cases hwaits : a.loop.waits (a.tick p) with
  | true => exact Or.inl ⟨rfl, by simp [step, gpsTaskPass, opens, expires, hnone, hwaits, hout]⟩
  | false => exact Or.inr ⟨rfl, by simp [step, gpsTaskPass, opens, expires, hnone, hwaits, hout]⟩

/-- In a window it reads, or closes it. -/
theorem step_window (hin : a.inWindow = true) (p : GpsPass) :
    a.loop.reads (a.tick p) = true ∧ (∃ window, a.step p =
        { a with loop := { a.loop with window := window }, now := a.tick p } ∧
          (window = none → SecondFix p a)) ∨
      a.loop.reads (a.tick p) = false ∧ a.step p =
        { a with
          loop := { a.loop.store (a.tickAgain p) with window := none }
          now := a.tickAgain p
          stored := a.tickAgain p } := by
  obtain ⟨n, hsome⟩ : ∃ n, a.loop.window = some n := Option.isSome_iff_exists.mp hin
  cases hreads : a.loop.reads (a.tick p) with
  | true =>
    have hloop : (a.step p).loop = gpsTaskPass (a.tick p) (a.tickAgain p) p.reading a.loop := rfl
    have hstep : ∀ loop, (a.step p).loop = loop →
        a.step p = { a with loop := loop, now := a.tick p } := by
      intro loop hl
      rw [← hl]
      simp [step, opens, expires, hin, hreads]
    refine Or.inl ⟨rfl, ?_⟩
    cases hreading : p.reading with
    | fixed form =>
      by_cases hsecond : n + 1 = 2
      · refine ⟨none, hstep _ ?_, fun _ => ⟨?_, ?_, form, hreading⟩⟩
        · rw [hloop, gpsTaskPass, hsome, hreading]
          simp [hreads, hsecond]
        · rw [Acquisition.reads, hin, hreads]
          rfl
        · rw [hsome]
          exact congrArg some (by omega)
      · refine ⟨some (n + 1), hstep _ ?_, fun hnone => by cases hnone⟩
        rw [hloop, gpsTaskPass, hsome, hreading]
        simp [hreads, hsecond]
    | _ =>
      refine ⟨a.loop.window, hstep _ ?_, fun hnone => ?_⟩
      · rw [hloop, gpsTaskPass, hsome, hreading]
        simp [hreads, ← hsome]
      · rw [hsome] at hnone
        cases hnone
  | false =>
    refine Or.inr ⟨rfl, ?_⟩
    simp [step, gpsTaskPass, opens, expires, hin, hsome, hreads]

theorem start_inv : start.Inv := ⟨⟨Int.le_refl 0, Int.le_refl 0⟩, rfl, by simp [start], by decide⟩

theorem step_inv (h : a.Inv) (p : GpsPass) : (a.step p).Inv := by
  obtain ⟨hpos, hpast⟩ := h.now
  obtain ⟨htick, hagain⟩ := a.tick_le p
  have hstored : a.stored ≤ a.tick p := by omega
  have hnew : 0 ≤ a.tickAgain p := by omega
  cases hw : a.inWindow with
  | false =>
    rcases step_waiting hw p with ⟨-, hstep⟩ | ⟨-, hstep⟩
    · rw [hstep]
      exact ⟨⟨hpos, hstored⟩, h.last, h.opened, h.window⟩
    · rw [hstep]
      refine ⟨⟨hnew, Int.le_refl _⟩, rfl, fun w hw => ?_, fun _ => rfl⟩
      exact Int.le_of_eq (Option.some.inj hw).symm
  | true =>
    rcases step_window hw p with ⟨-, window, hstep, -⟩ | ⟨-, hstep⟩
    · rw [hstep]
      exact ⟨⟨hpos, hstored⟩, h.last, h.opened, fun _ => h.window hw⟩
    · rw [hstep]
      refine ⟨⟨hnew, Int.le_refl _⟩, rfl, fun w hopen => ?_, fun hin => by cases hin⟩
      have hold := h.opened w hopen
      change w ≤ a.tickAgain p
      omega

/-! ## When the deadlines are kept -/

/-- While the stored tick fits, both tests are exact. -/
theorem tests_of_lt (h : a.Inv) (hlt : a.stored < 2 ^ 31) (t : Int) :
    (a.loop.waits t = true ↔ t < a.stored + 30000) ∧
      (a.loop.reads t = true ↔ t < a.stored + 10000) := by
  unfold GpsLoop.waits GpsLoop.reads
  rw [h.last, wrap32_of_lt h.now.1 hlt, decide_eq_true_iff, decide_eq_true_iff]
  omega

/-- Otherwise the task neither waits nor reads. -/
theorem tests_of_le (h : a.Inv) (hle : 2 ^ 31 ≤ a.stored) {t : Int} (ht : a.stored ≤ t) :
    a.loop.waits t = false ∧ a.loop.reads t = false := by
  have hlow := wrap32_le_sub hle
  unfold GpsLoop.waits GpsLoop.reads
  rw [h.last, decide_eq_false_iff_not, decide_eq_false_iff_not]
  omega

theorem kept_of_lt (h : a.Inv) (hlt : a.stored < 2 ^ 31) (p : GpsPass) : a.Kept p := by
  obtain ⟨htick, hagain⟩ := a.tick_le p
  obtain ⟨hwaits, hreads⟩ := tests_of_lt h hlt (a.tick p)
  constructor
  · intro hopens w hw
    have hold := h.opened w hw
    simp only [opens, Bool.and_eq_true, Bool.not_eq_true'] at hopens
    have hover : ¬a.tick p < a.stored + 30000 := fun hsoon => by
      rw [hwaits.mpr hsoon] at hopens
      exact absurd hopens.2 Bool.noConfusion
    omega
  · intro hread
    rw [Acquisition.reads, Bool.and_eq_true] at hread
    exact ⟨a.stored, h.window hread.1, hreads.mp hread.2⟩
  · intro hin hclosed
    rcases step_window hin p with ⟨-, window, hstep, hsecond⟩ | ⟨hover, -⟩
    · rw [hstep] at hclosed
      exact Or.inl (hsecond (Option.not_isSome_iff_eq_none.mp (Bool.eq_false_iff.mp hclosed)))
    · refine Or.inr ⟨a.stored, h.window hin, ?_⟩
      by_contra hsoon
      rw [hreads.mpr (by omega)] at hover
      cases hover

theorem kept_iff_of_le (h : a.Inv) (hle : 2 ^ 31 ≤ a.stored) (p : GpsPass) :
    a.Kept p ↔ a.Slow p := by
  obtain ⟨hpos, hpast⟩ := h.now
  obtain ⟨htick, hagain⟩ := a.tick_le p
  obtain ⟨hwaits, hreads⟩ := tests_of_le h hle (show a.stored ≤ a.tick p by omega)
  unfold Slow
  cases hw : a.inWindow with
  | false =>
    constructor
    · intro hkept _
      have hopens : a.opens p = true := by
        rw [opens, hw, hwaits]
        rfl
      exact hkept.spacing hopens
    · intro hslow
      refine ⟨fun _ => hslow hle, fun hread => ?_, fun hin => ?_⟩
      · rw [Acquisition.reads, hw] at hread
        cases hread
      · rw [hw] at hin
        cases hin
  | true =>
    have hclosed : (a.step p).inWindow = false := by
      rcases step_window hw p with ⟨hread, -⟩ | ⟨-, hstep⟩
      · rw [hreads] at hread
        cases hread
      · rw [hstep]
        rfl
    have hnoread : a.reads p = false := by
      rw [Acquisition.reads, hw, hreads]
      rfl
    constructor
    · intro hkept _ w hopen
      rcases hkept.length hw hclosed with ⟨hread, -⟩ | ⟨w', hopen', hover⟩
      · rw [hnoread] at hread
        cases hread
      · rw [hopen] at hopen'
        rw [Option.some.inj hopen']
        exact hover
    · intro hslow
      refine ⟨fun hopens => ?_, fun hread => ?_, fun _ _ => ?_⟩
      · rw [opens, hw] at hopens
        cases hopens
      · rw [hnoread] at hread
        cases hread
      · exact Or.inr ⟨a.stored, h.window hw, hslow hle a.stored (h.window hw)⟩

/-- **One iteration.** -/
theorem kept_iff_slow (h : a.Inv) (p : GpsPass) : a.Kept p ↔ a.Slow p := by
  by_cases hlt : a.stored < 2 ^ 31
  · exact iff_of_true (kept_of_lt h hlt p) fun hle => absurd hle (by omega)
  · exact kept_iff_of_le h (by omega) p

end Acquisition

/-- **The windows keep their spacing and their length**, in every run of `_gps_task`, exactly if
every iteration that comes after a tick of `2^31` or more has been stored is slow enough. -/
theorem windows_kept_iff (ps : List GpsPass) :
    Along Acquisition.step Acquisition.Kept .start ps ↔
      Along Acquisition.step Acquisition.Slow .start ps :=
  along_congr (fun p _ h => Acquisition.step_inv h p) (fun p _ h => Acquisition.kept_iff_slow h p)
    Acquisition.start_inv

/-- A window that opens at `2^31` ms, and is over a millisecond later. -/
theorem windows_not_kept :
    ¬Along Acquisition.step Acquisition.Kept .start
      [⟨2 ^ 31, 0, .nothing⟩, ⟨1, 0, .nothing⟩] := by
  intro h
  obtain ⟨-, hkept, -⟩ := h
  rcases hkept.length (by decide) (by decide) with ⟨hread, -⟩ | ⟨w, hopen, hover⟩
  · exact absurd hread (by decide)
  · have hfirst : (Acquisition.step ⟨2 ^ 31, 0, .nothing⟩ .start).opened = some (2 ^ 31) := by
      decide
    rw [hfirst] at hopen
    rw [← Option.some.inj hopen] at hover
    exact absurd hover (by decide)

end Lighting
