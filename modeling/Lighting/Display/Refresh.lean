import Lighting.Lib.Runs
import Lighting.Model.NextionWrite

/-!
# What the display is kept showing

On the two pages where the user enters numbers, the write task must not overwrite them. It has a
flag for each of them, which every iteration sets anew, and which are named after the wrong page.

`Watcher` says what they are for: it remembers the page of its last iteration, fills a page with
entries when it has just come up (`Watcher.refresh`), and the other pages in every iteration. The
task with the flags sends the same commands, whatever the others do to the handle meanwhile
(`refresh_refines`). So nothing is sent to a page with entries for as long as it is shown
(`entries_kept`).
-/

set_option autoImplicit false

namespace Lighting

open Runs

/-- A page on which the user enters numbers. -/
def HasEntries (page : Int) : Prop := page = pageScheduleIndex ∨ page = pageTimeIndex

instance (page : Int) : Decidable (HasEntries page) :=
  inferInstanceAs (Decidable (page = pageScheduleIndex ∨ page = pageTimeIndex))

/-- The write task, by the page of its last iteration. -/
structure Watcher where
  lastPage : Option Int
  timeinfo : Tm
  todo : List Shown

namespace Watcher

def start (timeinfo : Tm) : Watcher := ⟨none, timeinfo, []⟩

variable (texts : NextionTexts)

/-- What belongs on a page. -/
def onPage (page : Int) : List Shown :=
  if page = pageLockIndex then lockShown
  else if page = pageHomeIndex then homeShown texts.printFixed
  else if page = pageConnectIndex then connectShown texts.hardwareId texts.firmwareVersion
  else if page = pageScheduleIndex then scheduleShown
  else if page = pageTimeIndex then timeShown
  else []

def refresh (timeinfo : Tm) (page : Int) (w : Watcher) : Watcher where
  lastPage := some page
  timeinfo := timeinfo
  todo :=
    if HasEntries page ∧ w.lastPage = some page then []
    else onPage texts page

def step (now : Tm × Nextion) (w : Watcher) : Watcher :=
  match w.todo with
  | [] => w.refresh texts now.1 now.2.currentPage
  | _ :: rest => { w with todo := rest }

def sends (now : Tm × Nextion) (w : Watcher) : Option NextionCommand :=
  match w.todo with
  | [] => none
  | shown :: _ => some (shown w.timeinfo now.2)

end Watcher

section refines

variable (texts : NextionTexts)

/-- The flags after an iteration say on which page it was, and the flags before it whether to
send. -/
theorem refresh_eq (timeinfo : Tm) (page : Int) (t : NextionWriteTask) :
    t.refresh texts timeinfo page =
      ⟨page = pageScheduleIndex, page = pageTimeIndex, timeinfo,
        if page = pageScheduleIndex ∧ t.pageTimeFlag ∨ page = pageTimeIndex ∧ t.pageScheduleFlag
        then [] else Watcher.onPage texts page⟩ := by
  unfold NextionWriteTask.refresh Watcher.onPage
  by_cases hlock : page = pageLockIndex
  · subst hlock
    simp [pageLockIndex, pageScheduleIndex, pageTimeIndex]
  by_cases hhome : page = pageHomeIndex
  · subst hhome
    simp [pageLockIndex, pageHomeIndex, pageScheduleIndex, pageTimeIndex]
  by_cases hconnect : page = pageConnectIndex
  · subst hconnect
    simp [pageLockIndex, pageHomeIndex, pageConnectIndex, pageScheduleIndex, pageTimeIndex]
  by_cases hschedule : page = pageScheduleIndex
  · subst hschedule
    simp [pageLockIndex, pageHomeIndex, pageConnectIndex, pageScheduleIndex, pageTimeIndex]
  by_cases htime : page = pageTimeIndex
  · subst htime
    simp [pageLockIndex, pageHomeIndex, pageConnectIndex, pageScheduleIndex, pageTimeIndex]
  · simp [hlock, hhome, hconnect, hschedule, htime]

/-- The flags say which page was the last. -/
structure Remembers (w : Watcher) (t : NextionWriteTask) : Prop where
  timeinfo : t.timeinfo = w.timeinfo
  todo : t.todo = w.todo
  schedule : t.pageTimeFlag = true ↔ w.lastPage = some pageScheduleIndex
  time : t.pageScheduleFlag = true ↔ w.lastPage = some pageTimeIndex

variable {w : Watcher} {t : NextionWriteTask}

theorem Remembers.skips_iff (h : Remembers w t) (page : Int) :
    (page = pageScheduleIndex ∧ t.pageTimeFlag ∨ page = pageTimeIndex ∧ t.pageScheduleFlag) ↔
      HasEntries page ∧ w.lastPage = some page := by
  rw [h.schedule, h.time]
  unfold HasEntries
  constructor
  · rintro (⟨rfl, hlast⟩ | ⟨rfl, hlast⟩)
    · exact ⟨.inl rfl, hlast⟩
    · exact ⟨.inr rfl, hlast⟩
  · rintro ⟨rfl | rfl, hlast⟩
    · exact .inl ⟨rfl, hlast⟩
    · exact .inr ⟨rfl, hlast⟩

theorem Remembers.refresh (h : Remembers w t) (timeinfo : Tm) (page : Int) :
    Remembers (w.refresh texts timeinfo page) (t.refresh texts timeinfo page) := by
  rw [refresh_eq]
  refine ⟨rfl, ?_, ?_, ?_⟩
  · show (if _ then _ else _) = if _ then _ else _
    simp only [h.skips_iff page]
  · simp [Watcher.refresh]
  · simp [Watcher.refresh]

theorem Remembers.step (h : Remembers w t) (now : Tm × Nextion) :
    Remembers (w.step texts now) (t.step texts now) := by
  unfold Watcher.step NextionWriteTask.step
  rw [h.todo]
  cases w.todo with
  | nil => exact h.refresh texts now.1 now.2.currentPage
  | cons shown rest => exact ⟨h.timeinfo, rfl, h.schedule, h.time⟩

theorem Remembers.sends_eq (h : Remembers w t) (now : Tm × Nextion) :
    NextionWriteTask.sends now t = Watcher.sends now w := by
  cases hw : w.todo with
  | nil =>
    have ht : t.todo = [] := h.todo.trans hw
    simp only [NextionWriteTask.sends, Watcher.sends, ht, hw]
  | cons shown rest =>
    have ht : t.todo = shown :: rest := h.todo.trans hw
    simp only [NextionWriteTask.sends, Watcher.sends, ht, hw, h.timeinfo]

theorem Remembers.outputs_eq (h : Remembers w t) (nows : List (Tm × Nextion)) :
    outputs (NextionWriteTask.step texts) NextionWriteTask.sends t nows =
      outputs (Watcher.step texts) Watcher.sends w nows := by
  induction nows generalizing w t with
  | nil => rfl
  | cons now nows ih =>
    rw [outputs_cons, outputs_cons, h.sends_eq, ih (h.step texts now)]

theorem remembers_start (timeinfo : Tm) :
    Remembers (.start timeinfo) (NextionWriteTask.start timeinfo) := by
  refine ⟨rfl, rfl, ?_, ?_⟩
  · simp [NextionWriteTask.start, Watcher.start]
  · simp [NextionWriteTask.start, Watcher.start]

theorem Remembers.after (h : Remembers w t) (nows : List (Tm × Nextion)) :
    Remembers (after (Watcher.step texts) w nows) (after (NextionWriteTask.step texts) t nows) := by
  induction nows generalizing w t with
  | nil => exact h
  | cons now nows ih => exact ih (h.step texts now)

/-- **What the flags are for.** Whatever the handle and the clock are at each of its calls, the
write task sends the commands of one that remembers the page of its last iteration: a page with
entries is filled when it comes up, and every other page in each iteration. -/
theorem refresh_refines (timeinfo : Tm) (nows : List (Tm × Nextion)) :
    outputs (NextionWriteTask.step texts) NextionWriteTask.sends (.start timeinfo) nows =
      outputs (Watcher.step texts) Watcher.sends (.start timeinfo) nows := by
  exact (remembers_start timeinfo).outputs_eq texts nows

/-! ## A page with entries -/

/-- The page has come up, and stays. -/
theorem Watcher.outputs_length_le {page : Int} (hpage : HasEntries page)
    (nows : List (Tm × Nextion)) (hnows : ∀ now ∈ nows, now.2.currentPage = page) (w : Watcher)
    (hlast : w.lastPage = some page) :
    (outputs (Watcher.step texts) Watcher.sends w nows).length ≤ w.todo.length := by
  induction nows generalizing w with
  | nil => exact Nat.zero_le _
  | cons now nows ih =>
    obtain ⟨hnow, hrest⟩ := List.forall_mem_cons.mp hnows
    obtain ⟨lastPage, timeinfo, todo⟩ := w
    have hlast' : lastPage = some page := hlast
    rw [outputs_cons]
    cases todo with
    | nil =>
      have hstep : Watcher.step texts now ⟨lastPage, timeinfo, []⟩ = ⟨some page, now.1, []⟩ := by
        simp [Watcher.step, Watcher.refresh, hnow, hlast', hpage]
      rw [hstep]
      exact ih hrest ⟨some page, now.1, []⟩ rfl
    | cons shown rest =>
      have hle := ih hrest ⟨lastPage, timeinfo, rest⟩ hlast
      rw [List.length_append]
      exact (Nat.add_le_add_left hle 1).trans_eq (Nat.add_comm 1 rest.length)

/-- **Entries are kept.** From an iteration on, for as long as a page with entries is shown,
however long that is, no more commands are sent than the page has numbers. -/
theorem entries_kept (timeinfo : Tm) (before during : List (Tm × Nextion)) {page : Int}
    (hpage : HasEntries page) (hduring : ∀ now ∈ during, now.2.currentPage = page)
    (hbefore : (after (NextionWriteTask.step texts) (.start timeinfo) before).todo = []) :
    (outputs (NextionWriteTask.step texts) NextionWriteTask.sends
      (after (NextionWriteTask.step texts) (.start timeinfo) before) during).length ≤
        (Watcher.onPage texts page).length := by
  have hafter := (remembers_start timeinfo).after texts before
  rw [hafter.outputs_eq texts during]
  have hidle := hafter.todo.symm.trans hbefore
  generalize Runs.after (Watcher.step texts) (.start timeinfo) before = w at hidle
  cases during with
  | nil => exact Nat.zero_le _
  | cons now during =>
    obtain ⟨hnow, hrest⟩ := List.forall_mem_cons.mp hduring
    -- The first step is the iteration.
    have hsends : Watcher.sends now w = none := by
      unfold Watcher.sends
      rw [hidle]
    have hstep : Watcher.step texts now w = w.refresh texts now.1 page := by
      unfold Watcher.step
      rw [hidle, ← hnow]
    have htodo : (w.refresh texts now.1 page).todo.length ≤
        (Watcher.onPage texts page).length := by
      show (if _ then _ else _ : List Shown).length ≤ _
      split
      · exact Nat.zero_le _
      · exact Nat.le_refl _
    rw [outputs_cons, hsends, hstep]
    exact (Watcher.outputs_length_le texts hpage during hrest _ rfl).trans htodo

end refines

def noTexts : NextionTexts := ⟨fun _ _ _ => "", "", ""⟩

def newYear : Tm := ⟨0, 0, 0, 1, 0, 126⟩

/-- The page of the schedule is shown for two iterations. -/
def entering : List (Tm × Nextion) :=
  List.replicate 6 (newYear, appNextionInit true ⟨18, 0, 6, 0⟩ pageScheduleIndex)

theorem entries_kept_entering :
    (outputs (NextionWriteTask.step noTexts) NextionWriteTask.sends
      (after (NextionWriteTask.step noTexts) (.start newYear) []) entering).length ≤
        (Watcher.onPage noTexts pageScheduleIndex).length := by
  apply entries_kept noTexts newYear [] entering (.inl rfl)
  · intro now hnow
    rw [List.eq_of_mem_replicate hnow]
    rfl
  · rfl

example : outputs (NextionWriteTask.step noTexts) NextionWriteTask.sends (.start newYear) entering =
    [.val "n0" 18, .val "n1" 0, .val "n2" 6, .val "n3" 0] := by
  rfl

end Lighting
