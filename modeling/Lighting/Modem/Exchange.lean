import Lighting.Lib.Runs
import Lighting.Modem.Handlers

/-!
# Two tasks, one command after the other

`exchange` is a command and its whole answer with nothing in between: the handler is installed,
every line is handled, the state is read. `inTurn` is a program of commands done so.

A modem that ends each answer with one line that ends the command, whose lines the handlers can
take, and that sends nothing of itself, makes the two tasks do exactly this, whatever the order of
their steps, as long as no wait runs out of time (`commands_in_turn`); and they do not come to a
stop before the program is through (`commands_go_on`).
-/

set_option autoImplicit false

namespace Lighting.Dialogue

open CString Runs

/-- One line, with the handler in place. -/
def takeLine (h : LineHandler) (raw : Bytes) (dce : Dce) : Option Dce :=
  if skippedLine (cstr raw) then some dce else h.handle (cstr raw) dce

def takeLines (h : LineHandler) : List Bytes → Dce → Option Dce
  | [], dce => some dce
  | raw :: raws, dce => (takeLine h raw dce).bind (takeLines h raws)

/-- The object as a command is written. -/
def begun (dce : Dce) (h : LineHandler) : Dce :=
  { dce with handleLine := some h, state := .processing }

/-- A command and its whole answer. -/
def exchange (command : ModemCommand) (raws : List Bytes) (dce : Dce) : Option Dce :=
  (takeLines command.handler raws (begun dce command.handler)).map
    fun dce => { dce with handleLine := none }

section program

variable (program : ModemProgram) (answer : Nat → ModemCommand → List Bytes) (dce : Dce)

/-- The first commands of a program, one after the other. -/
def inTurn : Nat → Option (Dce × List CommandResult)
  | 0 => some (dce, [])
  | n + 1 => (inTurn n).bind fun p =>
    match program p.2 with
    | none => some p
    | some command =>
      (exchange command (answer p.2.length command) p.1).map fun d => (d, p.2 ++ [some d.state])

/-- The state a run leads to. -/
def reached (turns : List ModemTurn) : Modem :=
  after (Modem.step program answer) (.start dce) turns

end program

def AllSkipped (raws : List Bytes) : Prop := ∀ raw ∈ raws, skippedLine (cstr raw) = true

/-- One line ends the command, and what comes behind it is skipped. -/
def endsCommand (h : LineHandler) : List Bytes → Bool
  | [] => false
  | raw :: raws =>
    if skippedLine (cstr raw) then endsCommand h raws
    else
      match h.verdict (cstr raw) with
      | some _ => raws.all fun r => skippedLine (cstr r)
      | none => endsCommand h raws

abbrev EndsCommand (h : LineHandler) (raws : List Bytes) : Prop := endsCommand h raws = true

/-- The modem answers every command of a program, and ends each answer. -/
def Ends (program : ModemProgram) (answer : Nat → ModemCommand → List Bytes) : Prop :=
  ∀ results command, program results = some command →
    EndsCommand command.handler (answer results.length command)

/-- A handler can take every line of an answer. -/
def KeepsAll (h : LineHandler) (raws : List Bytes) : Prop :=
  ∀ raw ∈ raws, h.verdict (cstr raw) = none → Keeps h (cstr raw)

/-- No answer to a command of a program leaves the strings of the object. -/
def AnswersKeep (program : ModemProgram) (answer : Nat → ModemCommand → List Bytes) : Prop :=
  ∀ results command, program results = some command →
    KeepsAll command.handler (answer results.length command)

/-! ## Lines -/

section lines

variable {h : LineHandler} {raw : Bytes} {raws : List Bytes} {dce : Dce}

theorem cstr_cstr (s : Bytes) : cstr (cstr s) = cstr s := by
  unfold cstr
  rw [List.takeWhile_takeWhile]
  simp

theorem takeLine_of_skipped (hskip : skippedLine (cstr raw) = true) :
    takeLine h raw dce = some dce := if_pos hskip

theorem takeLine_of_verdict {state : ModemState} (hskip : skippedLine (cstr raw) = false)
    (hverdict : h.verdict (cstr raw) = some state) :
    takeLine h raw dce = some { dce with state := state } := by
  unfold takeLine LineHandler.handle
  rw [hskip, hverdict]
  rfl

theorem takeLine_of_store (hskip : skippedLine (cstr raw) = false)
    (hverdict : h.verdict (cstr raw) = none) : takeLine h raw dce = h.store (cstr raw) dce := by
  unfold takeLine LineHandler.handle
  rw [hskip, hverdict]
  rfl

theorem takeLines_cons : takeLines h (raw :: raws) dce =
    (takeLine h raw dce).bind (takeLines h raws) := rfl

theorem takeLines_cstr : takeLines h (cstr raw :: raws) dce = takeLines h (raw :: raws) dce := by
  rw [takeLines_cons, takeLines_cons]
  unfold takeLine
  rw [cstr_cstr]

theorem takeLines_skipped (hskip : AllSkipped raws) : takeLines h raws dce = some dce := by
  induction raws with
  | nil => rfl
  | cons raw raws ih =>
    rw [takeLines_cons, takeLine_of_skipped (hskip raw List.mem_cons_self)]
    exact ih fun r hr => hskip r (List.mem_cons_of_mem raw hr)

theorem takeLines_append_of_skipped {before : List Bytes} (hskip : AllSkipped before) :
    takeLines h (before ++ raws) dce = takeLines h raws dce := by
  induction before with
  | nil => rfl
  | cons raw before ih =>
    rw [List.cons_append, takeLines_cons, takeLine_of_skipped (hskip raw List.mem_cons_self)]
    exact ih fun r hr => hskip r (List.mem_cons_of_mem raw hr)

theorem takeLine_isSome (dce : Dce) (hkeeps : h.verdict (cstr raw) = none → Keeps h (cstr raw)) :
    (takeLine h raw dce).isSome := by
  unfold takeLine
  split
  · rfl
  · exact handle_isSome dce hkeeps

theorem takeLines_isSome (hkeeps : KeepsAll h raws) :
    ∀ dce, (takeLines h raws dce).isSome := by
  induction raws with
  | nil => exact fun _ => rfl
  | cons raw raws ih =>
    obtain ⟨hraw, hraws⟩ := List.forall_mem_cons.mp hkeeps
    intro dce
    obtain ⟨dce', hdce'⟩ := Option.isSome_iff_exists.mp (takeLine_isSome dce hraw)
    rw [takeLines_cons, hdce']
    exact ih hraws dce'

theorem endsCommand_of_skipped (hskip : skippedLine (cstr raw) = true) :
    EndsCommand h (raw :: raws) ↔ EndsCommand h raws := by
  rw [EndsCommand, endsCommand, if_pos hskip]

theorem endsCommand_of_verdict {state : ModemState} (hskip : skippedLine (cstr raw) = false)
    (hverdict : h.verdict (cstr raw) = some state) :
    EndsCommand h (raw :: raws) ↔ AllSkipped raws := by
  rw [EndsCommand, endsCommand, hskip, hverdict]
  exact List.all_eq_true

theorem endsCommand_of_store (hskip : skippedLine (cstr raw) = false)
    (hverdict : h.verdict (cstr raw) = none) :
    EndsCommand h (raw :: raws) ↔ EndsCommand h raws := by
  rw [EndsCommand, endsCommand, hskip, hverdict]
  rfl

theorem endsCommand_cstr : EndsCommand h (cstr raw :: raws) ↔ EndsCommand h (raw :: raws) := by
  rw [EndsCommand, EndsCommand, endsCommand, endsCommand, cstr_cstr]

theorem endsCommand_append_of_skipped {before : List Bytes} (hskip : AllSkipped before) :
    EndsCommand h (before ++ raws) ↔ EndsCommand h raws := by
  induction before with
  | nil => rfl
  | cons raw before ih =>
    rw [List.cons_append, endsCommand_of_skipped (hskip raw List.mem_cons_self)]
    exact ih fun r hr => hskip r (List.mem_cons_of_mem raw hr)

/-- A handler leaves the pointer to it alone. -/
theorem store_handleLine {line : Bytes} {dce' : Dce} (hstore : h.store line dce = some dce') :
    dce'.handleLine = dce.handleLine := by
  cases h with
  | bg96HandleCgmm | bg96HandleCgsn | bg96HandleCimi | bg96HandleCops =>
    obtain ⟨memory, -, rfl⟩ := Option.map_eq_some_iff.mp hstore
    rfl
  | _ =>
    cases hstore
    rfl

end lines

/-- Where every line can be taken, the program done in turn goes through. -/
theorem inTurn_isSome {program : ModemProgram} {answer : Nat → ModemCommand → List Bytes}
    (hkeep : AnswersKeep program answer) (dce : Dce) (n : Nat) :
    (inTurn program answer dce n).isSome := by
  induction n with
  | zero => rfl
  | succ n ih =>
    obtain ⟨p, hp⟩ := Option.isSome_iff_exists.mp ih
    rw [inTurn, hp, Option.bind_some]
    split
    · rfl
    · rename_i command hnext
      rw [Option.isSome_map, exchange, Option.isSome_map]
      exact takeLines_isSome (hkeep p.2 command hnext) _

/-! ## What holds between the steps -/

section steps

variable {program : ModemProgram} {answer : Nat → ModemCommand → List Bytes} {d : Dce} {s : Modem}

/-- Nothing of an answer is on the way. -/
structure Quiet (s : Modem) : Prop where
  reader : s.reader = .idle
  sem : s.processSem = false
  lines : AllSkipped s.lines

/-- The answer of a command is on the way, and is going to leave `d'`. -/
def Coming (h : LineHandler) (d' : Dce) (s : Modem) : Prop :=
  match s.reader with
  | .idle =>
    (s.processSem = false ∧ EndsCommand h s.lines ∧ takeLines h s.lines s.dce = some d') ∨
      s.processSem = true ∧ AllSkipped s.lines ∧ s.dce = d'
  | .tested line =>
    s.processSem = false ∧ skippedLine line = false ∧ cstr line = line ∧
      EndsCommand h (line :: s.lines) ∧ takeLines h (line :: s.lines) s.dce = some d'
  | .calling handler line =>
    handler = h ∧ s.processSem = false ∧ skippedLine line = false ∧ cstr line = line ∧
      EndsCommand h (line :: s.lines) ∧ takeLines h (line :: s.lines) s.dce = some d'
  | .done => s.processSem = false ∧ AllSkipped s.lines ∧ s.dce = d'
  | .crashed => False

/-- The whole answer of the command at hand, from the state `d` before it. -/
def Answered (answer : Nat → ModemCommand → List Bytes) (d : Dce) (command : ModemCommand)
    (s : Modem) (d' : Dce) : Prop :=
  takeLines command.handler (answer s.results.length command) (begun d command.handler) =
    some d'

/-- Where the command at hand is, from the state `d` before it. -/
def Stage (program : ModemProgram) (answer : Nat → ModemCommand → List Bytes) (d : Dce)
    (s : Modem) : Prop :=
  match s.caller with
  | .idle => Quiet s ∧ s.dce = d
  | .installed command =>
    program s.results = some command ∧ Quiet s ∧
      s.dce = { d with handleLine := some command.handler }
  | .reset command =>
    program s.results = some command ∧ Quiet s ∧ s.dce = begun d command.handler
  | .sent command =>
    program s.results = some command ∧ s.dce.handleLine = some command.handler ∧
      ∃ d', Answered answer d command s d' ∧ Coming command.handler d' s
  | .ended command taken =>
    program s.results = some command ∧ taken = true ∧ Quiet s ∧
      Answered answer d command s s.dce
  | .cleared command taken =>
    program s.results = some command ∧ taken = true ∧ Quiet s ∧
      ∃ d', Answered answer d command s d' ∧ s.dce = { d' with handleLine := none }

variable {command : ModemCommand} {d' : Dce}

theorem Quiet.stepReader (h : Quiet s) : s.stepReader = { s with lines := s.lines.tail } := by
  obtain ⟨dce, sem, caller, reader, lines, results⟩ := s
  obtain rfl : reader = .idle := h.reader
  unfold Modem.stepReader
  dsimp only
  cases lines with
  | nil => rfl
  | cons raw raws =>
    dsimp only
    rw [if_pos (h.lines raw List.mem_cons_self)]
    rfl

theorem AllSkipped.tail {raws : List Bytes} (h : AllSkipped raws) : AllSkipped raws.tail :=
  fun raw hraw => h raw (List.mem_of_mem_tail hraw)

theorem Quiet.tail (h : Quiet s) : Quiet { s with lines := s.lines.tail } :=
  ⟨h.reader, h.sem, AllSkipped.tail h.lines⟩

/-- The UART task goes on with an answer. -/
theorem coming_stepReader (hhandler : s.dce.handleLine = some command.handler)
    (h : Coming command.handler d' s) :
    Coming command.handler d' s.stepReader ∧
      s.stepReader.dce.handleLine = some command.handler ∧
      s.stepReader.caller = s.caller ∧ s.stepReader.results = s.results := by
  obtain ⟨dce, sem, caller, reader, lines, results⟩ := s
  unfold Coming at h
  unfold Modem.stepReader
  cases reader with
  | idle =>
    dsimp only at h hhandler ⊢
    rcases h with ⟨hsem, hends, htake⟩ | ⟨hsem, hskip, hdone⟩
    · cases lines with
      | nil => exact absurd hends Bool.false_ne_true
      | cons raw raws =>
        dsimp only
        by_cases hskip : skippedLine (cstr raw) = true
        · rw [if_pos hskip]
          rw [endsCommand_of_skipped hskip] at hends
          rw [takeLines_cons, takeLine_of_skipped hskip, Option.bind_some] at htake
          exact ⟨.inl ⟨hsem, hends, htake⟩, hhandler, rfl, rfl⟩
        · rw [if_neg hskip, hhandler]
          rw [← endsCommand_cstr] at hends
          rw [← takeLines_cstr] at htake
          exact ⟨⟨hsem, Bool.eq_false_iff.mpr hskip, cstr_cstr raw, hends, htake⟩, hhandler, rfl,
            rfl⟩
    · cases lines with
      | nil => exact ⟨.inr ⟨hsem, hskip, hdone⟩, hhandler, rfl, rfl⟩
      | cons raw raws =>
        dsimp only
        rw [if_pos (hskip raw List.mem_cons_self)]
        exact ⟨.inr ⟨hsem, AllSkipped.tail hskip, hdone⟩, hhandler, rfl, rfl⟩
  | tested line =>
    dsimp only at h hhandler ⊢
    rw [hhandler]
    exact ⟨⟨rfl, h⟩, hhandler, rfl, rfl⟩
  | calling handler line =>
    dsimp only at h hhandler ⊢
    obtain ⟨rfl, hsem, hskip, hcstr, hends, htake⟩ := h
    rw [← hcstr] at hskip
    rw [takeLines_cons] at htake
    cases hverdict : command.handler.verdict line with
    | some state =>
      -- The line that ends the command.
      rw [← hcstr] at hverdict
      rw [endsCommand_of_verdict hskip hverdict] at hends
      rw [takeLine_of_verdict hskip hverdict, Option.bind_some, takeLines_skipped hends] at htake
      exact ⟨⟨hsem, hends, Option.some.inj htake⟩, hhandler, rfl, rfl⟩
    | none =>
      rw [← hcstr] at hverdict
      rw [endsCommand_of_store hskip hverdict] at hends
      rw [takeLine_of_store hskip hverdict, hcstr] at htake
      obtain ⟨dce', hstore, htake⟩ := Option.bind_eq_some_iff.mp htake
      rw [hstore]
      exact ⟨.inl ⟨hsem, hends, htake⟩, (store_handleLine hstore).trans hhandler, rfl, rfl⟩
  | done => exact ⟨.inr ⟨rfl, h.2⟩, hhandler, rfl, rfl⟩
  | crashed => exact absurd h id

theorem stage_stepReader (h : Stage program answer d s) : Stage program answer d s.stepReader := by
  obtain ⟨dce, sem, caller, reader, lines, results⟩ := s
  unfold Stage at h
  cases caller with
  | idle =>
    obtain ⟨hquiet, hdce⟩ := h
    rw [hquiet.stepReader]
    exact ⟨hquiet.tail, hdce⟩
  | installed command | reset command =>
    obtain ⟨hnext, hquiet, hdce⟩ := h
    rw [hquiet.stepReader]
    exact ⟨hnext, hquiet.tail, hdce⟩
  | sent command =>
    obtain ⟨hnext, hhandler, d', hanswered, hcoming⟩ := h
    obtain ⟨hcoming', hhandler', hcaller, hresults⟩ := coming_stepReader hhandler hcoming
    unfold Stage Answered
    rw [hcaller, hresults]
    exact ⟨hnext, hhandler', d', hanswered, hcoming'⟩
  | ended command taken | cleared command taken =>
    obtain ⟨hnext, htaken, hquiet, hanswered⟩ := h
    rw [hquiet.stepReader]
    exact ⟨hnext, htaken, hquiet.tail, hanswered⟩

end steps

/-- The commands so far are the first of the program, done in turn. -/
def InTurn (program : ModemProgram) (answer : Nat → ModemCommand → List Bytes) (dce : Dce)
    (s : Modem) : Prop :=
  ∃ d, inTurn program answer dce s.results.length = some (d, s.results) ∧
    Stage program answer d s

section run

variable {program : ModemProgram} {answer : Nat → ModemCommand → List Bytes} {dce : Dce}
  {s : Modem}

theorem inTurn_stepReader (h : InTurn program answer dce s) :
    InTurn program answer dce s.stepReader := by
  obtain ⟨d, hturn, hstage⟩ := h
  have hresults : s.stepReader.results = s.results := by
    unfold Modem.stepReader
    repeat' split
    all_goals rfl
  refine ⟨d, ?_, stage_stepReader hstage⟩
  rw [hresults]
  exact hturn

theorem inTurn_stepCaller (hanswer : Ends program answer)
    (hsafe : ∀ n, (inTurn program answer dce n).isSome) (h : InTurn program answer dce s) :
    InTurn program answer dce (s.stepCaller program answer false) := by
  obtain ⟨d, hturn, hstage⟩ := h
  obtain ⟨sdce, sem, caller, reader, lines, results⟩ := s
  dsimp only at hturn
  unfold Stage at hstage
  unfold Modem.stepCaller
  cases caller with
  | idle =>
    dsimp only at hstage ⊢
    obtain ⟨hquiet, rfl⟩ := hstage
    cases hnext : program results with
    | none => exact ⟨sdce, hturn, hquiet, rfl⟩
    | some command => exact ⟨sdce, hturn, hnext, ⟨hquiet.reader, hquiet.sem, hquiet.lines⟩, rfl⟩
  | installed command =>
    dsimp only at hstage ⊢
    obtain ⟨hnext, hquiet, rfl⟩ := hstage
    exact ⟨d, hturn, hnext, ⟨hquiet.reader, hquiet.sem, hquiet.lines⟩, rfl⟩
  | reset command =>
    dsimp only at hstage ⊢
    obtain ⟨hnext, ⟨rfl, rfl, hskip⟩, rfl⟩ := hstage
    have hsome := hsafe (results.length + 1)
    rw [inTurn, hturn, Option.bind_some] at hsome
    dsimp only at hsome
    rw [hnext] at hsome
    dsimp only at hsome
    rw [Option.isSome_map, exchange, Option.isSome_map] at hsome
    obtain ⟨d', hd'⟩ := Option.isSome_iff_exists.mp hsome
    refine ⟨d, hturn, hnext, rfl, d', hd', .inl ⟨rfl, ?_, ?_⟩⟩
    · exact (endsCommand_append_of_skipped hskip).mpr (hanswer results command hnext)
    · exact (takeLines_append_of_skipped hskip).trans hd'
  | sent command =>
    dsimp only at hstage ⊢
    rw [if_neg Bool.false_ne_true]
    obtain ⟨hnext, hhandler, d', hanswered, hcoming⟩ := hstage
    by_cases hsem : sem = true
    · subst hsem
      rw [if_pos rfl]
      -- The semaphore is there only behind the line that ended the command.
      unfold Coming at hcoming
      cases reader with
      | idle =>
        rcases hcoming with ⟨hsem, -⟩ | ⟨-, hskip, rfl⟩
        · cases hsem
        · exact ⟨d, hturn, hnext, rfl, ⟨rfl, rfl, hskip⟩, hanswered⟩
      | tested line => cases hcoming.1
      | calling handler line => cases hcoming.2.1
      | done => cases hcoming.1
      | crashed => exact absurd hcoming id
    · rw [if_neg hsem]
      exact ⟨d, hturn, hnext, hhandler, d', hanswered, hcoming⟩
  | ended command taken =>
    dsimp only at hstage ⊢
    obtain ⟨hnext, htaken, hquiet, hanswered⟩ := hstage
    exact ⟨d, hturn, hnext, htaken, ⟨hquiet.reader, hquiet.sem, hquiet.lines⟩, sdce, hanswered, rfl⟩
  | cleared command taken =>
    dsimp only at hstage ⊢
    obtain ⟨hnext, rfl, hquiet, d', hanswered, rfl⟩ := hstage
    refine ⟨_, ?_, ⟨hquiet.reader, hquiet.sem, hquiet.lines⟩, rfl⟩
    show inTurn program answer dce (results ++ [some d'.state]).length = _
    rw [List.length_append, List.length_singleton, inTurn, hturn, Option.bind_some]
    dsimp only
    rw [hnext]
    dsimp only
    unfold Answered at hanswered
    rw [exchange, hanswered]
    rfl

/-- As long as an answer is on the way, the UART task goes on. -/
theorem stepReader_moves {h : LineHandler} {d' : Dce} (hcoming : Coming h d' s)
    (hsem : s.processSem = false) : s.stepReader ≠ s := by
  obtain ⟨sdce, sem, caller, reader, lines, results⟩ := s
  intro hstay
  obtain rfl : sem = false := hsem
  unfold Coming at hcoming
  unfold Modem.stepReader at hstay
  cases reader with
  | idle =>
    rcases hcoming with ⟨-, hends, -⟩ | ⟨hsem, -⟩
    · cases lines with
      | nil => exact Bool.false_ne_true hends
      | cons raw raws =>
        have hlines := congrArg Modem.lines hstay
        have hne : raws ≠ raw :: raws := (List.cons_ne_self raw raws).symm
        dsimp only at hlines
        split at hlines
        · exact hne hlines
        · split at hlines <;> exact hne hlines
    · cases hsem
  | tested line =>
    have hreader := congrArg Modem.reader hstay
    dsimp only at hreader
    split at hreader <;> cases hreader
  | calling handler line =>
    have hreader := congrArg Modem.reader hstay
    dsimp only at hreader
    split at hreader
    · cases hreader
    · split at hreader <;> cases hreader
  | done => cases congrArg Modem.reader hstay
  | crashed => exact hcoming

/-- With a command at hand or to come, and the UART task at a stop, the caller goes on. -/
theorem stepCaller_moves {d : Dce} {command : ModemCommand}
    (hnext : program s.results = some command) (hstage : Stage program answer d s)
    (hreader : s.stepReader = s) : s.stepCaller program answer false ≠ s := by
  intro hstay
  have hcaller := congrArg Modem.caller hstay
  unfold Modem.stepCaller at hcaller
  unfold Stage at hstage
  cases hat : s.caller with
  | idle =>
    rw [hat] at hcaller
    dsimp only at hcaller
    rw [hnext] at hcaller
    cases hcaller
  | sent c =>
    rw [hat] at hcaller hstage
    obtain ⟨-, -, d', -, hcoming⟩ := hstage
    by_cases hsem : s.processSem = true
    · dsimp only at hcaller
      rw [if_neg Bool.false_ne_true, if_pos hsem] at hcaller
      cases hcaller
    · exact stepReader_moves hcoming (Bool.eq_false_iff.mpr hsem) hreader
  | installed c | reset c | ended c taken | cleared c taken =>
    rw [hat] at hcaller
    cases hcaller

/-- A turn of the tasks in which no wait runs out and the modem sends nothing of itself. -/
def Undisturbed : ModemTurn → Prop
  | .caller timesOut => timesOut = false
  | .reader => True
  | .receive _ => False

theorem inTurn_after (hanswer : Ends program answer)
    (hsafe : ∀ n, (inTurn program answer dce n).isSome) {turns : List ModemTurn}
    (hquiet : ∀ t ∈ turns, Undisturbed t) :
    InTurn program answer dce (reached program answer dce turns) := by
  have hstart : InTurn program answer dce (.start dce) :=
    ⟨dce, rfl, ⟨rfl, rfl, fun raw hraw => absurd hraw List.not_mem_nil⟩, rfl⟩
  apply after_invariant_of_mem _ hstart
  intro t ht s h
  have hundisturbed := hquiet t ht
  cases t with
  | caller timesOut =>
    obtain rfl : timesOut = false := hundisturbed
    exact inTurn_stepCaller hanswer hsafe h
  | reader => exact inTurn_stepReader h
  | receive line => exact absurd hundisturbed id

end run

/-- The answers of a modem that has nothing to say but that it is well. -/
def contentAnswer : LineHandler → List Bytes
  | .bg96HandleAtdPpp => [resultCodeConnect ++ [crByte, lfByte]]
  | .bg96HandleCsq => [csqKey ++ ascii [':', ' ', '1', '5', ',', '9', '9', '\r', '\n'],
      [crByte, lfByte], resultCodeSuccess ++ [crByte, lfByte]]
  | _ => [[crByte, lfByte], resultCodeSuccess ++ [crByte, lfByte]]

def contentModem (_ : Nat) (command : ModemCommand) : List Bytes := contentAnswer command.handler

theorem contentAnswer_ends (h : LineHandler) : EndsCommand h (contentAnswer h) := by
  cases h <;> decide

theorem contentModem_ends (program : ModemProgram) : Ends program contentModem :=
  fun _ command _ => contentAnswer_ends command.handler

/-- It has nothing to be stored but the signal. -/
theorem contentAnswer_keeps (h : LineHandler) : KeepsAll h (contentAnswer h) := by
  cases h with
  | bg96HandleCgmm | bg96HandleCgsn | bg96HandleCimi =>
    intro raw hraw _
    have hshort : ∀ raw ∈ contentAnswer .bg96HandleCgmm, (cstr raw).length ≤ 64 := by decide
    exact hshort raw hraw
  | bg96HandleCops =>
    intro raw hraw _ hkey
    have hother : ∀ raw ∈ contentAnswer .bg96HandleCops, memcmpEq (cstr raw) copsKey = false := by
      decide
    rw [hother raw hraw] at hkey
    exact absurd hkey Bool.false_ne_true
  | _ => exact fun _ _ _ => trivial

theorem contentModem_keeps (program : ModemProgram) : AnswersKeep program contentModem :=
  fun _ command _ => contentAnswer_keeps command.handler

/-- **The two tasks do one command after the other.** Whatever the order of their steps is, the
results so far, and the object where no command is at hand, are those of the program done in
turn, and the null pointer is not called. -/
theorem commands_in_turn (program : ModemProgram) (answer : Nat → ModemCommand → List Bytes)
    (dce : Dce) (hanswer : Ends program answer) (hkeep : AnswersKeep program answer)
    (turns : List ModemTurn) (hquiet : ∀ t ∈ turns, Undisturbed t) :
    (reached program answer dce turns).reader ≠ .crashed ∧
      ∃ d, inTurn program answer dce
          (reached program answer dce turns).results.length =
        some (d, (reached program answer dce turns).results) ∧
      ((reached program answer dce turns).caller = .idle →
        (reached program answer dce turns).dce = d) := by
  obtain ⟨d, hturn, hstage⟩ := inTurn_after hanswer (inTurn_isSome hkeep dce) hquiet
  refine ⟨?_, d, hturn, ?_⟩
  · intro hcrashed
    unfold Stage Coming at hstage
    split at hstage
    · exact absurd (hcrashed.symm.trans hstage.1.reader) (by simp)
    · exact absurd (hcrashed.symm.trans hstage.2.1.reader) (by simp)
    · exact absurd (hcrashed.symm.trans hstage.2.1.reader) (by simp)
    · obtain ⟨-, -, d', -, hcoming⟩ := hstage
      rw [hcrashed] at hcoming
      exact hcoming
    · exact absurd (hcrashed.symm.trans hstage.2.2.1.reader) (by simp)
    · exact absurd (hcrashed.symm.trans hstage.2.2.1.reader) (by simp)
  · intro hidle
    unfold Stage at hstage
    rw [hidle] at hstage
    exact hstage.2

/-- The modem answers while the caller is already at its wait. -/
def syncTurns : List ModemTurn :=
  [.caller false, .caller false, .caller false, .reader, .reader, .reader, .reader, .reader,
    .caller false, .caller false, .caller false]

theorem syncTurns_undisturbed : ∀ t ∈ syncTurns, Undisturbed t := by
  intro t ht
  simp only [syncTurns, List.mem_cons, List.not_mem_nil, or_false] at ht
  rcases ht with h | h | h | h | h | h | h | h | h | h | h <;> subst h <;> simp [Undisturbed]

theorem commands_in_turn_syncTurns :
    (reached pppCommands contentModem freshDce syncTurns).reader ≠ .crashed ∧
      ∃ d, inTurn pppCommands contentModem freshDce
          (reached pppCommands contentModem freshDce syncTurns).results.length =
        some (d, (reached pppCommands contentModem freshDce syncTurns).results) ∧
      ((reached pppCommands contentModem freshDce syncTurns).caller = .idle →
        (reached pppCommands contentModem freshDce syncTurns).dce = d) :=
  commands_in_turn pppCommands contentModem freshDce (contentModem_ends pppCommands)
    (contentModem_keeps pppCommands) syncTurns syncTurns_undisturbed

/-- **The tasks come to a stop only behind the last command.** -/
theorem commands_go_on (program : ModemProgram) (answer : Nat → ModemCommand → List Bytes)
    (dce : Dce) (hanswer : Ends program answer) (hkeep : AnswersKeep program answer)
    (turns : List ModemTurn) (hquiet : ∀ t ∈ turns, Undisturbed t)
    (hstop : ∀ t, Undisturbed t →
      Modem.step program answer t (reached program answer dce turns) =
        reached program answer dce turns) :
    program (reached program answer dce turns).results = none := by
  obtain ⟨d, hturn, hstage⟩ := inTurn_after hanswer (inTurn_isSome hkeep dce) hquiet
  have hcaller := hstop (.caller false) rfl
  have hreader := hstop .reader trivial
  generalize reached program answer dce turns = s at *
  clear hturn hstop
  rcases Option.eq_none_or_eq_some (program s.results) with hnext | ⟨command, hnext⟩
  · exact hnext
  · exact absurd hcaller (stepCaller_moves hnext hstage hreader)

def syncOnly : ModemProgram := fun results => if results = [] then some dceSync else none

theorem commands_go_on_syncOnly :
    syncOnly (reached syncOnly contentModem freshDce syncTurns).results =
      none := by
  apply commands_go_on syncOnly contentModem freshDce (contentModem_ends syncOnly)
    (contentModem_keeps syncOnly) syncTurns syncTurns_undisturbed
  intro t ht
  cases t with
  | caller timesOut =>
    obtain rfl : timesOut = false := ht
    rfl
  | reader => rfl
  | receive line => exact absurd ht id

end Lighting.Dialogue
