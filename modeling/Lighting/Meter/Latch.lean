import Mathlib.Data.List.Induction
import Mathlib.Tactic.IntervalCases
import Lighting.Lib.Retry
import Lighting.Lib.Runs
import Lighting.Model.Modbus

/-!
# The meter poll latches the last good value

An attempt at a quantity of the table does one of two things, and neither looks at what other
attempts left in `err` and `value`: it fails, or it writes the field of its own quantity
(`modbusAttempt_fail`, `modbusAttempt_ok`). The retry loop is then `Retry.first` and
`Retry.tries`, the loop over the quantities runs to its end because no answer is
`ESP_ERR_NOT_FOUND`, and over the rounds every field is a register that takes each answer.
-/

set_option autoImplicit false

namespace Lighting

open Runs Retry

/-- The replies of one round, by quantity and attempt. -/
abbrev MeterReplies := Nat → Nat → MbReply

/-- The value an attempt answers with. -/
def MbReply.answer (reply : MbReply) : Option CFloat :=
  if reply.err = .ok then some reply.value else none

/-- `mbc_master_get_parameter` finds what the table names. -/
def MeterReplies.Known (replies : MeterReplies) : Prop :=
  ∀ cid i, (replies cid i).err ≠ espErrNotFound

/-- What a round reads of a quantity. -/
def MeterReplies.good (replies : MeterReplies) (cid : Nat) : Option CFloat :=
  first (fun i => (replies cid i).answer) 10

/-- How often a round asks for a quantity. -/
def MeterReplies.asked (replies : MeterReplies) (cid : Nat) : Nat :=
  tries (fun i => (replies cid i).answer) 10

/-- The requests of a round: the quantities in order, each as often as it takes. -/
def MeterReplies.requests (replies : MeterReplies) : List Nat :=
  (List.range numDeviceParameters).flatMap fun cid => List.replicate (replies.asked cid) cid

/-- The last value read of a quantity, zero before the first. -/
def lastGood (rounds : List MeterReplies) (cid : Nat) : CFloat :=
  latest 0 (rounds.map fun replies => replies.good cid)

/-- Every field the last value of its own quantity. -/
def latched (rounds : List MeterReplies) : PhasesData where
  u1 := lastGood rounds 0
  u2 := lastGood rounds 1
  u3 := lastGood rounds 2
  i1 := lastGood rounds 3
  i2 := lastGood rounds 4
  i3 := lastGood rounds 5
  p1 := lastGood rounds 6
  p2 := lastGood rounds 7
  p3 := lastGood rounds 8
  phy1 := lastGood rounds 9
  phy2 := lastGood rounds 10
  phy3 := lastGood rounds 11
  power := lastGood rounds 12

/-! ## The field of a quantity -/

def phaseField (cid : Nat) (p : PhasesData) : CFloat :=
  match cid with
  | 0 => p.u1
  | 1 => p.u2
  | 2 => p.u3
  | 3 => p.i1
  | 4 => p.i2
  | 5 => p.i3
  | 6 => p.p1
  | 7 => p.p2
  | 8 => p.p3
  | 9 => p.phy1
  | 10 => p.phy2
  | 11 => p.phy3
  | _ => p.power

theorem phaseField_self {cid : Nat} (h : cid < numDeviceParameters) (v : CFloat)
    (p : PhasesData) : phaseField cid (setPhasesData cid v p) = v := by
  have hlt : cid < 13 := h
  interval_cases cid <;> rfl

theorem phaseField_of_ne {c cid : Nat} (h : cid < numDeviceParameters)
    (hc : c < numDeviceParameters) (hne : c ≠ cid) (v : CFloat) (p : PhasesData) :
    phaseField c (setPhasesData cid v p) = phaseField c p := by
  have hlt : cid < 13 := h
  have hclt : c < 13 := hc
  interval_cases cid <;> interval_cases c <;> first | rfl | exact absurd rfl hne

theorem phasesData_ext {p q : PhasesData}
    (h : ∀ cid < numDeviceParameters, phaseField cid p = phaseField cid q) : p = q := by
  cases p
  cases q
  rw [PhasesData.mk.injEq]
  exact ⟨h 6 (by decide), h 7 (by decide), h 8 (by decide), h 0 (by decide), h 1 (by decide),
    h 2 (by decide), h 3 (by decide), h 4 (by decide), h 5 (by decide), h 9 (by decide),
    h 10 (by decide), h 11 (by decide), h 12 (by decide)⟩

theorem phaseField_latched (rounds : List MeterReplies) {cid : Nat}
    (h : cid < numDeviceParameters) : phaseField cid (latched rounds) = lastGood rounds cid := by
  have hlt : cid < 13 := h
  interval_cases cid <;> rfl

/-! ## The table -/

/-- Every quantity is in the table under its own number, as an input register that can be
stored. -/
theorem getCidInfo {cid : Nat} (h : cid < numDeviceParameters) :
    ∃ d, mbcMasterGetCidInfo cid = some d ∧ d.cid = cid ∧ d.mbParamType = .input ∧
      masterGetParamData d = some (.input, 0) := by
  have hlt : cid < 13 := h
  interval_cases cid <;> exact ⟨_, rfl, rfl, rfl, rfl⟩

/-! ## One attempt -/

/-- The task after an attempt, whatever it read. -/
def ModbusTask.asked (cid : Nat) (reply : MbReply) (task : ModbusTask) : ModbusTask :=
  { task with err := reply.err, value := reply.value, requests := task.requests ++ [cid] }

theorem modbusAttempt_fail {cid : Nat} (h : cid < numDeviceParameters) {reply : MbReply}
    (hreply : reply.answer = none) (task : ModbusTask) :
    modbusAttempt cid reply task = (false, task.asked cid reply) := by
  obtain ⟨d, hinfo, -, -, hdata⟩ := getCidInfo h
  have herr : reply.err ≠ .ok := by
    intro hok
    simp [MbReply.answer, hok] at hreply
  simp only [modbusAttempt, hinfo, hdata, herr, ne_eq, not_false_eq_true, if_true]
  rfl

theorem modbusAttempt_ok {cid : Nat} (h : cid < numDeviceParameters) {reply : MbReply}
    {v : CFloat} (hreply : reply.answer = some v) (task : ModbusTask) :
    modbusAttempt cid reply task = (true, { task.asked cid reply with
      handle := { task.handle with phaseData := setPhasesData cid v task.handle.phaseData } }) := by
  obtain ⟨d, hinfo, hcid, htype, hdata⟩ := getCidInfo h
  unfold MbReply.answer at hreply
  split at hreply
  case isFalse => cases hreply
  case isTrue hok =>
    obtain rfl := Option.some.inj hreply
    simp only [modbusAttempt, hinfo, hdata, hok, ne_eq, not_true_eq_false, if_false, htype,
      or_true, if_true, hcid]
    simp only [ModbusTask.asked, hok]

/-! ## The retry loop -/

/-- What the attempts at one quantity do: they ask until it answers, and the answer goes into
its field. -/
structure Attempted (cid n : Nat) (answers : Nat → Option CFloat) (a b : ModbusTask) : Prop where
  known : b.err ≠ espErrNotFound
  running : b.handle.running = a.handle.running
  callback : b.handle.callback = a.handle.callback
  requests : b.requests = a.requests ++ List.replicate (tries answers n) cid
  phaseData : b.handle.phaseData =
    match first answers n with
    | none => a.handle.phaseData
    | some v => setPhasesData cid v a.handle.phaseData

theorem modbusAttempts_spec {cid : Nat} (h : cid < numDeviceParameters) {replies : Nat → MbReply}
    (hknown : ∀ i, (replies i).err ≠ espErrNotFound) (left i : Nat) (task : ModbusTask)
    (herr : task.err ≠ espErrNotFound) :
    Attempted cid left (fun k => (replies (i + k)).answer) task
      (modbusAttempts cid replies left i task) := by
  induction left generalizing i task with
  | zero => exact ⟨herr, rfl, rfl, (List.append_nil _).symm, rfl⟩
  | succ left ih =>
    have h0 : (replies (i + 0)).answer = (replies i).answer := rfl
    unfold modbusAttempts
    cases hreply : (replies i).answer with
    | none =>
      rw [hreply] at h0
      rw [modbusAttempt_fail h hreply]
      obtain ⟨hk, hr, hc, hreq, hdata⟩ := ih (i + 1) (task.asked cid (replies i)) (hknown i)
      have hshift : (fun k => (replies (i + 1 + k)).answer) =
          fun k => (replies (i + (k + 1))).answer := by
        funext k
        rw [Nat.add_right_comm, Nat.add_assoc]
      rw [hshift] at hreq hdata
      refine ⟨hk, hr, hc, ?_, ?_⟩
      · rw [tries_succ_of_none _ left h0, List.replicate_succ, List.append_cons]
        exact hreq
      · rw [first_succ, h0, Option.none_or]
        exact hdata
    | some v =>
      rw [hreply] at h0
      rw [modbusAttempt_ok h hreply]
      refine ⟨hknown i, rfl, rfl, ?_, ?_⟩
      · rw [tries_succ_of_some _ left h0]
        rfl
      · rw [first_succ, h0, Option.some_or]

/-! ## The loop over the quantities -/

theorem modbusAttempts_field {cid n : Nat} (h : cid < numDeviceParameters)
    {answers : Nat → Option CFloat} {a b : ModbusTask} (hab : Attempted cid n answers a b)
    {c : Nat} (hc : c < numDeviceParameters) :
    phaseField c b.handle.phaseData =
      if c = cid then (first answers n).getD (phaseField c a.handle.phaseData)
      else phaseField c a.handle.phaseData := by
  rw [hab.phaseData]
  cases first answers n with
  | none =>
    rw [Option.getD_none, ite_self]
  | some v =>
    by_cases heq : c = cid
    · rw [if_pos heq, heq]
      exact phaseField_self h v _
    · rw [if_neg heq]
      exact phaseField_of_ne h hc heq v _

/-- What the loop does from the quantity `cid` on. -/
structure MeterPolled (replies : MeterReplies) (cid left : Nat) (a b : ModbusTask) : Prop where
  known : b.err ≠ espErrNotFound
  running : b.handle.running = a.handle.running
  callback : b.handle.callback = a.handle.callback
  requests : b.requests = a.requests ++
    (List.range' cid left).flatMap fun c => List.replicate (replies.asked c) c
  field : ∀ c < numDeviceParameters, phaseField c b.handle.phaseData =
    if cid ≤ c then (replies.good c).getD (phaseField c a.handle.phaseData)
    else phaseField c a.handle.phaseData

/-- **No quantity is skipped.** No answer is `ESP_ERR_NOT_FOUND`, so the loop goes on to its
end. -/
theorem modbusCids_spec {replies : MeterReplies} (hknown : replies.Known) (left cid : Nat)
    (hend : cid + left = numDeviceParameters) (task : ModbusTask)
    (herr : task.err ≠ espErrNotFound) :
    MeterPolled replies cid left task (modbusCids replies left cid task) := by
  induction left generalizing cid task with
  | zero =>
    refine ⟨herr, rfl, rfl, (List.append_nil _).symm, fun c hc => ?_⟩
    rw [if_neg (by omega)]
    rfl
  | succ left ih =>
    have hlt : cid < numDeviceParameters := by omega
    unfold modbusCids
    rw [if_neg herr]
    have hone := modbusAttempts_spec hlt (hknown cid) 10 0 task herr
    simp only [Nat.zero_add] at hone
    have hrest := ih (cid + 1) (by omega) _ hone.known
    refine ⟨hrest.known, hrest.running.trans hone.running, hrest.callback.trans hone.callback,
      ?_, fun c hc => ?_⟩
    · rw [hrest.requests, hone.requests, List.range'_succ, List.flatMap_cons, List.append_assoc]
      rfl
    · rw [hrest.field c hc, modbusAttempts_field hlt hone hc]
      rcases Nat.lt_trichotomy c cid with hcid | rfl | hcid
      · rw [if_neg (by omega), if_neg (by omega), if_neg (by omega)]
      · rw [if_neg (by omega), if_pos rfl, if_pos (Nat.le_refl c)]
        rfl
      · rw [if_pos (by omega), if_neg (by omega), if_pos (by omega)]

/-! ## The rounds -/

/-- What holds between two rounds. -/
structure Latches (rounds : List MeterReplies) (task : ModbusTask) : Prop where
  known : task.err ≠ espErrNotFound
  running : task.handle.running = true
  callback : task.handle.callback = true
  phaseData : task.handle.phaseData = latched rounds

theorem start_latches : Latches [] (.start (appModbusStart (appModbusInit true))) :=
  ⟨by decide, rfl, rfl, rfl⟩

theorem lastGood_concat (rounds : List MeterReplies) (replies : MeterReplies) (cid : Nat) :
    lastGood (rounds ++ [replies]) cid = (replies.good cid).getD (lastGood rounds cid) := by
  unfold lastGood
  rw [List.map_append, List.map_singleton, latest_concat]

theorem modbusRound_spec {rounds : List MeterReplies} {task : ModbusTask}
    (h : Latches rounds task) {replies : MeterReplies} (hknown : replies.Known) :
    Latches (rounds ++ [replies]) (modbusRound replies task) ∧
      (modbusRound replies task).requests = replies.requests := by
  have hpoll := modbusCids_spec hknown numDeviceParameters 0 (Nat.zero_add _)
    { task with requests := [] } h.known
  unfold modbusRound
  rw [if_pos h.running]
  refine ⟨⟨hpoll.known, hpoll.running.trans h.running, hpoll.callback.trans h.callback, ?_⟩, ?_⟩
  · apply phasesData_ext
    intro cid hcid
    rw [hpoll.field cid hcid, if_pos (Nat.zero_le cid), phaseField_latched _ hcid,
      lastGood_concat, ← phaseField_latched rounds hcid, ← h.phaseData]
  · rw [hpoll.requests, List.nil_append, ← List.range_eq_range']
    rfl

theorem rounds_latch (rounds : List MeterReplies) (hknown : ∀ replies ∈ rounds, replies.Known) :
    Latches rounds
      (after modbusRound (.start (appModbusStart (appModbusInit true))) rounds) := by
  induction rounds using List.reverseRecOn with
  | nil => exact start_latches
  | append_singleton rounds replies ih =>
    rw [after_append]
    have hlatch := ih fun r hr => hknown r (List.mem_append_left _ hr)
    exact (modbusRound_spec hlatch (hknown replies (by simp))).1

/-- **The meter poll latches the last good value of every quantity.** In every round each
quantity is asked for until its first answer and at most ten times, none is left out, and the
one event of the round carries in each field the last answer of its own quantity. -/
theorem modbus_latches (rounds : List MeterReplies) (hknown : ∀ replies ∈ rounds, replies.Known)
    (js : List MeterReplies) (replies : MeterReplies) (hpre : js ++ [replies] <+: rounds) :
    let task := after modbusRound (.start (appModbusStart (appModbusInit true))) js
    (modbusRound replies task).requests = replies.requests ∧
      modbusEvent replies task = some (.modbusData (some (latched (js ++ [replies])))) := by
  intro task
  have hmem : ∀ r ∈ js ++ [replies], r.Known := fun r hr => hknown r (hpre.subset hr)
  have hlatch : Latches js task :=
    rounds_latch js fun r hr => hmem r (List.mem_append_left _ hr)
  obtain ⟨hround, hrequests⟩ := modbusRound_spec hlatch (hmem replies (by simp))
  refine ⟨hrequests, ?_⟩
  unfold modbusEvent
  dsimp only
  rw [hround.running, hround.callback, hround.phaseData]
  rfl

/-- The first voltage answers at the third attempt; everything else times out. -/
def flakyRound : MeterReplies := fun cid i =>
  if cid = 0 ∧ i = 2 then ⟨.ok, 230⟩ else ⟨.other 0x107, 0⟩

/-- A round of that kind after one in which nothing answered. -/
theorem modbus_latches_flaky :
    let silent : MeterReplies := fun _ _ => ⟨.other 0x107, 0⟩
    let task := after modbusRound (.start (appModbusStart (appModbusInit true))) [silent]
    (modbusRound flakyRound task).requests = flakyRound.requests ∧
      modbusEvent flakyRound task =
        some (.modbusData (some (latched ([silent] ++ [flakyRound])))) := by
  intro silent task
  refine modbus_latches [silent, flakyRound] ?_ [silent] flakyRound (List.prefix_refl _)
  intro replies hmem cid i
  rcases List.mem_pair.mp hmem with rfl | rfl
  · decide
  · unfold flakyRound
    split <;> decide

/-- It asks three times for the first voltage and ten times for the current of phase 1. -/
example : flakyRound.requests.count 0 = 3 ∧ flakyRound.requests.count 3 = 10 ∧
    (latched [flakyRound]).u1 = 230 := by decide +kernel

end Lighting
