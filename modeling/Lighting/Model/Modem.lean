import Lighting.Lib.ByteMemory
import Lighting.Lib.CString
import Lighting.Lib.Strtok
import Lighting.Model.Gps

/-!
# `esp_modem.c`, `esp_modem_dce_service.c`, `bg96.c`, `sim7600.c` — commands and their answers

The task that sends a command and the UART task that handles the lines of the answer. They share
the modem object (`modem_dce_t`) and the semaphore `process_sem`, and nothing keeps a step of the
one apart from a step of the other.

The four strings of the object lie one behind the other; addresses count from the first of them.
What a handler writes behind the last is not modelled: the model ends there with `none`. The
return value of a handler decides only whether an event is posted that prints the line, so it is
left out, and so are the lengths of the timeouts: a wait may end at any moment.
-/

set_option autoImplicit false

namespace Lighting

open CString ByteMemory

/-- `modem_state_t`. -/
inductive ModemState where
  | processing
  | success
  | fail
  deriving DecidableEq, Repr

/-- The handlers of an answer, as `handle_line` points at them. -/
inductive LineHandler where
  | handleResponseDefault
  | bg96HandleCsq
  | bg96HandleExitDataMode
  | bg96HandleAtdPpp
  | bg96HandleCgmm
  | bg96HandleCgsn
  | bg96HandleCimi
  | bg96HandleCops
  | sim7600HandleCbc
  deriving DecidableEq, Repr

/-- The variables of `_ppp_task` that a handler writes through `priv_resource`. -/
structure Readings where
  rssi : Int
  ber : Int
  bcs : Int
  bcl : Int
  voltage : Int
  deriving DecidableEq, Repr

/-- `modem_dce_t`. -/
structure Dce where
  memory : Mem
  readings : Readings
  state : ModemState
  handleLine : Option LineHandler

/-! ## The strings of the object -/

/-- A string of the object: where it begins, and its size. -/
structure CharField where
  start : Nat
  size : Nat
  deriving DecidableEq, Repr

def CharField.imei : CharField := ⟨0, 15 + 1⟩
def CharField.imsi : CharField := ⟨16, 15 + 1⟩
def CharField.name : CharField := ⟨32, 32⟩
def CharField.oper : CharField := ⟨64, 32⟩

/-- The address of `act`, behind the last string. -/
def actAddress : Nat := 96

def crByte : UInt8 := 0x0d
def lfByte : UInt8 := 0x0a

/-- `str[i] = '\0'`, as long as this is in one of the strings. -/
def clearByte (memory : Mem) (i : Nat) : Option Mem :=
  if i < actAddress then some (copyIn memory i [0]) else none

/-- `strip_cr_lf_tail`. -/
def stripCrLfTail (memory : Mem) (str len : Nat) : Option Mem :=
  if memory.byte (str + len - 2) = crByte then clearByte memory (str + len - 2)
  else if memory.byte (str + len - 1) = crByte then clearByte memory (str + len - 1)
  else some memory

/-- `snprintf(str, size, "%s", line)`; it answers the length of the line. -/
def snprintfString (memory : Mem) (field : CharField) (line : Bytes) : Mem :=
  copyIn memory field.start (line.take (field.size - 1) ++ [0])

/-- The line becomes the string, without what ends a line. -/
def storeString (field : CharField) (line : Bytes) (memory : Mem) : Option Mem :=
  let memory := snprintfString memory field line
  if 2 < line.length then stripCrLfTail memory field.start line.length else some memory

/-! ## The handlers -/

def resultCodeSuccess : Bytes := ascii ['O', 'K']
def resultCodeError : Bytes := ascii ['E', 'R', 'R', 'O', 'R']
def resultCodeConnect : Bytes := ascii ['C', 'O', 'N', 'N', 'E', 'C', 'T']
def resultCodeNoCarrier : Bytes := ascii ['N', 'O', ' ', 'C', 'A', 'R', 'R', 'I', 'E', 'R']

/-- The tests most handlers begin with. -/
def resultCode (line : Bytes) : Option ModemState :=
  if strstr line resultCodeSuccess then some .success
  else if strstr line resultCodeError then some .fail
  else none

/-- What `sscanf` sees behind a `%*s`. -/
def skipWord (s : Bytes) : Bytes := (s.dropWhile isSpace).dropWhile (!isSpace ·)

def csqKey : Bytes := ascii ['+', 'C', 'S', 'Q']

/-- `sscanf(line, "%*s%d,%d", csq[0], csq[1])`. -/
def storeCsq (line : Bytes) (r : Readings) : Readings :=
  if memcmpEq line csqKey then
    let values := sscanf (skipWord line) [.int, .lit commaByte, .int]
    { r with rssi := assigned values 0 r.rssi, ber := assigned values 1 r.ber }
  else r

def cbcKey : Bytes := ascii ['+', 'C', 'B', 'C']

/-- `"+CBC: %d.%dV"`; the blank matches any white space. -/
def cbcFormat (line : Bytes) : List Int :=
  if memcmpEq line (ascii ['+', 'C', 'B', 'C', ':']) then
    sscanf ((line.drop 5).dropWhile isSpace) [.int, .lit 0x2e, .int, .lit 0x56]
  else []

/-- `sim7600_handle_cbc`, its last branch. -/
def storeCbc (line : Bytes) (r : Readings) : Readings :=
  if memcmpEq line cbcKey then
    let values := cbcFormat line
    { r with
      bcs := -1
      bcl := -1
      voltage := wrap32 (assigned values 0 0 * 1000 + assigned values 1 0) }
  else r

def copsKey : Bytes := ascii ['+', 'C', 'O', 'P', 'S']

/-- The loop that fills `p`, of which `room` entries are left; the null pointer at the end takes
one, too. `none`: it writes behind the array. -/
def splitFields : Nat → Option Bytes → Option (List Bytes)
  | 0, _ => none
  | room + 1, saved =>
    match Strtok.strtok commaByte saved with
    | (none, _) => some []
    | (some field, saved) => (splitFields room saved).map (field :: ·)

def hexDigit (b : UInt8) : Option Nat :=
  if isDigit b then some (b.toNat - 0x30)
  else if 0x61 ≤ b && b ≤ 0x66 then some (b.toNat - 0x61 + 10)
  else if 0x41 ≤ b && b ≤ 0x46 then some (b.toNat - 0x41 + 10)
  else none

/-- The value of the digits of a base at the head of a string. -/
def digitsOf (base : Nat) (s : Bytes) : Nat :=
  ((s.map hexDigit).takeWhile fun d => d.any (· < base)).foldl
    (fun n d => base * n + d.getD 0) 0

/-- `strtol(s, NULL, 0)`. -/
def strtolAuto (s : Bytes) : Int :=
  let (negative, body) := scanSign (s.dropWhile isSpace)
  let v : Int :=
    match body with
    | 0x30 :: 0x78 :: d :: rest =>
      if (hexDigit d).isSome then digitsOf 16 (d :: rest) else 0
    | 0x30 :: 0x58 :: d :: rest =>
      if (hexDigit d).isSome then digitsOf 16 (d :: rest) else 0
    | 0x30 :: rest => digitsOf 8 rest
    | _ => digitsOf 10 body
  saturate (if negative then -v else v)

/-- `bg96_handle_cops`, its last branch. -/
def storeCops (line : Bytes) (memory : Mem) : Option Mem :=
  if memcmpEq line copsKey then
    match splitFields 5 (some line) with
    | none => none
    | some p =>
      let memory := if 3 ≤ p.length then storeString .oper (p.getD 2 []) memory else some memory
      if 4 ≤ p.length then
        memory.map fun memory =>
          copyIn memory actAddress [UInt8.ofNat (strtolAuto (p.getD 3 []) % 2 ^ 8).toNat]
      else memory
  else some memory

/-- The branches that end in `esp_modem_process_command_done`, with the state it is given. -/
def LineHandler.verdict : LineHandler → Bytes → Option ModemState
  | .bg96HandleExitDataMode, line =>
    if strstr line resultCodeSuccess then some .success
    else if strstr line resultCodeNoCarrier then some .success
    else if strstr line resultCodeError then some .fail
    else none
  | .bg96HandleAtdPpp, line =>
    if strstr line resultCodeConnect then some .success
    else if strstr line resultCodeError then some .fail
    else none
  | _, line => resultCode line

/-- The other branches. -/
def LineHandler.store (h : LineHandler) (line : Bytes) (dce : Dce) : Option Dce :=
  match h with
  | .bg96HandleCsq => some { dce with readings := storeCsq line dce.readings }
  | .sim7600HandleCbc => some { dce with readings := storeCbc line dce.readings }
  | .bg96HandleCgmm =>
    (storeString .name line dce.memory).map fun memory => { dce with memory := memory }
  | .bg96HandleCgsn =>
    (storeString .imei line dce.memory).map fun memory => { dce with memory := memory }
  | .bg96HandleCimi =>
    (storeString .imsi line dce.memory).map fun memory => { dce with memory := memory }
  | .bg96HandleCops =>
    (storeCops line dce.memory).map fun memory => { dce with memory := memory }
  | _ => some dce

/-- A handler as a whole, up to what `esp_modem_process_command_done` gives. -/
def LineHandler.handle (h : LineHandler) (line : Bytes) (dce : Dce) : Option Dce :=
  match h.verdict line with
  | some state => some { dce with state := state }
  | none => h.store line dce

/-! ## The commands -/

/-- What a command function sets `handle_line` to and gives to `send_cmd`. -/
structure ModemCommand where
  handler : LineHandler
  text : Bytes
  deriving DecidableEq, Repr

def dceSync : ModemCommand := ⟨.handleResponseDefault, ascii ['A', 'T', '\r']⟩
def dceEchoOff : ModemCommand := ⟨.handleResponseDefault, ascii ['A', 'T', 'E', '0', '\r']⟩
def dceStoreProfile : ModemCommand := ⟨.handleResponseDefault, ascii ['A', 'T', '&', 'W', '\r']⟩
def getModuleName : ModemCommand :=
  ⟨.bg96HandleCgmm, ascii ['A', 'T', '+', 'C', 'G', 'M', 'M', '\r']⟩
def getImeiNumber : ModemCommand :=
  ⟨.bg96HandleCgsn, ascii ['A', 'T', '+', 'C', 'G', 'S', 'N', '\r']⟩
def getImsiNumber : ModemCommand :=
  ⟨.bg96HandleCimi, ascii ['A', 'T', '+', 'C', 'I', 'M', 'I', '\r']⟩
def getOperatorName : ModemCommand :=
  ⟨.bg96HandleCops, ascii ['A', 'T', '+', 'C', 'O', 'P', 'S', '?', '\r']⟩
def getSignalQuality : ModemCommand :=
  ⟨.bg96HandleCsq, ascii ['A', 'T', '+', 'C', 'S', 'Q', '\r']⟩
def getBatteryStatus : ModemCommand :=
  ⟨.sim7600HandleCbc, ascii ['A', 'T', '+', 'C', 'B', 'C', '\r']⟩

/-- `set_flow_ctrl(dce, MODEM_FLOW_CONTROL_NONE)`, on a DTE without flow control. -/
def setFlowCtrl : ModemCommand :=
  ⟨.handleResponseDefault,
    ascii ['A', 'T', '+', 'I', 'F', 'C', '=', '0', ',', '0', '\r']⟩

/-- `define_pdp_context(dce, 1, "IP", CONFIG_EXAMPLE_COMPONENT_MODEM_APN)`. -/
def definePdpContext : ModemCommand :=
  ⟨.handleResponseDefault,
    ascii ['A', 'T', '+', 'C', 'G', 'D', 'C', 'O', 'N', 'T', '=', '1', ',', '"', 'I', 'P', '"', ',',
      '"', 'C', 'M', 'N', 'E', 'T', '"', '\r']⟩

def dialPpp : ModemCommand :=
  ⟨.bg96HandleAtdPpp,
    ascii ['A', 'T', 'D', '*', '9', '9', '*', '*', '*', '1', '#', '\r']⟩

def resumeData : ModemCommand := ⟨.bg96HandleAtdPpp, ascii ['A', 'T', 'O', '\r']⟩

/-- What a command ended in: no answer in time, or the state its answer left. -/
abbrev CommandResult := Option ModemState

/-- The command that comes next, by what the ones before ended in; `none` where the program
gives up or is through. -/
abbrev ModemProgram := List CommandResult → Option ModemCommand

/-- From `sim7600_init` to the answer of `esp_netif_attach`: each command after the success of
the one before, and the one that dials is tried a second time as `ATO` if the modem refuses. -/
def pppCommands : ModemProgram := fun results =>
  let commands := [dceSync, dceEchoOff, getModuleName, getImeiNumber, getImsiNumber,
    getOperatorName, setFlowCtrl, dceStoreProfile, getSignalQuality, getBatteryStatus,
    definePdpContext, dialPpp]
  if results.all (· = some .success) then commands[results.length]?
  else if results.length = commands.length ∧ (results.take 11).all (· = some .success) ∧
      results.getLast? ≠ some none then some resumeData
  else none

/-! ## The two tasks -/

/-- Where a task is in `esp_modem_dte_send_cmd` and the command function around it. -/
inductive ModemCaller where
  | idle
  /-- `handle_line` is set. -/
  | installed (command : ModemCommand)
  /-- The state is `MODEM_STATE_PROCESSING`. -/
  | reset (command : ModemCommand)
  /-- The command is written; at `xSemaphoreTake`. -/
  | sent (command : ModemCommand)
  /-- The wait is over; `taken`: with the semaphore. -/
  | ended (command : ModemCommand) (taken : Bool)
  /-- `handle_line` is null again; before the test of the state. -/
  | cleared (command : ModemCommand) (taken : Bool)
  deriving DecidableEq, Repr

/-- Where the UART task is in `esp_dte_handle_line`. -/
inductive ModemReader where
  | idle
  /-- `handle_line` was not null; it is read again for the call. -/
  | tested (line : Bytes)
  | calling (handler : LineHandler) (line : Bytes)
  /-- The state is written; before `xSemaphoreGive`. -/
  | done
  /-- A call of the null pointer, or a write behind the strings. -/
  | crashed
  deriving DecidableEq, Repr

structure Modem where
  dce : Dce
  processSem : Bool
  caller : ModemCaller
  reader : ModemReader
  /-- What was read from the UART up to a line's end and is not handled. -/
  lines : List Bytes
  results : List CommandResult

inductive ModemTurn where
  | caller (timesOut : Bool)
  | reader
  /-- A line the modem sends of itself. -/
  | receive (line : Bytes)
  deriving DecidableEq, Repr

def Modem.start (dce : Dce) : Modem where
  dce := dce
  processSem := false
  caller := .idle
  reader := .idle
  lines := []
  results := []

/-- `len > 2 && !is_only_cr_lf(line, len)` fails. -/
def skippedLine (line : Bytes) : Bool :=
  line.length ≤ 2 || line.all fun b => b == crByte || b == lfByte

section tasks

variable (program : ModemProgram) (answer : Nat → ModemCommand → List Bytes)

/-- The task that sends commands; `answer n command` is what the modem sends back. -/
def Modem.stepCaller (timesOut : Bool) (s : Modem) : Modem :=
  match s.caller with
  | .idle =>
    match program s.results with
    | none => s
    | some command =>
      { s with
        dce := { s.dce with handleLine := some command.handler }
        caller := .installed command }
  | .installed command =>
    { s with dce := { s.dce with state := .processing }, caller := .reset command }
  | .reset command =>
    { s with lines := s.lines ++ answer s.results.length command, caller := .sent command }
  | .sent command =>
    if timesOut then { s with caller := .ended command false }
    else if s.processSem then { s with processSem := false, caller := .ended command true }
    else s
  | .ended command taken =>
    { s with dce := { s.dce with handleLine := none }, caller := .cleared command taken }
  | .cleared _ taken =>
    { s with
      results := s.results ++ [if taken then some s.dce.state else none]
      caller := .idle }

/-- The UART task. -/
def Modem.stepReader (s : Modem) : Modem :=
  match s.reader with
  | .idle =>
    match s.lines with
    | [] => s
    | raw :: lines =>
      if skippedLine (cstr raw) then { s with lines := lines }
      else
        match s.dce.handleLine with
        | none => { s with lines := lines }
        | some _ => { s with lines := lines, reader := .tested (cstr raw) }
  | .tested line =>
    match s.dce.handleLine with
    | none => { s with reader := .crashed }
    | some handler => { s with reader := .calling handler line }
  | .calling handler line =>
    match handler.verdict line with
    | some state => { s with dce := { s.dce with state := state }, reader := .done }
    | none =>
      match handler.store line s.dce with
      | some dce => { s with dce := dce, reader := .idle }
      | none => { s with reader := .crashed }
  | .done => { s with processSem := true, reader := .idle }
  | .crashed => s

def Modem.step : ModemTurn → Modem → Modem
  | .caller timesOut, s => s.stepCaller program answer timesOut
  | .reader, s => s.stepReader
  | .receive line, s => { s with lines := s.lines ++ [line] }

end tasks

end Lighting
