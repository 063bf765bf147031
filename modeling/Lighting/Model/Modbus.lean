import Lighting.Model.Common

/-!
# `app_modbus.c` — the meter poll

The descriptor table, the handle, and one round of `_modbus_task`. The Modbus master is
ESP-IDF's. `mbc_master_get_cid_info` is a lookup in the table it was given; what
`mbc_master_get_parameter` answers is input, one `MbReply` for every attempt.

`err`, `value` and `phase_data` outlive the attempt, the quantity and the round; the record
below keeps them in one place for that reason. The float is also stored where
`master_get_param_data` points, from where it is only logged, so of that function only the
place it answers is kept.
-/

set_option autoImplicit false

namespace Lighting

/-- `ESP_ERR_NOT_FOUND`. -/
def espErrNotFound : EspErr := .other 0x105

/-- `mb_param_type_t`. -/
inductive MbParamType where
  | holding
  | input
  | coil
  | discrete
  | count
  | unknown
  deriving DecidableEq, Repr

/-- `mb_parameter_descriptor_t`, as far as the firmware reads it. -/
structure MbParameterDescriptor where
  cid : Nat
  paramKey : String
  paramUnits : String
  mbParamType : MbParamType
  paramOffset : Nat
  deriving DecidableEq, Repr

/-- `INPUT_OFFSET(input_data0)`. -/
def inputOffsetData0 : Nat := 0 + 1

def deviceParameters : List MbParameterDescriptor :=
  [⟨0, "V1", "Volts", .input, inputOffsetData0⟩,
    ⟨1, "V2", "Volts", .input, inputOffsetData0⟩,
    ⟨2, "V3", "Volts", .input, inputOffsetData0⟩,
    ⟨3, "I1", "Ampe", .input, inputOffsetData0⟩,
    ⟨4, "I2", "Ampe", .input, inputOffsetData0⟩,
    ⟨5, "I3", "Ampe", .input, inputOffsetData0⟩,
    ⟨6, "P1", "KWatt", .input, inputOffsetData0⟩,
    ⟨7, "P2", "KWatt", .input, inputOffsetData0⟩,
    ⟨8, "P3", "KWatt", .input, inputOffsetData0⟩,
    ⟨9, "PF1", "cosW", .input, inputOffsetData0⟩,
    ⟨10, "PF2", "cosW", .input, inputOffsetData0⟩,
    ⟨11, "PF3", "cosW", .input, inputOffsetData0⟩,
    ⟨12, "Power", "KWh", .input, inputOffsetData0⟩]

def numDeviceParameters : Nat := deviceParameters.length

/-- `mbc_master_get_cid_info` over the table of `mbc_master_set_descriptor`. -/
def mbcMasterGetCidInfo (cid : Nat) : Option MbParameterDescriptor := deviceParameters[cid]?

/-- `master_get_param_data`: the area and the offset of the place the value goes to. -/
def masterGetParamData (paramDescriptor : MbParameterDescriptor) : Option (MbParamType × Nat) :=
  if paramDescriptor.paramOffset ≠ 0 then
    match paramDescriptor.mbParamType with
    | .holding => some (.holding, paramDescriptor.paramOffset - 1)
    | .input => some (.input, paramDescriptor.paramOffset - 1)
    | .coil => some (.coil, paramDescriptor.paramOffset - 1)
    | .discrete => some (.discrete, paramDescriptor.paramOffset - 1)
    | .count | .unknown => none
  else none

/-- What `mbc_master_get_parameter` answers, and what `value` holds after it. -/
structure MbReply where
  err : EspErr
  value : CFloat
  deriving DecidableEq, Repr

/-- `app_modbus_t`, without the wiring. -/
structure Modbus where
  running : Bool
  callback : Bool
  phaseData : PhasesData
  deriving DecidableEq, Repr

def appModbusInit (callback : Bool) : Modbus := ⟨false, callback, .zero⟩

def appModbusStart (handle : Modbus) : Modbus := { handle with running := true }

def setPhasesData (cid : Nat) (data : CFloat) (phaseData : PhasesData) : PhasesData :=
  match cid with
  | 0 => { phaseData with u1 := data }
  | 1 => { phaseData with u2 := data }
  | 2 => { phaseData with u3 := data }
  | 3 => { phaseData with i1 := data }
  | 4 => { phaseData with i2 := data }
  | 5 => { phaseData with i3 := data }
  | 6 => { phaseData with p1 := data }
  | 7 => { phaseData with p2 := data }
  | 8 => { phaseData with p3 := data }
  | 9 => { phaseData with phy1 := data }
  | 10 => { phaseData with phy2 := data }
  | 11 => { phaseData with phy3 := data }
  -- Here the source falls through into the empty `default`.
  | 12 => { phaseData with power := data }
  | _ => phaseData

/-- `_modbus_task`: the handle, the local variables that outlive a round, and the calls of
`mbc_master_get_parameter` of the current round, by their `cid`. -/
structure ModbusTask where
  handle : Modbus
  err : EspErr
  value : CFloat
  requests : List Nat
  deriving DecidableEq, Repr

/-- `_modbus_task` before its first round. -/
def ModbusTask.start (handle : Modbus) : ModbusTask := ⟨handle, .ok, 0, []⟩

/-- The body of the retry loop; the first component is `pass`. -/
def modbusAttempt (cid : Nat) (reply : MbReply) (task : ModbusTask) : Bool × ModbusTask :=
  match mbcMasterGetCidInfo cid with
  | none => (false, { task with err := espErrNotFound })
  | some paramDescriptor =>
    match masterGetParamData paramDescriptor with
    | none => (false, { task with err := .ok })
    | some _ =>
      let task := { task with
        err := reply.err, value := reply.value, requests := task.requests ++ [cid] }
      if reply.err ≠ .ok then (false, task)
      else if paramDescriptor.mbParamType = .holding ∨ paramDescriptor.mbParamType = .input then
        (true, { task with handle := { task.handle with
          phaseData := setPhasesData paramDescriptor.cid task.value task.handle.phaseData } })
      else (false, task)

/-- `for (int i = 0; i < 10; i++) { if (pass) break; … }`, with the attempts that are left. -/
def modbusAttempts (cid : Nat) (replies : Nat → MbReply) : Nat → Nat → ModbusTask → ModbusTask
  | 0, _, task => task
  | left + 1, i, task =>
    match modbusAttempt cid (replies i) task with
    | (true, task) => task
    | (false, task) => modbusAttempts cid replies left (i + 1) task

/-- The loop over the quantities, with those that are left. -/
def modbusCids (replies : Nat → Nat → MbReply) : Nat → Nat → ModbusTask → ModbusTask
  | 0, _, task => task
  | left + 1, cid, task =>
    if task.err = espErrNotFound then task
    else modbusCids replies left (cid + 1) (modbusAttempts cid (replies cid) 10 0 task)

/-- One round of `_modbus_task`; `replies cid i` is what the attempt `i` at a quantity meets. -/
def modbusRound (replies : Nat → Nat → MbReply) (task : ModbusTask) : ModbusTask :=
  if task.handle.running then
    modbusCids replies numDeviceParameters 0 { task with requests := [] }
  else task

/-- The `_callback` at the end of a round. -/
def modbusEvent (replies : Nat → Nat → MbReply) (task : ModbusTask) : Option Event :=
  let task := modbusRound replies task
  if task.handle.running && task.handle.callback then
    some (.modbusData (some task.handle.phaseData))
  else none

end Lighting
