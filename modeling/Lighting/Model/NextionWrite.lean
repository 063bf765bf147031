import Mathlib.Logic.Function.Basic
import Lighting.Lib.Scratch
import Lighting.Model.Nextion
import Lighting.Model.Pack
import Lighting.Model.Schedule

/-!
# `app_nextion.c` — what is sent to the display

`_send_command` writes the text of a command to the UART, and then three times 0xff, with four
calls of `uart_write_bytes`. The setters format in `handle->tx_buffer`, whichever task calls them,
and `_nextion_write_task` in a buffer of its own. No lock is held from the `sprintf` to the last
of the writes, or for any part of that. A text is taken to fit its buffer.

The write task goes by the page that is shown. With every step it finds the handle as the other
tasks have left it, so the handle is input. `printf` of a `float` is a parameter.
-/

set_option autoImplicit false

namespace Lighting

open CString

/-! ## The commands -/

/-- The formats of the commands. -/
inductive NextionCommand where
  | sleep
  | page (pageNum : Int)
  /-- `"%s.txt=\"%s\""`. -/
  | txt (component value : String)
  /-- `"%s.val=%d"`. -/
  | val (component : String) (value : Int)
  deriving DecidableEq, Repr

/-- What `sprintf` writes, without the NUL. -/
def NextionCommand.format : NextionCommand → Bytes
  | .sleep => stringBytes "sleep=0"
  | .page pageNum => stringBytes "page page" ++ stringBytes (toString pageNum)
  | .txt component value =>
    stringBytes component ++ stringBytes ".txt=\"" ++ stringBytes value ++ stringBytes "\""
  | .val component value =>
    stringBytes component ++ stringBytes ".val=" ++ stringBytes (toString value)

/-! ## Sending -/

/-- `handle->tx_buffer`, or the `send_buffer` of the write task. -/
inductive SendBuffer where
  | txBuffer
  | sendBuffer
  deriving DecidableEq, Repr

/-- Where a task is in sending. -/
inductive SendPoint where
  | idle
  | formatted (buffer : SendBuffer) (command : NextionCommand)
  /-- The text is written, and some of the three ends: one is next, and so many follow. -/
  | ending (more : Nat)
  deriving DecidableEq, Repr

structure NextionLine (ι : Type*) where
  txBuffer : Bytes
  points : ι → SendPoint

/-- Nobody is sending. What `malloc` left in the buffer is any bytes. -/
def NextionLine.start {ι : Type*} (txBuffer : Bytes) : NextionLine ι where
  txBuffer := txBuffer
  points := fun _ => .idle

inductive LineStep (ι : Type*) where
  | sprintf (task : ι) (buffer : SendBuffer) (command : NextionCommand)
  | uartWriteBytes (task : ι)
  deriving DecidableEq, Repr

namespace NextionLine

variable {ι : Type*} [DecidableEq ι]

def sprintf (task : ι) (buffer : SendBuffer) (command : NextionCommand) (s : NextionLine ι) :
    NextionLine ι where
  txBuffer :=
    match buffer with
    | .txBuffer => Scratch.overlay (command.format ++ [0]) s.txBuffer
    | .sendBuffer => s.txBuffer
  points := Function.update s.points task (.formatted buffer command)

/-- A task formats only when it is not sending, and writes only when it is. -/
def step : LineStep ι → NextionLine ι → NextionLine ι
  | .sprintf task buffer command, s =>
    match s.points task with
    | .idle => s.sprintf task buffer command
    | _ => s
  | .uartWriteBytes task, s =>
    match s.points task with
    | .idle => s
    | .formatted _ _ => { s with points := Function.update s.points task (.ending 2) }
    | .ending 0 => { s with points := Function.update s.points task .idle }
    | .ending (more + 1) => { s with points := Function.update s.points task (.ending more) }

/-- The bytes that `_send_command` hands to the UART: as many as `sprintf` has counted, of what is
in the buffer by then. -/
def writes : LineStep ι → NextionLine ι → Option Bytes
  | .sprintf _ _ _, _ => none
  | .uartWriteBytes task, s =>
    match s.points task with
    | .idle => none
    | .formatted .txBuffer command => some (s.txBuffer.take command.format.length)
    | .formatted .sendBuffer command => some command.format
    | .ending _ => some [0xff]

end NextionLine

/-! ## The write task -/

def pageTimeIndex : Int := 4
def pageScheduleIndex : Int := 5
def pageConnectIndex : Int := 6

/-- `"%02d"` with the fill `0`, `"%4d"` with a blank. -/
def printInt (fill : Char) (width : Nat) (value : Int) : String :=
  let digits := toString value.natAbs
  let sign := if value < 0 then "-" else ""
  let filling := String.ofList (List.replicate (width - (sign ++ digits).length) fill)
  if fill = '0' then sign ++ filling ++ digits else filling ++ sign ++ digits

/-- `data < 0`: not of a zero, and not of a NaN. -/
def isNegative (data : CFloat) : Bool :=
  data.toNat / 2 ^ 31 = 1 && 0 < data.toNat % 2 ^ 31 && data.toNat % 2 ^ 31 ≤ 255 * 2 ^ 23

/-- `f_abs`. -/
def fAbs (data : CFloat) : CFloat := if isNegative data then data ^^^ 0x80000000 else data

def timeC (timeinfo : Tm) : String :=
  printInt '0' 2 timeinfo.tmHour ++ ":" ++ printInt '0' 2 timeinfo.tmMin ++ ":" ++
    printInt '0' 2 timeinfo.tmSec

def dateC (timeinfo : Tm) : String :=
  printInt '0' 2 timeinfo.tmMday ++ "/" ++ printInt '0' 2 (timeinfo.tmMon + 1) ++ "/" ++
    printInt ' ' 4 (timeinfo.tmYear + 1900)

/-- A call of `_send_command`, by what it is formatted from. -/
abbrev Shown : Type := Tm → Nextion → NextionCommand

/-- The line of a phase. `"%06.2f"` is six characters wide, with two digits behind the point. -/
def phaseShown (printFixed : Nat → Nat → CFloat → String) (component number : String)
    (p u i phy : PhasesData → CFloat) : Shown := fun _ handle =>
  .txt component ("Pha " ++ number ++ ": " ++
    printFixed 6 2 (p handle.phasesData) ++ "KW " ++ printFixed 5 2 (u handle.phasesData) ++ "V " ++
      printFixed 5 1 (i handle.phasesData) ++ "A " ++ printFixed 4 2 (fAbs (phy handle.phasesData)))

def lockShown : List Shown :=
  [fun timeinfo _ => .txt "rtcTime" (timeC timeinfo),
    fun timeinfo _ => .txt "t4" (dateC timeinfo)]

def homeShown (printFixed : Nat → Nat → CFloat → String) : List Shown :=
  [fun _ handle => .txt "t1" handle.modeTxt,
    fun timeinfo _ => .txt "rtcTime" (timeC timeinfo),
    fun timeinfo _ => .txt "t4" (dateC timeinfo),
    fun _ handle => .txt "t2" (if handle.isConnected then "Đang kết nối" else "Mất kết nối"),
    fun _ handle => .txt "t3" ("Hoạt Động: " ++
      printInt '0' 2 handle.activeTime.startHour ++ ":" ++
        printInt '0' 2 handle.activeTime.startMinute ++ " - " ++
          printInt '0' 2 handle.activeTime.endHour ++ ":" ++
            printInt '0' 2 handle.activeTime.endMinute),
    phaseShown printFixed "t6" "1" PhasesData.p1 PhasesData.u1 PhasesData.i1 PhasesData.phy1,
    phaseShown printFixed "t7" "2" PhasesData.p2 PhasesData.u2 PhasesData.i2 PhasesData.phy2,
    phaseShown printFixed "t8" "3" PhasesData.p3 PhasesData.u3 PhasesData.i3 PhasesData.phy3]

def connectShown (hardwareId firmwareVersion : String) : List Shown :=
  [fun _ _ => .txt "t2" hardwareId,
    fun _ _ => .txt "t4" firmwareVersion,
    fun _ _ => .txt "t6" "112233445"]

def scheduleShown : List Shown :=
  [fun _ handle => .val "n0" handle.activeTime.startHour,
    fun _ handle => .val "n1" handle.activeTime.startMinute,
    fun _ handle => .val "n2" handle.activeTime.endHour,
    fun _ handle => .val "n3" handle.activeTime.endMinute]

def timeShown : List Shown :=
  [fun timeinfo _ => .val "n0" timeinfo.tmHour,
    fun timeinfo _ => .val "n1" timeinfo.tmMin,
    fun timeinfo _ => .val "n2" timeinfo.tmMday,
    fun timeinfo _ => .val "n3" (timeinfo.tmMon + 1),
    fun timeinfo _ => .val "n4" (timeinfo.tmYear + 1900)]

/-- What the texts are made with, besides the clock and the handle as it is kept here. -/
structure NextionTexts where
  printFixed : Nat → Nat → CFloat → String
  hardwareId : String
  firmwareVersion : String

/-- The loop of `_nextion_write_task`, between two of its calls. -/
structure NextionWriteTask where
  pageTimeFlag : Bool
  pageScheduleFlag : Bool
  timeinfo : Tm
  /-- What is still to be sent in this iteration. -/
  todo : List Shown

namespace NextionWriteTask

/-- As the task enters the loop. -/
def start (timeinfo : Tm) : NextionWriteTask := ⟨false, false, timeinfo, []⟩

/-- A new iteration. The flags, which are local, are set before the commands are sent here. The flag
of the schedule page is `page_time_flag`, and the other way round. -/
def refresh (texts : NextionTexts) (timeinfo : Tm) (currentPage : Int) (t : NextionWriteTask) :
    NextionWriteTask :=
  if currentPage = pageLockIndex then ⟨false, false, timeinfo, lockShown⟩
  else if currentPage = pageHomeIndex then ⟨false, false, timeinfo, homeShown texts.printFixed⟩
  else if currentPage = pageConnectIndex then
    ⟨false, false, timeinfo, connectShown texts.hardwareId texts.firmwareVersion⟩
  else if currentPage = pageScheduleIndex then
    ⟨true, false, timeinfo, if t.pageTimeFlag then [] else scheduleShown⟩
  else if currentPage = pageTimeIndex then
    ⟨false, true, timeinfo, if t.pageScheduleFlag then [] else timeShown⟩
  else ⟨false, false, timeinfo, []⟩

/-- The next call of `_send_command`, or the next iteration. The clock is read there. -/
def step (texts : NextionTexts) (now : Tm × Nextion) (t : NextionWriteTask) : NextionWriteTask :=
  match t.todo with
  | [] => t.refresh texts now.1 now.2.currentPage
  | _ :: rest => { t with todo := rest }

/-- What `_send_command` is called with. -/
def sends (now : Tm × Nextion) (t : NextionWriteTask) : Option NextionCommand :=
  match t.todo with
  | [] => none
  | shown :: _ => some (shown t.timeinfo now.2)

end NextionWriteTask

end Lighting
