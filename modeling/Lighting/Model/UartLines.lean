import Lighting.Lib.CString
import Lighting.Model.Modem

/-!
# `uart.c`, `esp_modem.c` — from the bytes of the modem to its lines

The UART driver puts what it receives into a ring buffer of bytes, and keeps a queue of positions of
newlines, which count from what is read next. Its interrupt handler takes the bytes out of the
FIFO; if the hardware has seen the pattern it looks for the last newline among them, and if the FIFO
is empty it takes the last byte it has put into the buffer for the newline. What finds no room in
the ring buffer stays in `rx_data_buf` until something has been read. The UART task, in command
mode, reads up to the first position, or without a position whatever there is.

`_gps_task` reads the same port. While it has `rx_mux`, a flush and a read with `portMAX_DELAY` wait
for it; any other read may answer -1, which its caller takes for a length.

An interrupt is one step, and so is a turn of the loop of `uart_read_bytes` or `uart_flush_input`.
The events of the UART task may be late or lost: it handles one of any kind at any time. Bytes that
are lost in the FIFO, because it overflows or is reset, never get here.
-/

set_option autoImplicit false

namespace Lighting

open CString

/-- `CONFIG_EXAMPLE_MODEM_UART_PATTERN_QUEUE_SIZE`. -/
def patternQueueSize : Nat := 20

/-- `CONFIG_EXAMPLE_MODEM_UART_RX_BUFFER_SIZE`. -/
def rxBufferSize : Nat := 1024

/-- Half of it. -/
def lineBufferSize : Nat := 512

/-- `UART_FIFO_LEN`. -/
def uartFifoLen : Nat := 128

/-- What is in the FIFO. -/
structure RxFifo where
  bytes : Bytes
  fits : bytes.length ≤ uartFifoLen
  deriving DecidableEq

/-! ## The driver -/

/-- Of `uart_obj_t`, what is for receiving. -/
structure UartObj where
  /-- `rx_ring_buf`, from `pucRead` to `pucWrite`. -/
  ring : Bytes
  /-- Where `pucRead` is in the storage. -/
  place : Nat
  /-- The size of the item at `rx_head_ptr`; 0 if this is null. -/
  held : Nat
  /-- The `rx_cur_remain` bytes from `rx_ptr` on. -/
  rest : Bytes
  rxBufferedLen : Int
  /-- `rx_pattern_pos`, from `rd` to `wr`. -/
  positions : List Int
  /-- The first `rx_stash_len` bytes of `rx_data_buf`. -/
  stash : Bytes
  rxBufferFullFlg : Bool
  deriving DecidableEq, Repr

/-- One place of the queue stays empty. -/
def uartPatternEnqueue (pos : Int) (u : UartObj) : UartObj :=
  if u.positions.length + 1 < patternQueueSize then { u with positions := u.positions ++ [pos] }
  else u

/-- A position that falls below 0 is taken out, with those before it. -/
def uartPatternQueueUpdate (diffLen : Int) (positions : List Int) : List Int :=
  positions.foldl (fun kept pos => if pos - diffLen < 0 then [] else kept ++ [pos - diffLen]) []

/-- There is room in `rx_ring_buf`. An item that is not returned still takes its own. -/
def UartObj.Fits (bytes : Bytes) (u : UartObj) : Prop :=
  bytes = [] ∨ u.held + u.ring.length + bytes.length ≤ rxBufferSize

instance (bytes : Bytes) (u : UartObj) : Decidable (u.Fits bytes) :=
  inferInstanceAs (Decidable (_ ∨ _))

/-- `xRingbufferSend` on a byte buffer. -/
def xRingbufferSendByteBuf (bytes : Bytes) (u : UartObj) : Option UartObj :=
  if u.Fits bytes then some { u with ring := u.ring ++ bytes } else none

/-- `xRingbufferReceive` on a byte buffer: what there is, up to the end of the storage. -/
def xRingbufferReceiveByteBuf (u : UartObj) : Option (Bytes × UartObj) :=
  if u.ring = [] then none
  else
    let item := u.ring.take (rxBufferSize - u.place)
    some
      ( item,
        { u with
          ring := u.ring.drop (rxBufferSize - u.place)
          place := (u.place + item.length) % rxBufferSize
          held := item.length } )

def uartCheckBufFull (u : UartObj) : Bool × UartObj :=
  if u.rxBufferFullFlg then
    match xRingbufferSendByteBuf u.stash u with
    | some u =>
      (true,
        { u with rxBufferedLen := u.rxBufferedLen + u.stash.length, rxBufferFullFlg := false })
    | none => (false, u)
  else (false, u)

/-- Bytes are read or dropped. -/
def UartObj.shorten (n : Nat) (u : UartObj) : UartObj :=
  { u with
    rxBufferedLen := u.rxBufferedLen - n
    positions := uartPatternQueueUpdate n u.positions }

/-- `uart_find_pattern_from_last`, for a pattern of one character. -/
def uartFindPatternFromLast : Bytes → Option Nat
  | [] => none
  | b :: bytes =>
    match uartFindPatternFromLast bytes with
    | some k => some (k + 1)
    | none => if b = lfByte then some 0 else none

/-- `uart_rx_intr_handler_default`, with what is in the FIFO and whether the pattern was seen: by
this interrupt or, which `pat_flg` remembers, by one before it. -/
def uartRxIntr (fifo : RxFifo) (detected : Bool) (u : UartObj) : UartObj :=
  if u.rxBufferFullFlg then u
  else
    let patIdx := uartFindPatternFromLast fifo.bytes
    let u := { u with stash := fifo.bytes }
    match xRingbufferSendByteBuf fifo.bytes u with
    | none =>
      let u := { u with rxBufferFullFlg := true }
      if !detected then u
      else if fifo.bytes = [] then uartPatternEnqueue (u.rxBufferedLen - 1) u
      else
        match patIdx with
        | none => uartPatternEnqueue (u.rxBufferedLen + u.stash.length) u
        | some k => uartPatternEnqueue (u.rxBufferedLen + k) u
    | some u =>
      let marked :=
        if !detected then u
        else if fifo.bytes = [] then uartPatternEnqueue (u.rxBufferedLen - 1) u
        else
          match patIdx with
          | some k => uartPatternEnqueue (u.rxBufferedLen + k) u
          | none => u
      { marked with rxBufferedLen := marked.rxBufferedLen + u.stash.length }

/-- `uart_get_buffered_data_len`, as a `size_t`. -/
def uartGetBufferedDataLen (u : UartObj) : Nat := (u.rxBufferedLen % 2 ^ 32).toNat

/-- How a turn of the loop of `uart_read_bytes` ends. -/
inductive ReadTurn where
  | got (bytes : Bytes) (u : UartObj)
  /-- What was in `rx_data_buf` is in the ring buffer now. -/
  | again (u : UartObj)
  /-- There is nothing; the wait goes on or runs out of time. -/
  | nothing (u : UartObj)

/-- From the item at hand, which is returned when it is used up. -/
def uartCopy (length : Nat) (u : UartObj) : ReadTurn :=
  let bytes := u.rest.take length
  let u : UartObj := { u.shorten bytes.length with rest := u.rest.drop length }
  .got bytes (if u.rest = [] then (uartCheckBufFull { u with held := 0 }).2 else u)

/-- A turn of the loop of `uart_read_bytes`, for `length` bytes more. -/
def uartReadTurn (length : Nat) (u : UartObj) : ReadTurn :=
  if u.rest = [] then
    match xRingbufferReceiveByteBuf u with
    | some (item, u) => uartCopy length { u with rest := item }
    | none =>
      match uartCheckBufFull u with
      | (true, u) => .again u
      | (false, u) => .nothing u
  else uartCopy length u

/-- The item at hand is returned as it is. -/
def uartReturnHead (u : UartObj) : UartObj :=
  if u.held = 0 then u else { u.shorten u.rest.length with held := 0, rest := [] }

/-- A turn of the loop of `uart_flush_input`: what nobody gets, and whether it was the last. What is
in `rx_data_buf` when the ring buffer is empty is forgotten, but not its position. -/
def uartFlushTurn (u : UartObj) : Bytes × Bool × UartObj :=
  match xRingbufferReceiveByteBuf (uartReturnHead u) with
  | none =>
    (u.rest ++ if u.rxBufferFullFlg then u.stash else [], true,
      { uartReturnHead u with
        held := 0
        rest := []
        rxBufferedLen := 0
        rxBufferFullFlg := false })
  | some (item, v) =>
    (u.rest ++ item, false, (uartCheckBufFull { v.shorten item.length with held := 0 }).2)

/-! ## The task -/

/-- What is taken out of the driver. -/
inductive UartCut where
  | line (bytes : Bytes)
  /-- Nobody gets it. -/
  | dropped (bytes : Bytes)
  /-- `_gps_task` gets it. -/
  | gps (bytes : Bytes)
  deriving DecidableEq, Repr

def UartCut.bytes : UartCut → Bytes
  | .line bytes => bytes
  | .dropped bytes => bytes
  | .gps bytes => bytes

/-- The calls of `uart_read_bytes`: two in `esp_handle_uart_pattern`, one of them for the log, and
two in `esp_handle_uart_data`, one of them in its loop. -/
inductive LineRead where
  | pattern
  | log
  | data
  | more
  deriving DecidableEq, Repr

/-- Where the UART task is; `buffer` is what it has in its line buffer. -/
inductive UartPoint where
  | idle
  /-- In `uart_read_bytes`, for `length` bytes more. -/
  | reading (hasMux : Bool) (call : LineRead) (length : Nat) (buffer : Bytes)
  /-- In `uart_flush_input`. -/
  | flushing (hasMux : Bool)
  /-- At the head of the loop of `esp_handle_uart_data`. -/
  | looping (buffer : Bytes)
  /-- A length of -1 has led it in front of its line buffer. -/
  | lost
  deriving DecidableEq, Repr

/-- It has `rx_mux`. -/
def UartPoint.hasMux : UartPoint → Bool
  | .reading hasMux _ _ _ => hasMux
  | .flushing hasMux => hasMux
  | _ => false

structure UartLines where
  uart : UartObj
  point : UartPoint
  gpsHasMux : Bool
  deriving DecidableEq, Repr

def UartLines.start : UartLines := ⟨⟨[], 0, 0, [], 0, [], [], false⟩, .idle, false⟩

/-- One line with its newline, or as much as there is room for. -/
def readLen (pos : Int) : Nat :=
  ((if pos < lineBufferSize - 1 then pos + 1 else lineBufferSize - 1) % 2 ^ 32).toNat

/-- `esp_handle_uart_pattern` without a position. -/
def uartPatternNotFound (u : UartObj) : UartPoint :=
  let length := uartGetBufferedDataLen u
  if length = 0 then .flushing false
  else .reading false .log (min (lineBufferSize - 1) length) []

def espHandleUartPattern (u : UartObj) : UartObj × UartPoint :=
  match u.positions with
  | [] => (u, uartPatternNotFound u)
  | pos :: rest =>
    let u := { u with positions := rest }
    (u, if pos = -1 then uartPatternNotFound u else .reading false .pattern (readLen pos) [])

def espHandleUartData (u : UartObj) : UartObj × UartPoint :=
  let length := uartGetBufferedDataLen u
  if length = 0 then (u, .idle)
  else if u.positions.head?.any (-1 < ·) then espHandleUartPattern u
  else (u, .reading false .data (min (lineBufferSize - 1) length) [])

/-- Without a handler the bytes are read all the same. -/
def handOver (hasHandler : Bool) (bytes : Bytes) : UartCut :=
  if hasHandler then .line bytes else .dropped bytes

/-- What follows a read. -/
def readDone (call : LineRead) (hasHandler : Bool) (buffer : Bytes) : Option UartCut × UartPoint :=
  match call with
  | .pattern => (if buffer = [] then none else some (.line buffer), .idle)
  | .log => (some (.dropped buffer), .flushing false)
  | .data =>
    if lfByte ∈ cstr buffer then (some (handOver hasHandler buffer), .idle)
    else (none, .looping buffer)
  | .more => (none, .looping buffer)

/-- The reads with `portMAX_DELAY` never run out of time. -/
def LineRead.patient : LineRead → Bool
  | .log | .data => true
  | .pattern | .more => false

/-- What follows a read that answers -1. `esp_handle_uart_pattern` writes `buffer[-1]` and hands the
old line over; the loop of `esp_handle_uart_data` takes back a byte, and reads `buffer[-1]` if that
was the only one. -/
def readRefused (call : LineRead) (buffer : Bytes) : UartPoint :=
  match call with
  | .more => if buffer.length ≤ 1 then .lost else .looping buffer.dropLast
  | _ => .lost

inductive UartEvent where
  | data
  | patternDet
  /-- `UART_BUFFER_FULL` and `UART_FIFO_OVF`. -/
  | overflow
  deriving DecidableEq, Repr

/-- A call of `uart_read_bytes` of `_gps_task`: it gets `rx_mux`, reads, and gives it back. -/
inductive GpsRead where
  | takes
  | reads (length : Nat)
  | gives
  deriving DecidableEq, Repr

inductive UartStep where
  | isr (fifo : RxFifo) (detected : Bool)
  /-- The task takes an event. -/
  | event (e : UartEvent)
  /-- The task goes on. -/
  | task (hasHandler processing timesOut : Bool)
  | gps (t : GpsRead)
  deriving DecidableEq

/-- `uart_event_task_entry`: how it begins to handle an event. -/
def uartEventTaskEntry (e : UartEvent) (u : UartObj) : UartObj × UartPoint :=
  match e with
  | .data => espHandleUartData u
  | .patternDet => espHandleUartPattern u
  | .overflow => (u, .flushing false)

namespace UartLines

def handle (e : UartEvent) (s : UartLines) : UartLines :=
  match s.point with
  | .idle =>
    { s with
      uart := (uartEventTaskEntry e s.uart).1
      point := (uartEventTaskEntry e s.uart).2 }
  | _ => s

/-- A step of the task, and what it takes out. -/
def goOn (hasHandler processing timesOut : Bool) (s : UartLines) : Option UartCut × UartLines :=
  match s.point with
  | .idle | .lost => (none, s)
  | .reading false call length buffer =>
    if !s.gpsHasMux then (none, { s with point := .reading true call length buffer })
    else if timesOut && !call.patient then (none, { s with point := readRefused call buffer })
    else (none, s)
  | .reading true call length buffer =>
    let (cut, point) := readDone call hasHandler buffer
    if length = 0 then (cut, { s with point := point })
    else
      match uartReadTurn length s.uart with
      | .got bytes u =>
        ( none,
          { s with
            uart := u
            point := .reading true call (length - bytes.length) (buffer ++ bytes) } )
      | .again u => (none, { s with uart := u })
      | .nothing u =>
        if timesOut && !call.patient then (cut, { s with uart := u, point := point })
        else (none, { s with uart := u })
  | .flushing false =>
    if s.gpsHasMux then (none, s) else (none, { s with point := .flushing true })
  | .flushing true =>
    let (bytes, last, u) := uartFlushTurn s.uart
    (some (.dropped bytes), { s with uart := u, point := if last then .idle else .flushing true })
  | .looping buffer =>
    if buffer.length < lineBufferSize - 1 ∧ buffer.getLast? ≠ some lfByte ∧ processing then
      (none, { s with point := .reading false .more 1 buffer })
    else (some (handOver hasHandler buffer), { s with point := .idle })

/-- `_gps_task` at the port, and what it takes out. -/
def gps (t : GpsRead) (s : UartLines) : Option UartCut × UartLines :=
  match t with
  | .takes => (none, { s with gpsHasMux := s.gpsHasMux || !s.point.hasMux })
  | .reads length =>
    if s.gpsHasMux = false ∨ length = 0 then (none, s)
    else
      match uartReadTurn length s.uart with
      | .got bytes u => (some (.gps bytes), { s with uart := u })
      | .again u => (none, { s with uart := u })
      | .nothing u => (none, { s with uart := u })
  | .gives => (none, { s with gpsHasMux := false })

def turn : UartStep → UartLines → Option UartCut × UartLines
  | .isr fifo detected, s => (none, { s with uart := uartRxIntr fifo detected s.uart })
  | .event e, s => (none, s.handle e)
  | .task hasHandler processing timesOut, s => s.goOn hasHandler processing timesOut
  | .gps t, s => s.gps t

def step (t : UartStep) (s : UartLines) : UartLines := (turn t s).2

def cuts (t : UartStep) (s : UartLines) : Option UartCut := (turn t s).1

/-- What the interrupt handler takes out of the FIFO: nothing while `rx_data_buf` is in use. -/
def received (t : UartStep) (s : UartLines) : Option Bytes :=
  match t with
  | .isr fifo _ => if s.uart.rxBufferFullFlg then none else some fifo.bytes
  | _ => none

end UartLines

end Lighting
