import Lighting.Lib.Runs
import Lighting.Lib.Cyclic
import Lighting.Lib.CString
import Lighting.Lib.OpenText
import Lighting.Lib.Retry
import Lighting.Lib.Pacer
import Lighting.Lib.Strtok
import Lighting.Lib.Calendar
import Lighting.Lib.WriteBack
import Lighting.Lib.Shuffle
import Lighting.Lib.Permit
import Lighting.Lib.Mirror
import Lighting.Lib.Chunks
import Lighting.Lib.Handover
import Lighting.Lib.Scratch
import Lighting.Lib.ByteMemory
import Lighting.Lib.Arcs
import Lighting.Lib.Lending
import Lighting.Model.Common
import Lighting.Model.Controller
import Lighting.Model.Schedule
import Lighting.Model.Storage
import Lighting.Model.Message
import Lighting.Model.Pack
import Lighting.Model.Websocket
import Lighting.Model.Nextion
import Lighting.Model.Main
import Lighting.Model.Gps
import Lighting.Model.Port
import Lighting.Model.Modbus
import Lighting.Model.Ds3231
import Lighting.Model.Pppos
import Lighting.Model.Ringbuf
import Lighting.Panel.Abstract
import Lighting.Panel.Shows
import Lighting.Panel.Refinement
import Lighting.Panel.Off
import Lighting.Panel.OneMode
import Lighting.Panel.StaleTrigger
import Lighting.Panel.Window
import Lighting.Panel.Selector
import Lighting.Alarms.Copies
import Lighting.Alarms.Valid
import Lighting.Alarms.Save
import Lighting.Alarms.Boot
import Lighting.Alarms.Added
import Lighting.Alarms.TwoWriters
import Lighting.Session.Calls
import Lighting.Session.Parties
import Lighting.Session.Login
import Lighting.Session.Updates
import Lighting.Session.Framing
import Lighting.Session.Registered
import Lighting.Session.Builders
import Lighting.Session.Sparse
import Lighting.Session.Pacing
import Lighting.Display.Commands
import Lighting.Display.Stream
import Lighting.Display.Residue
import Lighting.Display.Grammar
import Lighting.Gps.Mux
import Lighting.Gps.Accesses
import Lighting.Gps.Fields
import Lighting.Gps.Instant
import Lighting.Gps.Publish
import Lighting.Gps.Windows
import Lighting.Meter.Latch
import Lighting.Clock.FallBack
import Lighting.Clock.Reboot
import Lighting.Net.Attempt
import Lighting.Queue.Layout
import Lighting.Queue.Loops
import Lighting.Queue.Accounts
import Lighting.Queue.Send
import Lighting.Queue.Lend
import Lighting.Queue.Fifo
import Lighting.Queue.Tasks
import Lighting.Model.Modem
import Lighting.Modem.Handlers
import Lighting.Modem.Exchange
import Lighting.Modem.Answered
import Lighting.Modem.Strings
import Lighting.Modem.Report
import Lighting.Lib.Wire
import Lighting.Model.Proto
import Lighting.Session.ReadBack
import Lighting.Session.Room
import Lighting.Model.Objects
import Lighting.Modem.Objects
import Lighting.Lib.Terminated
import Lighting.Model.NextionWrite
import Lighting.Display.Line
import Lighting.Display.Refresh
import Lighting.Lib.Marks
import Lighting.Model.UartLines
import Lighting.Modem.Positions
import Lighting.Modem.Bytes
import Lighting.Modem.Lines
