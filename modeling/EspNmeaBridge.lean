import EspNmeaBridge.BridgeTelemetry
import EspNmeaBridge.BridgeTelemetry.InputWindow
import EspNmeaBridge.Config
import EspNmeaBridge.Device
import EspNmeaBridge.Device.Boot
import EspNmeaBridge.Device.Host
import EspNmeaBridge.Firmware
import EspNmeaBridge.Firmware.LossWarning
import EspNmeaBridge.Firmware.Mutexes
import EspNmeaBridge.Firmware.Outbound
import EspNmeaBridge.Firmware.PipelineMoves
import EspNmeaBridge.Firmware.Recovery
import EspNmeaBridge.Firmware.SessionCounts
import EspNmeaBridge.Firmware.SinkCapacity
import EspNmeaBridge.Firmware.Sockets
import EspNmeaBridge.Firmware.Stream
import EspNmeaBridge.Firmware.UartContract
import EspNmeaBridge.Firmware.Waiting
import EspNmeaBridge.Library.Backoff
import EspNmeaBridge.Library.BoundedQueue
import EspNmeaBridge.Library.CString
import EspNmeaBridge.Library.Counter
import EspNmeaBridge.Library.Deadline
import EspNmeaBridge.Library.FilledBuffer
import EspNmeaBridge.Library.Format
import EspNmeaBridge.Library.Json
import EspNmeaBridge.Library.Latch
import EspNmeaBridge.Library.Lifetimes
import EspNmeaBridge.Library.Machine
import EspNmeaBridge.Library.Mutex
import EspNmeaBridge.Library.Ownership
import EspNmeaBridge.Library.Pacing
import EspNmeaBridge.Library.PartialWrite
import EspNmeaBridge.Library.Sampling
import EspNmeaBridge.Library.Script
import EspNmeaBridge.Library.Segments
import EspNmeaBridge.Library.Tally
import EspNmeaBridge.Library.Thinning
import EspNmeaBridge.Library.Unwinding
import EspNmeaBridge.NmeaBridge
import EspNmeaBridge.NmeaBridge.Accounting
import EspNmeaBridge.NmeaBridge.Calls
import EspNmeaBridge.NmeaBridge.Handles
import EspNmeaBridge.NmeaBridge.Isolation
import EspNmeaBridge.NmeaBridge.SinkHistory
import EspNmeaBridge.Pipeline
import EspNmeaBridge.Pipeline.Bursts
import EspNmeaBridge.Pipeline.ConcurrentPut
import EspNmeaBridge.Pipeline.Losses
import EspNmeaBridge.Pipeline.QueueViews
import EspNmeaBridge.Pipeline.SessionResult
import EspNmeaBridge.Pipeline.StepsLeft
import EspNmeaBridge.Pipeline.Stream
import EspNmeaBridge.Pipeline.Uninterrupted
import EspNmeaBridge.StatusLed.Driver
import EspNmeaBridge.StatusLed.FlashWindows
import EspNmeaBridge.StatusLed.Policy
import EspNmeaBridge.StatusLed.Wakeup
import EspNmeaBridge.TcpNmeaClient
import EspNmeaBridge.TcpNmeaServer
import EspNmeaBridge.TcpNmeaServer.SlotReuse
import EspNmeaBridge.TcpNmeaSession
import EspNmeaBridge.TcpNmeaSession.Sinks
import EspNmeaBridge.UartNmea
import EspNmeaBridge.UartNmea.Framing
import EspNmeaBridge.UartNmea.LineBuffer
import EspNmeaBridge.WebApp
import EspNmeaBridge.WebApp.Response
import EspNmeaBridge.WebApp.Routing
import EspNmeaBridge.WebApp.Sending
import EspNmeaBridge.WebApp.Server
import EspNmeaBridge.WebApp.StatusJson
import EspNmeaBridge.WifiManager
import EspNmeaBridge.WifiManager.Retry
import EspNmeaBridge.WifiManager.RetryBackoff
import EspNmeaBridge.WifiManager.StartThreads
import EspNmeaBridge.WifiManager.Startup
import EspNmeaBridge.WifiManager.Station
