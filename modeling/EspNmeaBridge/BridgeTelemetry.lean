import EspNmeaBridge.TcpNmeaServer
import EspNmeaBridge.TcpNmeaSession
import EspNmeaBridge.UartNmea

/-!
# Bridge telemetry

The snapshot of `bridge_telemetry.c`: the counters of the other modules, and the
states and warnings derived from them.  Times are `int64_t` milliseconds of uptime.
-/

namespace EspNmeaBridge

/-- `enum bridge_telemetry_nmea_connection_state` -/
inductive BridgeTelemetryNmeaConnectionState where
  | disconnected
  | connected
  deriving DecidableEq, Repr

/-- `enum bridge_telemetry_nmea_input_state` -/
inductive BridgeTelemetryNmeaInputState where
  | idle
  | active
  deriving DecidableEq, Repr

/-- `struct bridge_telemetry_counters` -/
structure BridgeTelemetryCounters where
  uartBytesRx : UInt32 := 0
  uartLinesRx : UInt32 := 0
  uartOverlongLines : UInt32 := 0
  bridgeFramesIn : UInt32 := 0
  bridgeIngestDroppedOldest : UInt32 := 0
  bridgeSinkDroppedOldest : UInt32 := 0
  bridgePublishNoSinks : UInt32 := 0
  bridgePublishInvalid : UInt32 := 0
  bridgePublishOversize : UInt32 := 0
  tcpNmeaActiveSessions : UInt32 := 0
  tcpServerActiveClients : UInt32 := 0
  tcpServerMaxClients : UInt32 := 0
  deriving DecidableEq, Repr

/-- `struct bridge_telemetry_inputs`; its counters are those of
`struct bridge_telemetry_counters`. -/
structure BridgeTelemetryInputs extends BridgeTelemetryCounters where
  staReady : Bool := false
  deriving DecidableEq, Repr

/-- `struct bridge_telemetry_warnings` -/
structure BridgeTelemetryWarnings where
  dataQuality : Bool := false
  frameLoss : Bool := false
  deriving DecidableEq, Repr

/-- `struct bridge_telemetry_snapshot` -/
structure BridgeTelemetrySnapshot where
  connectionState : BridgeTelemetryNmeaConnectionState := .disconnected
  inputState : BridgeTelemetryNmeaInputState := .idle
  warnings : BridgeTelemetryWarnings := {}
  staReady : Bool := false
  counters : BridgeTelemetryCounters := {}
  deriving DecidableEq, Repr

/-- `struct bridge_telemetry_state` -/
structure BridgeTelemetryState where
  lastBridgeFramesIn : UInt32 := 0
  lastBridgeFrameMs : Int64 := 0
  initialized : Bool := false
  deriving DecidableEq, Repr

namespace BridgeTelemetry

/-- `BRIDGE_TELEMETRY_NMEA_INPUT_WINDOW_MS` -/
def nmeaInputWindowMs : Int64 := 5000

/-- `collect_inputs`, from what the modules' functions return. -/
def collectInputs (uart : UartNmeaStats) (bridge : NmeaBridgeStats) (server : TcpNmeaServerStats)
    (session : TcpNmeaSessionStats) (staReady : Bool) : BridgeTelemetryInputs where
  uartBytesRx := uart.bytesRx
  uartLinesRx := uart.linesRx
  uartOverlongLines := uart.overlongLines
  bridgeFramesIn := bridge.framesIn
  bridgeIngestDroppedOldest := bridge.ingestDroppedOldest
  bridgeSinkDroppedOldest := bridge.sinkDroppedOldest
  bridgePublishNoSinks := bridge.publishNoSinks
  bridgePublishInvalid := bridge.publishInvalid
  bridgePublishOversize := bridge.publishOversize
  tcpNmeaActiveSessions := session.activeSessions
  tcpServerActiveClients := server.activeClients
  tcpServerMaxClients := server.maxClients
  staReady

/-- The part of `bridge_telemetry_build_snapshot` that updates the state. -/
def observeFramesIn (state : BridgeTelemetryState) (bridgeFramesIn : UInt32) (nowMs : Int64) :
    BridgeTelemetryState :=
  if !state.initialized then
    { lastBridgeFramesIn := bridgeFramesIn
      lastBridgeFrameMs := if bridgeFramesIn > 0 then nowMs else Int64.minValue
      initialized := true }
  else if bridgeFramesIn ≠ state.lastBridgeFramesIn then
    { state with
      lastBridgeFramesIn := bridgeFramesIn
      lastBridgeFrameMs := nowMs }
  else state

/-- `snapshot->input_state` -/
def inputState (state : BridgeTelemetryState) (nowMs : Int64) : BridgeTelemetryNmeaInputState :=
  if state.lastBridgeFrameMs = Int64.minValue then .idle
  else if nowMs - state.lastBridgeFrameMs ≤ nmeaInputWindowMs then .active
  else .idle

/-- The part of `bridge_telemetry_build_snapshot` that fills the snapshot. -/
def fillSnapshot (state : BridgeTelemetryState) (inputs : BridgeTelemetryInputs) (nowMs : Int64) :
    BridgeTelemetrySnapshot where
  connectionState := if inputs.tcpNmeaActiveSessions > 0 then .connected else .disconnected
  inputState := inputState state nowMs
  warnings := {
    dataQuality := inputs.uartOverlongLines > 0 || inputs.bridgePublishInvalid > 0 ||
      inputs.bridgePublishOversize > 0
    frameLoss := inputs.bridgeIngestDroppedOldest > 0 || inputs.bridgeSinkDroppedOldest > 0 }
  staReady := inputs.staReady
  counters := inputs.toBridgeTelemetryCounters

/-- `bridge_telemetry_build_snapshot`, with what it leaves in `*state` and
`*snapshot`. -/
def buildSnapshot (state : Option BridgeTelemetryState) (inputs : Option BridgeTelemetryInputs)
    (nowMs : Int64) (snapshot : Option BridgeTelemetrySnapshot) :
    Option BridgeTelemetryState × Option BridgeTelemetrySnapshot :=
  match state, inputs, snapshot with
  | some state, some inputs, some _ =>
      let state := observeFramesIn state inputs.bridgeFramesIn nowMs
      (some state, some (fillSnapshot state inputs nowMs))
  | state, _, snapshot => (state, snapshot)

end BridgeTelemetry

end EspNmeaBridge
