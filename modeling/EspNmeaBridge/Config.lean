import Mathlib.Algebra.GroupWithZero.Nat
import Mathlib.Tactic.Basic

/-!
# Build configuration

The Kconfig options the modelled modules read, with the ranges Kconfig enforces
and the build assertion of the bridge.  A value of `Config` is therefore a
configuration the firmware can be built with.
-/

namespace EspNmeaBridge

abbrev Byte := UInt8

/-- `CONFIG_ESP_NMEA_BRIDGE_*`, with the ranges of `Kconfig` and the
`BUILD_ASSERT` of `nmea_bridge.c` as fields.  A string option is its bytes. -/
structure Config where
  nmeaFrameMaxLen : Nat
  ingestQueueDepth : Nat
  sinkQueueDepth : Nat
  nmeaSinksMax : Nat
  tcpNmeaServerEnable : Bool
  tcpNmeaServerMaxClients : Nat
  tcpNmeaClientEnable : Bool
  statusLedEnable : Bool
  staEnable : Bool
  staSsid : List Byte
  frame_range : 32 ≤ nmeaFrameMaxLen ∧ nmeaFrameMaxLen ≤ 512
  ingest_range : 2 ≤ ingestQueueDepth ∧ ingestQueueDepth ≤ 256
  sink_range : 2 ≤ sinkQueueDepth ∧ sinkQueueDepth ≤ 128
  sinks_range : 1 ≤ nmeaSinksMax ∧ nmeaSinksMax ≤ 9
  clients_range : 1 ≤ tcpNmeaServerMaxClients ∧ tcpNmeaServerMaxClients ≤ 8
  client_depends : tcpNmeaClientEnable = true → staEnable = true
  sinks_cover :
    (if tcpNmeaServerEnable then tcpNmeaServerMaxClients else 0) +
      (if tcpNmeaClientEnable then 1 else 0) ≤ nmeaSinksMax

namespace Config

/-- The committed defaults of `prj.conf` and `Kconfig`. -/
def committed : Config where
  nmeaFrameMaxLen := 128
  ingestQueueDepth := 32
  sinkQueueDepth := 16
  nmeaSinksMax := 4
  tcpNmeaServerEnable := true
  tcpNmeaServerMaxClients := 3
  tcpNmeaClientEnable := true
  statusLedEnable := true
  staEnable := true
  staSsid := []
  frame_range := by decide
  ingest_range := by decide
  sink_range := by decide
  sinks_range := by decide
  clients_range := by decide
  client_depends := by decide
  sinks_cover := by decide

variable (config : Config)

theorem sinkQueueDepth_pos : 0 < config.sinkQueueDepth := by
  have := config.sink_range.1
  omega

instance neZeroSinksMax : NeZero config.nmeaSinksMax where
  out := Nat.pos_iff_ne_zero.mp config.sinks_range.1

instance neZeroMaxClients : NeZero config.tcpNmeaServerMaxClients where
  out := Nat.pos_iff_ne_zero.mp config.clients_range.1

end Config

end EspNmeaBridge
