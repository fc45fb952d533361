import EspNmeaBridge.WifiManager
import Mathlib.Tactic.Basic

/-!
# Outbound TCP NMEA client

The positions of the client thread of `tcp_nmea_client.c`, its backoff, and the host it
connects to.
-/

namespace EspNmeaBridge

/-- Positions inside `client_thread` and `connect_server`; `stopped` when the thread
is never created. -/
inductive OutboundPc where
  | stopped
  | waitHost
  | ledConnecting
  | socket
  | connect (fd : Int)
  | closeFailed (fd : Int)
  | setNonblock (fd : Int)
  | ledConnected (fd : Int)
  | session
  | ledDisconnected
  | retryBackoff
  deriving DecidableEq, Repr

/-- The client thread's position and `backoff_s`. -/
structure Outbound where
  pc : OutboundPc
  backoffS : UInt32 := 1
  deriving DecidableEq, Repr

namespace Outbound

/-- `MIN(backoff_s * 2, 30U)` -/
def doubledBackoff (backoffS : UInt32) : UInt32 := min (backoffS * 2) 30

end Outbound

/-- The host that the client may connect to once the station is ready: the configured one,
or the gateway of the STA interface. -/
def tcpNmeaServerHost (clientHost : List Byte) (netAddrPton : List Byte → Option NetInAddr)
    (gateway : NetInAddr) : Option NetInAddr :=
  if clientHost ≠ [] then netAddrPton clientHost
  else if gateway.isUnspecified then none else some gateway

/-- `get_tcp_nmea_server_host` -/
def getTcpNmeaServerHost (clientHost : List Byte) (netAddrPton : List Byte → Option NetInAddr)
    (wifi : WifiManager) (ipv4 : Ipv4Config) (gateway : NetInAddr) :
    WifiManager × Option NetInAddr :=
  if clientHost ≠ [] then
    match wifi.staReady ipv4 with
    | (wifi, false) => (wifi, none)
    | (wifi, true) => (wifi, netAddrPton clientHost)
  else wifi.getStaGateway ipv4 gateway

/-- Asking for the host is a poll of the station's readiness. -/
theorem getTcpNmeaServerHost_eq (clientHost : List Byte)
    (netAddrPton : List Byte → Option NetInAddr) (wifi : WifiManager) (ipv4 : Ipv4Config)
    (gateway : NetInAddr) :
    getTcpNmeaServerHost clientHost netAddrPton wifi ipv4 gateway =
      ((wifi.staReady ipv4).1,
        if (wifi.staReady ipv4).2 then tcpNmeaServerHost clientHost netAddrPton gateway
        else none) := by
  rcases answer : wifi.staReady ipv4 with ⟨polled, ready⟩
  simp only [getTcpNmeaServerHost, WifiManager.getStaGateway, tcpNmeaServerHost, answer]
  cases ready <;> split <;> rfl

end EspNmeaBridge
