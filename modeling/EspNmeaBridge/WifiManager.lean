import EspNmeaBridge.Config

/-!
# Wi-Fi manager

The module variables of `wifi_manager.c`, its two network event handlers, and the
readiness query.  The address table of the STA interface belongs to the network
stack and is a parameter of every function that scans it.
-/

namespace EspNmeaBridge

/-- A network interface, identified by its address. -/
structure NetIf where
  address : Nat
  deriving DecidableEq, Repr

/-- `struct net_in_addr` -/
structure NetInAddr where
  s4Addr : Vector Byte 4
  deriving DecidableEq, Repr

/-- `net_ipv4_is_addr_unspecified` -/
def NetInAddr.isUnspecified (addr : NetInAddr) : Bool := addr.s4Addr == #v[0, 0, 0, 0]

/-- `enum net_addr_type` -/
inductive NetAddrType where
  | any
  | autoconf
  | dhcp
  | manual
  | overridable
  deriving DecidableEq, Repr

/-- An entry of `config.ip.ipv4->unicast`.  The unspecified address is zero. -/
structure NetIfAddrIpv4 where
  addrType : NetAddrType
  address : UInt32
  isUsed : Bool
  deriving DecidableEq, Repr

/-- `config.ip.ipv4` of an interface: `NULL`, or its unicast table. -/
abbrev Ipv4Config := Option (List NetIfAddrIpv4)

/-- The static variables of `wifi_manager.c` that the handlers and threads share. -/
structure WifiManager where
  staIface : Option NetIf := none
  staConnected : Bool := false
  staHasAddr : Bool := false
  staIpv4Logged : Bool := false
  staConnectRequested : Bool := false
  staRetryEnabled : Bool := false
  staRetryBackoffS : UInt32 := 5
  deriving DecidableEq, Repr

/-- Events of `WIFI_EVENT_MASK`.  A connect result carries the status found in
`cb->info`, absent when that pointer is `NULL`. -/
inductive WifiMgmtEvent where
  | connectResult (status : Option Int)
  | disconnectResult
  | apEnableResult
  | apDisableResult
  | apStaConnected
  | apStaDisconnected
  deriving DecidableEq, Repr

/-- Events of `IPV4_EVENT_MASK`. -/
inductive Ipv4MgmtEvent where
  | addrAdd
  | dhcpBound
  | dhcpStop
  deriving DecidableEq, Repr

namespace WifiManager

/-- What the scan of the address table accepts: type and value, but not `is_used`. -/
def showsDhcpAddr (entry : NetIfAddrIpv4) : Bool :=
  entry.addrType == .dhcp && entry.address != 0

def staDhcpAddr (wifi : WifiManager) (ipv4 : Ipv4Config) : Option UInt32 :=
  match wifi.staIface, ipv4 with
  | some _, some unicast => (unicast.find? showsDhcpAddr).map (·.address)
  | _, _ => none

/-- `mark_sta_ipv4_ready`, with its return value.  What it logs is not modelled. -/
def markStaIpv4Ready (wifi : WifiManager) (ipv4 : Ipv4Config) : WifiManager × Bool :=
  match wifi.staDhcpAddr ipv4 with
  | none => (wifi, false)
  | some _ =>
      ({ wifi with staConnected := true, staHasAddr := true, staIpv4Logged := true }, true)

/-- A connect result is a failure when it carries a nonzero status. -/
def connectFailed (status : Option Int) : Bool :=
  match status with
  | some value => value != 0
  | none => false

def wifiEventHandler (wifi : WifiManager) (ipv4 : Ipv4Config) (event : WifiMgmtEvent)
    (iface : NetIf) : WifiManager :=
  match event with
  | .connectResult status =>
      if some iface ≠ wifi.staIface then wifi
      else if connectFailed status then
        { wifi with
          staConnected := false
          staHasAddr := false
          staIpv4Logged := false
          staConnectRequested := false }
      else
        let wifi :=
          { wifi with
            staConnected := true
            staConnectRequested := false
            staRetryBackoffS := 5 }
        (wifi.markStaIpv4Ready ipv4).1
  | .disconnectResult =>
      if some iface ≠ wifi.staIface then wifi
      else
        { wifi with
          staConnected := false
          staHasAddr := false
          staIpv4Logged := false
          staConnectRequested := false }
  | .apEnableResult | .apDisableResult | .apStaConnected | .apStaDisconnected => wifi

def ipv4EventHandler (wifi : WifiManager) (ipv4 : Ipv4Config) (event : Ipv4MgmtEvent)
    (iface : NetIf) : WifiManager :=
  match event with
  | .addrAdd | .dhcpBound => (wifi.markStaIpv4Ready ipv4).1
  | .dhcpStop =>
      if some iface = wifi.staIface then
        { wifi with staHasAddr := false, staIpv4Logged := false }
      else wifi

/-- `wifi_manager_sta_ready`, with its return value. -/
def staReady (wifi : WifiManager) (ipv4 : Ipv4Config) : WifiManager × Bool :=
  let wifi := if wifi.staConnected && !wifi.staHasAddr then (wifi.markStaIpv4Ready ipv4).1 else wifi
  (wifi, wifi.staConnected && wifi.staHasAddr)

/-- `wifi_manager_get_sta_gateway`; `gateway` is what the network stack has for the STA
interface. -/
def getStaGateway (wifi : WifiManager) (ipv4 : Ipv4Config) (gateway : NetInAddr) :
    WifiManager × Option NetInAddr :=
  match wifi.staReady ipv4 with
  | (wifi, false) => (wifi, none)
  | (wifi, true) => (wifi, if gateway.isUnspecified then none else some gateway)

section Fields

variable (wifi : WifiManager) (ipv4 : Ipv4Config)

/-- The scan succeeds when it finds a DHCP entry, in use or not. -/
def seesDhcpAddr : Bool := (wifi.staDhcpAddr ipv4).isSome

@[simp] theorem markStaIpv4Ready_staIface :
    (wifi.markStaIpv4Ready ipv4).1.staIface = wifi.staIface := by
  unfold markStaIpv4Ready
  split <;> rfl

@[simp] theorem markStaIpv4Ready_staConnected :
    (wifi.markStaIpv4Ready ipv4).1.staConnected =
      (wifi.staConnected || wifi.seesDhcpAddr ipv4) := by
  unfold markStaIpv4Ready seesDhcpAddr
  split <;> simp_all

@[simp] theorem markStaIpv4Ready_staHasAddr :
    (wifi.markStaIpv4Ready ipv4).1.staHasAddr =
      (wifi.staHasAddr || wifi.seesDhcpAddr ipv4) := by
  unfold markStaIpv4Ready seesDhcpAddr
  split <;> simp_all

@[simp] theorem markStaIpv4Ready_staConnectRequested :
    (wifi.markStaIpv4Ready ipv4).1.staConnectRequested = wifi.staConnectRequested := by
  unfold markStaIpv4Ready
  split <;> rfl

@[simp] theorem markStaIpv4Ready_staRetryBackoffS :
    (wifi.markStaIpv4Ready ipv4).1.staRetryBackoffS = wifi.staRetryBackoffS := by
  unfold markStaIpv4Ready
  split <;> rfl

@[simp] theorem markStaIpv4Ready_staRetryEnabled :
    (wifi.markStaIpv4Ready ipv4).1.staRetryEnabled = wifi.staRetryEnabled := by
  unfold markStaIpv4Ready
  split <;> rfl

end Fields

end WifiManager

end EspNmeaBridge
