import EspNmeaBridge.Library.Script
import EspNmeaBridge.WifiManager

/-!
# Bringing up the two Wi-Fi interfaces

`wifi_manager_start` with everything it calls, as a script of calls into the network
stack.  Any call may fail, and any interface may be missing.
-/

namespace EspNmeaBridge

open Library

/-- The options of the two Wi-Fi interfaces. -/
structure WifiOptions (config : Config) where
  apEnable : Bool
  apSsid : List Byte
  apPsk : List Byte
  apIpAddress : List Byte
  apNetmask : List Byte
  staPsk : List Byte
  staRotateMac : Bool
  rotate_depends : staRotateMac = true → config.staEnable = true

/-- `enum wifi_security_type`, as far as it is used. -/
inductive WifiSecurityType where
  | none
  | psk
  deriving DecidableEq, Repr

/-- `struct wifi_connect_req_params`.  Both requests are for any channel of the 2.4 GHz
band. -/
structure WifiConnectReqParams where
  ssid : List Byte
  ssidLength : UInt8
  psk : List Byte
  pskLength : UInt8
  security : WifiSecurityType
  deriving DecidableEq, Repr

/-- What `wifi_manager_start` calls, and what it writes to the shared variables. -/
inductive WifiCall where
  | addWifiCallback
  | addIpv4Callback
  | netIfGetWifiSap
  | netIfGetWifiSta
  | espWifiSetMode
  | netIfGetLinkAddr (iface : NetIf)
  | sysRandGet
  | netIfIsAdminUp (iface : NetIf)
  | netIfDown (iface : NetIf)
  | netIfUp (iface : NetIf)
  | setMacAddress (iface : NetIf) (address : List Byte)
  | netIfIpv4SetGw (iface : NetIf) (addr : NetInAddr)
  | netIfIpv4AddrAdd (iface : NetIf) (addr : NetInAddr)
  | netIfIpv4SetNetmaskByAddr (iface : NetIf) (addr netmask : NetInAddr)
  | netDhcpv4ServerStart (iface : NetIf) (poolStart : NetInAddr)
  | wifiApEnable (iface : NetIf) (params : WifiConnectReqParams)
  | wifiDisconnect (iface : NetIf)
  | wifiConnect (iface : NetIf) (params : WifiConnectReqParams)
  | wifiPs (iface : NetIf)
  | kSleep (milliseconds : Nat)
  | setStaConnectRequested (value : Bool)
  | setStaRetryEnabled
  deriving DecidableEq, Repr

/-- What the calls return. -/
@[reducible] def WifiCall.Answer : WifiCall → Type
  | .netIfGetWifiSap | .netIfGetWifiSta => Option NetIf
  | .netIfGetLinkAddr _ => Option (List Byte)
  | .sysRandGet => Byte × Byte × Byte
  | .netIfIsAdminUp _ | .netIfIpv4AddrAdd _ _ | .netIfIpv4SetNetmaskByAddr _ _ _ => Bool
  | .espWifiSetMode | .netIfDown _ | .netIfUp _ | .setMacAddress _ _
  | .netDhcpv4ServerStart _ _ | .wifiApEnable _ _ | .wifiDisconnect _ | .wifiConnect _ _
  | .wifiPs _ => Int
  | .addWifiCallback | .addIpv4Callback | .netIfIpv4SetGw _ _ | .kSleep _
  | .setStaConnectRequested _ | .setStaRetryEnabled => Unit

abbrev WifiScript := Script WifiCall.Answer

namespace WifiScript

open Script WifiCall

def einval : Int := 22

def eio : Int := 5

def enodev : Int := 19

/-- The address for the station: locally administered, with the vendor's next two bytes. -/
def rotatedMac (b0 b1 b2 : Byte) (random : Byte × Byte × Byte) : List Byte :=
  [b0 &&& 0xFC ||| 0x02, b1, b2, random.1, random.2.1, random.2.2]

/-- `pool_start`, the address of the access point with ten added to its last byte. -/
def poolStart (addr : NetInAddr) : NetInAddr where
  s4Addr := addr.s4Addr.set 3 (addr.s4Addr[3] + 10)

/-- The request for a network, open when the key has no length. -/
def reqParams (ssid psk : List Byte) : WifiConnectReqParams where
  ssid
  ssidLength := UInt8.ofNat ssid.length
  psk
  pskLength := UInt8.ofNat psk.length
  security := if UInt8.ofNat psk.length = 0 then .none else .psk

section Code

variable {config : Config} (options : WifiOptions config)
  (netAddrPton : List Byte → Option NetInAddr)

def startDhcpServer (apIface : NetIf) : WifiScript Int := do
  match netAddrPton options.apIpAddress, netAddrPton options.apNetmask with
  | none, _ => return -einval
  | some _, none => return -einval
  | some addr, some netmask =>
      perform (netIfIpv4SetGw apIface addr)
      let _ ← perform (netIfIpv4AddrAdd apIface addr)
      let set : Bool ← perform (netIfIpv4SetNetmaskByAddr apIface addr netmask)
      if !set then return -eio
      let ret : Int ← perform (netDhcpv4ServerStart apIface (poolStart addr))
      if ret ≠ 0 then return ret
      return 0

def enableAp : Option NetIf → WifiScript Int
  | none => return -enodev
  | some apIface => do
      let ret ← startDhcpServer options netAddrPton apIface
      if ret ≠ 0 then return ret
      let ret : Int ← perform (wifiApEnable apIface (reqParams options.apSsid options.apPsk))
      if ret ≠ 0 then return ret
      return 0

def disableStaPowerSave : Option NetIf → WifiScript Unit
  | none => return
  | some staIface => do
      let _ ← perform (wifiPs staIface)

/-- `rotate_sta_mac` once the interface may be changed. -/
def changeMac (staIface : NetIf) (address : List Byte) : WifiScript Unit := do
  let wasUp : Bool ← perform (netIfIsAdminUp staIface)
  if wasUp then
    let ret : Int ← perform (netIfDown staIface)
    if ret ≠ 0 then return
  let _ ← perform (setMacAddress staIface address)
  if wasUp then
    let _ ← perform (netIfUp staIface)

def rotateStaMac : Option NetIf → WifiScript Unit
  | none => return
  | some staIface => do
      if !options.staRotateMac then return
      let ret : Int ← perform espWifiSetMode
      if ret ≠ 0 then return
      let linkAddr : Option (List Byte) ← perform (netIfGetLinkAddr staIface)
      match linkAddr with
      | some [b0, b1, b2, _, _, _] =>
          let random ← perform sysRandGet
          changeMac staIface (rotatedMac b0 b1 b2 random)
      | _ => return

def disconnectSta : Option NetIf → WifiScript Unit
  | none => return
  | some staIface => do
      let _ ← perform (wifiDisconnect staIface)

def connectSta : Option NetIf → WifiScript Int
  | none => return -enodev
  | some staIface => do
      if config.staSsid = [] then return 0
      let ret : Int ← perform (wifiConnect staIface (reqParams config.staSsid options.staPsk))
      if ret ≠ 0 then
        perform (setStaConnectRequested false)
        return ret
      perform (setStaConnectRequested true)
      disableStaPowerSave (some staIface)
      return 0

/-- `wifi_manager_start` for the access point. -/
def startAp (apIface : Option NetIf) : WifiScript Int :=
  if options.apEnable then enableAp options netAddrPton apIface else return 0

/-- `wifi_manager_start` for the station, after `ret` for the access point. -/
def startSta (staIface : Option NetIf) (ret : Int) : WifiScript Int := do
  if !config.staEnable then return ret
  disconnectSta staIface
  perform (kSleep 500)
  let staRet ← connectSta options staIface
  return if staRet ≠ 0 ∧ ret = 0 then staRet else ret

def wifiManagerStart : WifiScript Int := do
  perform addWifiCallback
  perform addIpv4Callback
  let apIface ← perform netIfGetWifiSap
  let staIface ← perform netIfGetWifiSta
  rotateStaMac options staIface
  let ret ← startAp options netAddrPton apIface
  let ret ← startSta options staIface ret
  perform setStaRetryEnabled
  return ret

end Code

end WifiScript

/-- What has been made of the interfaces and of the shared variables. -/
structure WifiSetup where
  wifiCallback : Bool := false
  ipv4Callback : Bool := false
  apIface : Option NetIf := none
  staIface : Option NetIf := none
  stationMode : Bool := false
  linkAddr : Option (List Byte) := none
  adminUp : Option Bool := none
  takenDown : Bool := false
  upRefused : Bool := false
  gateway : Option NetInAddr := none
  subnet : Option (NetInAddr × NetInAddr) := none
  dhcpServes : Bool := false
  apEnabled : Bool := false
  quietMs : Option Nat := none
  connectRet : Option Int := none
  retryEnabled : Bool := false

namespace WifiSetup

open WifiCall

/-- `address` is `linkAddr` made local and individual, with three other bytes at its end. -/
def IsRotationOf (linkAddr address : List Byte) : Prop :=
  ∃ b0 b1 b2 c0, [b0, b1, b2] <+: linkAddr ∧ [c0, b1, b2] <+: address ∧
    linkAddr.length = 6 ∧ address.length = 6 ∧ c0 &&& 0x03 = 0x02 ∧ c0 &&& 0xFC = b0 &&& 0xFC

/-- Two addresses agree under a mask. -/
def SameSubnet (netmask addr other : NetInAddr) : Prop :=
  ∀ index : Fin 4, other.s4Addr[index] &&& netmask.s4Addr[index] =
    addr.s4Addr[index] &&& netmask.s4Addr[index]

/-- A pool may start at an address other than the interface's own.  It is in the same subnet
exactly when ten more in the last byte change nothing under the mask. -/
def MayStartPool (addr netmask poolStart : NetInAddr) : Prop :=
  poolStart ≠ addr ∧
    (SameSubnet netmask addr poolStart ↔
      (addr.s4Addr[3] + (10 : Byte)) &&& netmask.s4Addr[3] =
        addr.s4Addr[3] &&& netmask.s4Addr[3])

/-- A network is asked for without protection exactly when the length of the key is zero as a
byte. -/
def Secured (params : WifiConnectReqParams) : Prop :=
  params.security = .none ↔ params.psk.length % 256 = 0

/-- The interface of the station is down on the manager's account, and has not been asked to
come up again. -/
def OwesUp (setup : WifiSetup) : Prop :=
  setup.takenDown = true ∧ setup.upRefused = false

/-- What each call needs. -/
def needs (setup : WifiSetup) : WifiCall → Prop
  | addWifiCallback | addIpv4Callback => setup.apIface = none ∧ setup.staIface = none
  | netIfGetWifiSap | netIfGetWifiSta => setup.wifiCallback = true ∧ setup.ipv4Callback = true
  | espWifiSetMode => setup.connectRet = none
  | sysRandGet | kSleep _ | setStaRetryEnabled => True
  | netIfGetLinkAddr iface | netIfIsAdminUp iface | wifiDisconnect iface =>
      setup.staIface = some iface
  | netIfDown iface => setup.staIface = some iface ∧ setup.adminUp = some true
  | netIfUp iface => setup.staIface = some iface ∧ setup.OwesUp
  | setMacAddress iface address =>
      setup.staIface = some iface ∧ setup.stationMode = true ∧ setup.adminUp = some false ∧
        setup.connectRet = none ∧
        ∃ linkAddr, setup.linkAddr = some linkAddr ∧ IsRotationOf linkAddr address
  | netIfIpv4SetGw iface _ => setup.apIface = some iface
  | netIfIpv4AddrAdd iface addr | netIfIpv4SetNetmaskByAddr iface addr _ =>
      setup.apIface = some iface ∧ setup.gateway = some addr
  | netDhcpv4ServerStart iface poolStart =>
      setup.apIface = some iface ∧
        ∃ addr netmask, setup.subnet = some (addr, netmask) ∧
          MayStartPool addr netmask poolStart
  | wifiApEnable iface params =>
      setup.apIface = some iface ∧ setup.dhcpServes = true ∧ setup.connectRet = none ∧
        Secured params
  | wifiConnect iface params =>
      setup.staIface = some iface ∧ setup.quietMs = some 500 ∧ setup.connectRet = none ∧
        Secured params
  | wifiPs iface => setup.staIface = some iface ∧ setup.connectRet = some 0
  | setStaConnectRequested value => ∃ ret, setup.connectRet = some ret ∧ (value ↔ ret = 0)

/-- As long as the station's interface has to be brought up again, only its address may be
set, and after the retry thread has been let go nothing is called. -/
def allowed (setup : WifiSetup) (request : WifiCall) : Prop :=
  setup.retryEnabled = false ∧
    (setup.OwesUp →
      ∃ iface, request = netIfUp iface ∨ ∃ address, request = setMacAddress iface address) ∧
    setup.needs request

def advance (setup : WifiSetup) : Answered WifiCall.Answer → WifiSetup
  | ⟨addWifiCallback, _⟩ => { setup with wifiCallback := true }
  | ⟨addIpv4Callback, _⟩ => { setup with ipv4Callback := true }
  | ⟨netIfGetWifiSap, iface⟩ => { setup with apIface := iface }
  | ⟨netIfGetWifiSta, iface⟩ => { setup with staIface := iface }
  | ⟨espWifiSetMode, ret⟩ => { setup with stationMode := decide (ret = 0) }
  | ⟨netIfGetLinkAddr _, linkAddr⟩ => { setup with linkAddr }
  | ⟨netIfIsAdminUp _, up⟩ => { setup with adminUp := some up }
  | ⟨netIfDown _, ret⟩ =>
      if ret = 0 then
        { setup with adminUp := some false, takenDown := true, upRefused := false }
      else setup
  | ⟨netIfUp _, ret⟩ =>
      if ret = 0 then { setup with adminUp := some true, takenDown := false }
      else { setup with upRefused := true }
  | ⟨netIfIpv4SetGw _ addr, _⟩ => { setup with gateway := some addr }
  | ⟨netIfIpv4SetNetmaskByAddr _ addr netmask, set⟩ =>
      if set then { setup with subnet := some (addr, netmask) } else setup
  | ⟨netDhcpv4ServerStart _ _, ret⟩ => { setup with dhcpServes := decide (ret = 0) }
  | ⟨wifiApEnable _ _, ret⟩ => { setup with apEnabled := decide (ret = 0) }
  | ⟨wifiDisconnect _, _⟩ => { setup with quietMs := some 0 }
  | ⟨kSleep milliseconds, _⟩ => { setup with quietMs := setup.quietMs.map (· + milliseconds) }
  | ⟨wifiConnect _ _, ret⟩ => { setup with connectRet := some ret }
  | ⟨setStaRetryEnabled, _⟩ => { setup with retryEnabled := true }
  | ⟨netIfIpv4AddrAdd _ _, _⟩ | ⟨setMacAddress _ _, _⟩ | ⟨wifiPs _, _⟩ | ⟨sysRandGet, _⟩
  | ⟨setStaConnectRequested _, _⟩ => setup

/-- The order in which the interfaces are to be brought up. -/
def protocol : Script.Protocol WifiSetup WifiCall.Answer where
  allowed := allowed
  advance := advance

theorem advance_netIfDown_failed (setup : WifiSetup) (iface : NetIf) {ret : Int}
    (failed : ret ≠ 0) : protocol.advance setup ⟨netIfDown iface, ret⟩ = setup :=
  if_neg failed

/-- Whatever `net_if_up` answers, it need not be called again. -/
theorem advance_netIfUp_settled (setup : WifiSetup) (iface : NetIf) (ret : Int) :
    ¬ (protocol.advance setup ⟨netIfUp iface, ret⟩).OwesUp := by
  dsimp only [protocol, advance]
  split
  · exact fun owes => nomatch owes.1
  · exact fun owes => nomatch owes.2

end WifiSetup

namespace WifiScript

open Script WifiCall

/-- Between the statements of `wifi_manager_start`: the interfaces are known, and none has to
be brought up again. -/
structure Between (apIface staIface : Option NetIf) (apEnabled : Bool) (connectRet : Option Int)
    (setup : WifiSetup) : Prop where
  apIface : setup.apIface = apIface
  staIface : setup.staIface = staIface
  apEnabled : setup.apEnabled = apEnabled
  connectRet : setup.connectRet = connectRet
  settled : ¬ setup.OwesUp
  retryEnabled : setup.retryEnabled = false

/-- `wifi_manager_start` has returned `ret`: nothing is left down unless `net_if_up` has
failed, the retry thread is let go, and zero stands for everything configured having been
asked for successfully. -/
structure Started {config : Config} (options : WifiOptions config) (ret : Int)
    (setup : WifiSetup) : Prop where
  restored : setup.takenDown = true → setup.upRefused = true
  released : setup.retryEnabled = true
  succeeds_iff : ret = 0 ↔
    (options.apEnable = true → setup.apEnabled = true) ∧
    (config.staEnable = true →
      setup.connectRet = some 0 ∨ setup.staIface ≠ none ∧ config.staSsid = [])
  apConfigured : setup.apEnabled = true → options.apEnable = true
  staConfigured : setup.connectRet ≠ none → config.staEnable = true

/-- Calls that touch nothing of `Between`. -/
def keepsBetween : WifiCall → Bool
  | netIfGetWifiSap | netIfGetWifiSta | netIfDown _ | netIfUp _ | wifiApEnable _ _
  | wifiConnect _ _ | setStaRetryEnabled => false
  | _ => true

section Between

variable {apIface staIface : Option NetIf} {apEnabled : Bool} {connectRet : Option Int}
  {setup : WifiSetup}

theorem Between.allowed {request : WifiCall}
    (between : Between apIface staIface apEnabled connectRet setup)
    (needs : setup.needs request) : WifiSetup.protocol.allowed setup request := by
  constructor
  · exact between.retryEnabled
  · constructor
    · exact fun owes => absurd owes between.settled
    · exact needs

theorem Between.advance (between : Between apIface staIface apEnabled connectRet setup)
    (made : Answered WifiCall.Answer) (keeps : keepsBetween made.request = true) :
    Between apIface staIface apEnabled connectRet (WifiSetup.protocol.advance setup made) := by
  obtain ⟨known, station, enabled, connected, up, waiting⟩ := between
  obtain ⟨request, answer⟩ := made
  cases request with
  | netIfIpv4SetNetmaskByAddr iface addr netmask =>
      dsimp only [WifiSetup.protocol, WifiSetup.advance]
      split <;> exact ⟨known, station, enabled, connected, up, waiting⟩
  | netIfGetWifiSap | netIfGetWifiSta | netIfDown iface | netIfUp iface
  | wifiApEnable iface params | wifiConnect iface params | setStaRetryEnabled => contradiction
  | _ => exact ⟨known, station, enabled, connected, up, waiting⟩

/-- After `net_if_up` it does not matter whether the interface had to be brought up. -/
theorem Between.of_netIfUp (known : setup.apIface = apIface) (station : setup.staIface = staIface)
    (enabled : setup.apEnabled = apEnabled) (connected : setup.connectRet = connectRet)
    (waiting : setup.retryEnabled = false) (iface : NetIf) (ret : Int) :
    Between apIface staIface apEnabled connectRet
      (WifiSetup.protocol.advance setup ⟨netIfUp iface, ret⟩) := by
  have settled := WifiSetup.advance_netIfUp_settled setup iface ret
  dsimp only [WifiSetup.protocol, WifiSetup.advance] at settled ⊢
  split at settled
  · rw [if_pos ‹_›]
    exact ⟨known, station, enabled, connected, settled, waiting⟩
  · rw [if_neg ‹_›]
    exact ⟨known, station, enabled, connected, settled, waiting⟩

end Between

section Proofs

variable {config : Config} (options : WifiOptions config)
  (netAddrPton : List Byte → Option NetInAddr)

theorem rotated_local (byte : Byte) : (byte &&& 0xFC ||| 0x02) &&& 0x03 = 0x02 := by
  apply UInt8.eq_of_toBitVec_eq
  simp only [UInt8.toBitVec_and, UInt8.toBitVec_or]
  generalize byte.toBitVec = bits
  revert bits
  decide +kernel

theorem rotated_rest (byte : Byte) : (byte &&& 0xFC ||| 0x02) &&& 0xFC = byte &&& 0xFC := by
  apply UInt8.eq_of_toBitVec_eq
  simp only [UInt8.toBitVec_and, UInt8.toBitVec_or]
  generalize byte.toBitVec = bits
  revert bits
  decide +kernel

theorem isRotationOf_rotatedMac (b0 b1 b2 b3 b4 b5 : Byte) (random : Byte × Byte × Byte) :
    WifiSetup.IsRotationOf [b0, b1, b2, b3, b4, b5] (rotatedMac b0 b1 b2 random) :=
  ⟨b0, b1, b2, b0 &&& 0xFC ||| 0x02, by simp, by simp [rotatedMac], rfl, rfl,
    rotated_local b0, rotated_rest b0⟩

@[simp] theorem poolStart_last (addr : NetInAddr) :
    (poolStart addr).s4Addr[3] = addr.s4Addr[3] + 10 :=
  Vector.getElem_set_self ..

theorem poolStart_other (addr : NetInAddr) {index : Fin 4} (other : index ≠ 3) :
    (poolStart addr).s4Addr[index] = addr.s4Addr[index] := by
  simp only [poolStart, Fin.getElem_fin]
  rw [Vector.getElem_set_ne]
  omega

/-- Ten is added to the last byte, and what it wraps to is not the byte itself. -/
theorem mayStartPool_poolStart (addr netmask : NetInAddr) :
    WifiSetup.MayStartPool addr netmask (poolStart addr) := by
  constructor
  · intro same
    have last := congrArg (fun addr => addr.s4Addr[3]) same
    simp at last
  · constructor
    · intro within
      rw [← poolStart_last]
      exact within 3
    · intro unchanged index
      by_cases last : index = 3
      · subst last
        rw [← poolStart_last] at unchanged
        exact unchanged
      · rw [poolStart_other addr last]

theorem secured_reqParams (ssid psk : List Byte) : WifiSetup.Secured (reqParams ssid psk) := by
  have length : UInt8.ofNat psk.length = 0 ↔ psk.length % 256 = 0 := by
    rw [← UInt8.toNat_inj]
    simp
  simp [WifiSetup.Secured, reqParams, length]

/-- What holds after `start_dhcp_server` has returned. -/
theorem conforms_startDhcpServer {ap : NetIf} {staIface : Option NetIf} {setup : WifiSetup}
    (between : Between (some ap) staIface false none setup) :
    (startDhcpServer options netAddrPton ap).Conforms WifiSetup.protocol.transition
      (fun ret setup => Between (some ap) staIface false none setup ∧
        (ret = 0 → setup.dhcpServes = true)) setup := by
  unfold startDhcpServer
  split
  · exact ⟨between, by simp [einval]⟩
  · exact ⟨between, by simp [einval]⟩
  · rename_i addr netmask _ _
    simp only [perform_bind]
    apply Protocol.conforms_call
    · exact between.allowed between.apIface
    intro _
    replace between := between.advance ⟨netIfIpv4SetGw ap addr, ()⟩ rfl
    apply Protocol.conforms_call
    · exact between.allowed ⟨between.apIface, rfl⟩
    intro present
    replace between := between.advance ⟨netIfIpv4AddrAdd ap addr, present⟩ rfl
    apply Protocol.conforms_call
    · exact between.allowed ⟨between.apIface, rfl⟩
    intro set
    replace between := between.advance ⟨netIfIpv4SetNetmaskByAddr ap addr netmask, set⟩ rfl
    cases set with
    | false => exact ⟨between, by simp [eio]⟩
    | true =>
        apply Protocol.conforms_call
        · exact between.allowed
            ⟨between.apIface, _, _, rfl, mayStartPool_poolStart addr netmask⟩
        intro ret
        replace between := between.advance ⟨netDhcpv4ServerStart ap (poolStart addr), ret⟩ rfl
        by_cases served : ret = 0
        · rw [if_neg (not_not_intro served)]
          exact ⟨between, fun _ => decide_eq_true served⟩
        · rw [if_pos served]
          exact ⟨between, fun zero => absurd zero served⟩

/-- What holds after `enable_ap` has returned. -/
theorem conforms_enableAp {apIface staIface : Option NetIf} {setup : WifiSetup}
    (between : Between apIface staIface false none setup) :
    (enableAp options netAddrPton apIface).Conforms WifiSetup.protocol.transition
      (fun ret => Between apIface staIface (decide (ret = 0)) none) setup := by
  cases apIface with
  | none => simpa [enableAp, enodev] using between
  | some ap =>
      simp only [enableAp]
      apply (conforms_startDhcpServer options netAddrPton between).bind
      rintro ret setup ⟨between, serves⟩
      by_cases served : ret = 0
      · rw [if_neg (not_not_intro served), perform_bind]
        apply Protocol.conforms_call
        · exact between.allowed
            ⟨between.apIface, serves served, between.connectRet, secured_reqParams _ _⟩
        intro ret
        obtain ⟨known, station, enabled, connected, up, waiting⟩ := between
        by_cases accepted : ret = 0
        · rw [if_neg (not_not_intro accepted), accepted]
          exact ⟨known, station, rfl, connected, up, waiting⟩
        · rw [if_pos accepted]
          exact ⟨known, station, rfl, connected, up, waiting⟩
      · rw [if_pos served]
        simpa [served] using between

/-- The station's interface has been asked to come up again, if it has been taken down. -/
theorem conforms_changeMac {apIface : Option NetIf} {sta : NetIf} {linkAddr address : List Byte}
    {setup : WifiSetup} (between : Between apIface (some sta) false none setup)
    (stationMode : setup.stationMode = true) (known : setup.linkAddr = some linkAddr)
    (rotation : WifiSetup.IsRotationOf linkAddr address) :
    (changeMac sta address).Conforms WifiSetup.protocol.transition
      (fun _ => Between apIface (some sta) false none) setup := by
  simp only [changeMac, perform_bind]
  apply Protocol.conforms_call
  · exact between.allowed between.staIface
  intro wasUp
  replace between := between.advance ⟨netIfIsAdminUp sta, wasUp⟩ rfl
  cases wasUp with
  | false =>
      apply Protocol.conforms_call
      · exact between.allowed ⟨between.staIface, stationMode, rfl, between.connectRet,
          linkAddr, known, rotation⟩
      intro ret
      exact between.advance ⟨setMacAddress sta address, ret⟩ rfl
  | true =>
      apply Protocol.conforms_call
      · exact between.allowed ⟨between.staIface, rfl⟩
      intro ret
      by_cases down : ret = 0
      · rw [if_neg (not_not_intro down)]
        obtain ⟨known', station, enabled, connected, up, waiting⟩ := between
        subst down
        apply Protocol.conforms_call
        · exact ⟨waiting, fun _ => ⟨sta, .inr ⟨address, rfl⟩⟩, station, stationMode, rfl, connected,
            linkAddr, known, rotation⟩
        intro ret
        apply Protocol.conforms_call
        · exact ⟨waiting, fun _ => ⟨sta, .inl rfl⟩, station, rfl, rfl⟩
        intro ret
        rw [pure_eq, conforms_done]
        apply Between.of_netIfUp
        · exact known'
        · exact station
        · exact enabled
        · exact connected
        · exact waiting
      · rw [if_pos down]
        rw [WifiSetup.advance_netIfDown_failed _ sta down]
        exact between

theorem conforms_rotateStaMac {apIface staIface : Option NetIf} {setup : WifiSetup}
    (between : Between apIface staIface false none setup) :
    (rotateStaMac options staIface).Conforms WifiSetup.protocol.transition
      (fun _ => Between apIface staIface false none) setup := by
  cases staIface with
  | none => exact between
  | some sta =>
      simp only [rotateStaMac, perform_bind]
      split
      · exact between
      apply Protocol.conforms_call
      · exact between.allowed between.connectRet
      intro ret
      replace between := between.advance ⟨espWifiSetMode, ret⟩ rfl
      by_cases moded : ret = 0
      · rw [if_neg (not_not_intro moded)]
        apply Protocol.conforms_call
        · exact between.allowed between.staIface
        intro linkAddr
        replace between := between.advance ⟨netIfGetLinkAddr sta, linkAddr⟩ rfl
        split
        · rename_i b0 b1 b2 b3 b4 b5
          apply Protocol.conforms_call
          · exact between.allowed trivial
          intro random
          exact conforms_changeMac (between.advance ⟨sysRandGet, random⟩ rfl)
            (decide_eq_true moded) rfl (isRotationOf_rotatedMac b0 b1 b2 b3 b4 b5 random)
        · exact between
      · rw [if_pos moded]
        exact between

theorem conforms_disconnectSta {apIface staIface : Option NetIf} {apEnabled : Bool}
    {setup : WifiSetup} (between : Between apIface staIface apEnabled none setup) :
    (disconnectSta staIface).Conforms WifiSetup.protocol.transition
      (fun _ setup => Between apIface staIface apEnabled none setup ∧
        (staIface ≠ none → setup.quietMs = some 0)) setup := by
  cases staIface with
  | none => exact ⟨between, absurd rfl⟩
  | some sta =>
      simp only [disconnectSta, perform_bind]
      apply Protocol.conforms_call
      · exact between.allowed between.staIface
      intro ret
      exact ⟨between.advance ⟨wifiDisconnect sta, ret⟩ rfl, fun _ => rfl⟩

/-- The result of the connect request, when `connect_sta` makes one. -/
def connectsAs (config : Config) (staIface : Option NetIf) (ret : Int)
    (connectRet : Option Int) : Prop :=
  (staIface = none ∧ ret ≠ 0 ∧ connectRet = none) ∨
    (staIface ≠ none ∧ config.staSsid = [] ∧ ret = 0 ∧ connectRet = none) ∨
    (config.staSsid ≠ [] ∧ connectRet = some ret)

theorem conforms_connectSta {apIface staIface : Option NetIf} {apEnabled : Bool}
    {setup : WifiSetup} (between : Between apIface staIface apEnabled none setup)
    (quiet : staIface ≠ none → setup.quietMs = some 500) :
    (connectSta options staIface).Conforms WifiSetup.protocol.transition
      (fun ret setup => ∃ connectRet, connectsAs config staIface ret connectRet ∧
        Between apIface staIface apEnabled connectRet setup) setup := by
  cases staIface with
  | none => exact ⟨none, .inl ⟨rfl, by simp [enodev], rfl⟩, between⟩
  | some sta =>
      simp only [connectSta]
      split
      · rename_i unnamed
        exact ⟨none, .inr (.inl ⟨by simp, unnamed, rfl, rfl⟩), between⟩
      rename_i named
      simp only [perform_bind]
      apply Protocol.conforms_call
      · exact between.allowed ⟨between.staIface, quiet (by simp), between.connectRet,
          secured_reqParams _ _⟩
      intro ret
      obtain ⟨known, station, enabled, _, up, waiting⟩ := between
      have after : Between apIface (some sta) apEnabled (some ret)
          (WifiSetup.protocol.advance setup
            ⟨wifiConnect sta (reqParams config.staSsid options.staPsk), ret⟩) :=
        ⟨known, station, enabled, rfl, up, waiting⟩
      by_cases accepted : ret = 0
      · rw [if_neg (not_not_intro accepted)]
        apply Protocol.conforms_call
        · exact after.allowed ⟨ret, rfl, by simp [accepted]⟩
        intro _
        replace after := after.advance ⟨setStaConnectRequested true, ()⟩ rfl
        apply Protocol.conforms_call
        · exact after.allowed ⟨after.staIface, accepted ▸ after.connectRet⟩
        intro psRet
        exact ⟨some 0, .inr (.inr ⟨named, rfl⟩), accepted ▸ after.advance ⟨wifiPs sta, psRet⟩ rfl⟩
      · rw [if_pos accepted]
        apply Protocol.conforms_call
        · exact after.allowed ⟨ret, rfl, by simp [accepted]⟩
        intro _
        exact ⟨some ret, .inr (.inr ⟨named, rfl⟩),
          after.advance ⟨setStaConnectRequested false, ()⟩ rfl⟩

/-- The access point's part of the return value. -/
theorem conforms_startAp {apIface staIface : Option NetIf} {setup : WifiSetup}
    (between : Between apIface staIface false none setup) :
    (startAp options netAddrPton apIface).Conforms WifiSetup.protocol.transition
      (fun ret setup => ∃ apEnabled, Between apIface staIface apEnabled none setup ∧
        (ret = 0 ↔ (options.apEnable = true → apEnabled = true)) ∧
        (apEnabled = true → options.apEnable = true)) setup := by
  rw [startAp]
  cases enable : options.apEnable with
  | true =>
      rw [if_pos rfl]
      apply (conforms_enableAp options netAddrPton between).mono
      intro ret setup between
      exact ⟨_, between, by simp, by simp⟩
  | false => exact ⟨false, between, by simp, by simp⟩

/-- The station's part of the return value, which counts when there is no other error. -/
theorem conforms_startSta {apIface staIface : Option NetIf} {apEnabled : Bool} {ret : Int}
    {setup : WifiSetup} (between : Between apIface staIface apEnabled none setup) :
    (startSta options staIface ret).Conforms WifiSetup.protocol.transition
      (fun startRet setup => ∃ connectRet, Between apIface staIface apEnabled connectRet setup ∧
        (startRet = 0 ↔ ret = 0 ∧ (config.staEnable = true →
          connectRet = some 0 ∨ staIface ≠ none ∧ config.staSsid = [])) ∧
        (connectRet ≠ none → config.staEnable = true)) setup := by
  rw [startSta]
  cases enable : config.staEnable with
  | false => exact ⟨none, between, by simp, absurd rfl⟩
  | true =>
      rw [if_neg (by simp)]
      apply (conforms_disconnectSta between).bind
      rintro _ setup ⟨between, asked⟩
      rw [perform_bind]
      apply Protocol.conforms_call
      · exact between.allowed trivial
      intro _
      have quiet : staIface ≠ none →
          (WifiSetup.protocol.advance setup ⟨kSleep 500, ()⟩).quietMs = some 500 := by
        intro known
        simp [WifiSetup.protocol, WifiSetup.advance, asked known]
      apply (conforms_connectSta options (between.advance ⟨kSleep 500, ()⟩ rfl) quiet).bind
      rintro staRet setup ⟨connectRet, connects, between⟩
      refine ⟨connectRet, between, ?_, fun _ => rfl⟩
      have zero_iff : staRet = 0 ↔
          connectRet = some 0 ∨ staIface ≠ none ∧ config.staSsid = [] := by
        rcases connects with ⟨missing, failed, rfl⟩ | ⟨present, unnamed, rfl, rfl⟩ | ⟨named, rfl⟩
        · simp [missing, failed]
        · simp [present, unnamed]
        · simp [named]
      rw [← zero_iff]
      split
      · rename_i failed
        simp [failed]
      · rename_i other
        grind

theorem conforms_wifiManagerStart :
    (wifiManagerStart options netAddrPton).Conforms WifiSetup.protocol.transition
      (Started options) {} := by
  simp only [wifiManagerStart, perform_bind]
  have begins : Between none none false none {} :=
    ⟨rfl, rfl, rfl, rfl, (fun owes => nomatch owes.1), rfl⟩
  apply Protocol.conforms_call
  · exact begins.allowed ⟨rfl, rfl⟩
  intro _
  replace begins := begins.advance ⟨addWifiCallback, ()⟩ rfl
  apply Protocol.conforms_call
  · exact begins.allowed ⟨rfl, rfl⟩
  intro _
  replace begins := begins.advance ⟨addIpv4Callback, ()⟩ rfl
  apply Protocol.conforms_call
  · exact begins.allowed ⟨rfl, rfl⟩
  intro apIface
  apply Protocol.conforms_call
  · exact ⟨rfl, fun owes => (nomatch owes.1), rfl, rfl⟩
  intro staIface
  have between : Between apIface staIface false none
      { wifiCallback := true, ipv4Callback := true, apIface, staIface } :=
    ⟨rfl, rfl, rfl, rfl, (fun owes => nomatch owes.1), rfl⟩
  apply (conforms_rotateStaMac options between).bind
  intro _ setup between
  apply (conforms_startAp options netAddrPton between).bind
  rintro ret setup ⟨apEnabled, between, ap, apConfigured⟩
  apply (conforms_startSta options between).bind
  rintro startRet setup ⟨connectRet, between, sta, staConfigured⟩
  apply Protocol.conforms_call
  · exact between.allowed trivial
  intro _
  obtain ⟨_, rfl, rfl, rfl, settled, _⟩ := between
  refine ⟨?_, rfl, sta.trans (and_congr_left' ap), apConfigured, staConfigured⟩
  intro down
  rw [← Bool.not_eq_false]
  exact fun asked => settled ⟨down, asked⟩

end Proofs

end WifiScript

end EspNmeaBridge
