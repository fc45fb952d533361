import EspNmeaBridge.Device
import EspNmeaBridge.Firmware.Outbound

/-!
# The host of the outbound client

The client connects only to a host that it has been given while the station was ready, and
it is the configured one or the gateway.
-/

namespace EspNmeaBridge

open Library

/-- The client thread has a host to connect to. -/
def OutboundPc.hasHost : OutboundPc → Prop
  | .stopped | .waitHost => False
  | _ => True

namespace Firmware

variable {config : Config} {firmware next : Firmware config} {sys : SysReturn}

/-- It gets one at one position only. -/
theorem stepOutbound_hasHost (taken : firmware.stepOutbound sys = some next) :
    firmware.outbound.pc.hasHost ∨ firmware.outbound.pc = .waitHost := by
  cases pc : firmware.outbound.pc with
  | stopped => simp [stepOutbound, pc] at taken
  | waitHost => exact .inr rfl
  | ledConnecting | socket | connect fd | closeFailed fd | setNonblock fd | ledConnected fd
  | session | ledDisconnected | retryBackoff => exact .inl trivial

theorem stepOutbound_waitHost (pc : firmware.outbound.pc = .waitHost)
    (taken : firmware.stepOutbound sys = some next) (has : next.outbound.pc.hasHost) :
    sys.ret ≠ 0 := by
  intro told
  simp only [stepOutbound, pc, told, if_pos, Option.some.injEq] at taken
  subst taken
  rw [pc] at has
  exact has

end Firmware

namespace Device

variable {config : Config} {options : DeviceOptions config}
  {netAddrPton : List Byte → Option NetInAddr} {device next : Device config}

/-- The client asks for a host in this step, the station is ready, and `host` is the answer. -/
def Obtains (options : DeviceOptions config) (netAddrPton : List Byte → Option NetInAddr)
    (host : NetInAddr) (device : Device config) (action : DeviceAction config) : Prop :=
  ∃ sys gateway, action = .firmware (.outbound sys) gateway ∧
    device.firmware.outbound.pc = .waitHost ∧ device.wifi.station.ready = true ∧
    tcpNmeaServerHost options.tcpNmeaClientHost netAddrPton gateway = some host

/-- The client's host has been obtained in one of the steps. -/
def HostKnown (options : DeviceOptions config) (netAddrPton : List Byte → Option NetInAddr)
    (steps : List (Device config × DeviceAction config)) (device : Device config) : Prop :=
  device.firmware.outbound.pc.hasHost →
    ∃ host, device.host = some host ∧
      ∃ entry ∈ steps, Obtains options netAddrPton host entry.1 entry.2

theorem HostKnown.step {steps : List (Device config × DeviceAction config)}
    {action : DeviceAction config} (known : HostKnown options netAddrPton steps device)
    (taken : device.step options netAddrPton action = some next) :
    HostKnown options netAddrPton (steps ++ [(device, action)]) next := by
  have earlier : device.firmware.outbound.pc.hasHost → ∃ host, device.host = some host ∧
      ∃ entry ∈ steps ++ [(device, action)], Obtains options netAddrPton host entry.1 entry.2 := by
    intro has
    obtain ⟨host, holds, entry, member, obtained⟩ := known has
    exact ⟨host, holds, entry, List.mem_append_left _ member, obtained⟩
  intro has
  cases step_moves taken with
  | main taken =>
      obtain ⟨firmware, _, host⟩ := stepMain_parts taken
      rw [firmware] at has
      rw [host]
      exact earlier has
  | wifi called moved => exact earlier has
  | telemetry started => exact earlier has
  | @firmware action gateway firmware started knows moved =>
      apply earlier
      by_cases own : ∃ sys, action = .outbound sys
      · obtain ⟨sys, rfl⟩ := own
        exact (Firmware.stepOutbound_hasHost moved).resolve_right (knows sys rfl)
      · rw [← Firmware.step_outbound moved fun sys same => own ⟨sys, same⟩]
        exact has
  | @asks sys sys' gateway firmware host started pc answer told moved =>
      have found := Firmware.stepOutbound_waitHost pc moved has
      rw [told] at found
      cases host with
      | none => exact absurd rfl found
      | some host =>
          cases ready : device.wifi.station.ready with
          | false =>
              rw [ready] at answer
              contradiction
          | true =>
              rw [ready, if_pos rfl] at answer
              exact ⟨host, rfl, _, List.mem_append_right _ (List.mem_singleton_self _),
                sys, gateway, rfl, pc, ready, answer.symm⟩

/-- Whenever the outbound client is past its wait for a host, its host is the configured one,
or the gateway when none is configured, and the client has got it while the Wi-Fi manager
reported the station ready. -/
theorem outboundHost (options : DeviceOptions config)
    (netAddrPton : List Byte → Option NetInAddr) {start finish : Device config}
    {actions : List (DeviceAction config)} (initial : (machine options netAddrPton).init start)
    (run : (machine options netAddrPton).exec start actions = some finish)
    (has : finish.firmware.outbound.pc.hasHost) :
    ∃ host, finish.host = some host ∧
      ∃ entry ∈ (machine options netAddrPton).trail start actions,
        Obtains options netAddrPton host entry.1 entry.2 := by
  apply Machine.exec_induction (motive := fun actions finish =>
    HostKnown options netAddrPton ((machine options netAddrPton).trail start actions) finish)
    _ _ run has
  · intro has
    obtain ⟨firmware, wifi, ⟨pipeline, _, rfl⟩, _, rfl⟩ := initial
    dsimp only at has
    split at has <;> exact has.elim
  · intro actions device action next reached known taken
    rw [Machine.trail_concat action reached]
    exact known.step taken

/-- The station connects and gets an address; its gateway is asked for twice. -/
def gatewayFound : List (DeviceAction StartThreads.joins) :=
  List.replicate 4 (.main true) ++
    StartThreads.refusedCalls.map (fun made => .wifi (.main made)) ++
    List.replicate 4 (.main true) ++
    [.firmware (.outbound {}) ⟨#v[10, 0, 0, 1]⟩, .wifi (.event (.setTable boundTable)),
      .wifi (.result (.connectResult (some 0))), .firmware (.outbound {}) ⟨#v[10, 0, 0, 1]⟩]

theorem outboundHost_gatewayFound :
    ∃ finish : Device StartThreads.joins,
      (machine joinsOptions StartThreads.joinsPton).exec
        { reset joinsOptions StartThreads.joinsPton with wifi.wifiSta := some ⟨2⟩ }
        gatewayFound = some finish ∧
      ∃ host, finish.host = some host ∧
        ∃ entry ∈ (machine joinsOptions StartThreads.joinsPton).trail
            { reset joinsOptions StartThreads.joinsPton with wifi.wifiSta := some ⟨2⟩ }
            gatewayFound,
          Obtains joinsOptions StartThreads.joinsPton host entry.1 entry.2 := by
  have shown : ((machine joinsOptions StartThreads.joinsPton).exec
      { reset joinsOptions StartThreads.joinsPton with wifi.wifiSta := some ⟨2⟩ }
      gatewayFound).any (fun device => device.firmware.outbound.pc = .ledConnecting) = true := by
    decide +kernel
  obtain ⟨finish, run, pc⟩ := (Option.any_eq_true _ _).mp shown
  have has : finish.firmware.outbound.pc.hasHost := by
    rw [of_decide_eq_true pc]
    trivial
  exact ⟨finish, run, outboundHost joinsOptions StartThreads.joinsPton
    ⟨_, _, ⟨_, ⟨_, _, _, rfl⟩, rfl⟩, ⟨rfl, rfl, rfl, rfl⟩, rfl⟩ run has⟩

end Device

end EspNmeaBridge
