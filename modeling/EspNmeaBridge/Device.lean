import EspNmeaBridge.Firmware.PipelineMoves
import EspNmeaBridge.WifiManager.StartThreads

/-!
# The device

Everything from reset on: `main`, the threads that exist before it and those it starts, and
the Wi-Fi manager.  A thread takes steps only once it has been created, and the mutexes
that `main` initialises are not usable before.  The outbound client asks the Wi-Fi manager
for its host.
-/

namespace EspNmeaBridge

open Library

/-- The options that only the parts put together here read.  `ledStrip` is whether the
devicetree has a strip for the status LED. -/
structure DeviceOptions (config : Config) extends WifiOptions config where
  ledStrip : Bool
  webAppEnable : Bool
  tcpNmeaClientHost : List Byte

/-- Positions inside `main`. -/
inductive BootPc where
  | bridgeInit
  | ledStart
  | uartStart
  | settle
  | wifiStart
  | serverStart
  | clientStart
  | webStart
  | returned (ret : Int)
  deriving DecidableEq, Repr

/-- The threads and what `main` has done for them.  `host` is the outbound client's. -/
structure Device (config : Config) where
  firmware : Firmware config
  wifi : StartThreads
  main : BootPc := .bridgeInit
  sinksLock : Bool := false
  clientsLock : Bool := false
  ledStarted : Bool := false
  uartStarted : Bool := false
  serverStarted : Bool := false
  clientStarted : Bool := false
  webStarted : Bool := false
  host : Option NetInAddr := none

/-- A step of `main`, of the Wi-Fi manager, of a thread of the bridge, or a look of the web
app at the counters.  `ready` is whether the device is that the statement asks for, the strip
of the status LED or the UART, and `gateway` is the one of the STA interface. -/
inductive DeviceAction (config : Config) where
  | main (ready : Bool)
  | wifi (action : StartAction)
  | firmware (action : FirmwareAction config) (gateway : NetInAddr)
  | telemetry

namespace Device

section Model

variable {config : Config} (options : DeviceOptions config)
  (netAddrPton : List Byte → Option NetInAddr)

/-- One statement of `main`. -/
def stepMain (device : Device config) (ready : Bool) : Option (Device config) :=
  match device.main with
  | .bridgeInit => some { device with sinksLock := true, main := .ledStart }
  | .ledStart =>
      some { device with
        ledStarted := config.statusLedEnable && options.ledStrip && ready
        main := .uartStart }
  | .uartStart =>
      if ready then some { device with uartStarted := true, main := .settle }
      else some { device with main := .returned (-WifiScript.enodev) }
  | .settle => some { device with main := .wifiStart }
  | .wifiStart =>
      match device.wifi.main with
      | .done _ => some { device with main := .serverStart }
      | .call _ _ => none
  | .serverStart =>
      if config.tcpNmeaServerEnable then
        some { device with clientsLock := true, serverStarted := true, main := .clientStart }
      else some { device with main := .clientStart }
  | .clientStart =>
      some { device with clientStarted := config.tcpNmeaClientEnable, main := .webStart }
  | .webStart =>
      some { device with webStarted := options.webAppEnable, main := .returned 0 }
  | .returned _ => none

/-- A step of the Wi-Fi manager; its part on the main thread is under `wifi_manager_start`. -/
def stepWifi (device : Device config) (action : StartAction) : Option (Device config) :=
  match action with
  | .main _ =>
      if device.main = .wifiStart then
        (device.wifi.step config action).map fun wifi => { device with wifi }
      else none
  | _ => (device.wifi.step config action).map fun wifi => { device with wifi }

/-- The thread that a step of the bridge is one of has been created.  The dispatcher exists
from the beginning, and the server's clients where they have a slot. -/
def started (device : Device config) : FirmwareAction config → Bool
  | .uart _ _ => device.uartStarted
  | .server _ => device.serverStarted
  | .outbound _ => device.clientStarted
  | .dispatcher | .client _ _ => true

/-- The outbound client asks for a host; `firmware` sees whether there is one. -/
def stepWaitHost (device : Device config) (sys : SysReturn) (gateway : NetInAddr) :
    Option (Device config) :=
  match getTcpNmeaServerHost options.tcpNmeaClientHost netAddrPton
      device.wifi.station.manager device.wifi.station.table gateway with
  | (manager, host) =>
      (device.firmware.stepOutbound { sys with ret := if host.isSome then 1 else 0 }).map
        fun firmware => { device with firmware, wifi.station.manager := manager, host }

def stepFirmware (device : Device config) (action : FirmwareAction config) (gateway : NetInAddr) :
    Option (Device config) :=
  if device.started action then
    match action with
    | .outbound sys =>
        if device.firmware.outbound.pc = .waitHost then
          device.stepWaitHost options netAddrPton sys gateway
        else (device.firmware.step action).map fun firmware => { device with firmware }
    | _ => (device.firmware.step action).map fun firmware => { device with firmware }
  else none

def step (device : Device config) : DeviceAction config → Option (Device config)
  | .main ready => device.stepMain options ready
  | .wifi action => device.stepWifi action
  | .firmware action gateway => device.stepFirmware options netAddrPton action gateway
  | .telemetry => if device.webStarted then some device else none

/-- The device at reset. -/
def Initial (device : Device config) : Prop :=
  ∃ firmware wifi, (Firmware.machine config).init firmware ∧
    (StartThreads.machine options.toWifiOptions netAddrPton).init wifi ∧
    device = { firmware, wifi }

def machine : Machine (Device config) (DeviceAction config) where
  init := Initial options netAddrPton
  step := step options netAddrPton

end Model

variable {config : Config} {options : DeviceOptions config}
  {netAddrPton : List Byte → Option NetInAddr} {device next : Device config}

/-- What a step can do. -/
inductive Moves (options : DeviceOptions config) (netAddrPton : List Byte → Option NetInAddr)
    (device : Device config) : DeviceAction config → Device config → Prop where
  | main {ready : Bool} {next : Device config} (taken : device.stepMain options ready = some next) :
      Moves options netAddrPton device (.main ready) next
  | wifi {action : StartAction} {wifi : StartThreads}
      (called : ∀ made, action = .main made → device.main = .wifiStart)
      (moved : device.wifi.step config action = some wifi) :
      Moves options netAddrPton device (.wifi action) { device with wifi }
  | firmware {action : FirmwareAction config} {gateway : NetInAddr} {firmware : Firmware config}
      (started : device.started action = true)
      (knows : ∀ sys, action = .outbound sys → device.firmware.outbound.pc ≠ .waitHost)
      (moved : device.firmware.step action = some firmware) :
      Moves options netAddrPton device (.firmware action gateway) { device with firmware }
  | asks {sys sys' : SysReturn} {gateway : NetInAddr} {firmware : Firmware config}
      {host : Option NetInAddr} (started : device.clientStarted = true)
      (pc : device.firmware.outbound.pc = .waitHost)
      (answer : host = if device.wifi.station.ready then
        tcpNmeaServerHost options.tcpNmeaClientHost netAddrPton gateway else none)
      (told : sys'.ret = if host.isSome then 1 else 0)
      (moved : device.firmware.stepOutbound sys' = some firmware) :
      Moves options netAddrPton device (.firmware (.outbound sys) gateway)
        { device with firmware, wifi.station := device.wifi.station.step .poll, host }
  | telemetry (started : device.webStarted = true) :
      Moves options netAddrPton device .telemetry device

theorem step_moves {action : DeviceAction config}
    (taken : device.step options netAddrPton action = some next) :
    device.Moves options netAddrPton action next := by
  cases action with
  | main ready => exact .main taken
  | wifi action =>
      cases action with
      | main made =>
          simp only [step, stepWifi] at taken
          split at taken
          · rename_i called
            obtain ⟨wifi, moved, rfl⟩ := Option.map_eq_some_iff.mp taken
            exact .wifi (fun _ _ => called) moved
          · contradiction
      | retry netMgmtRet | result event | event event =>
          simp only [step, stepWifi, Option.map_eq_some_iff] at taken
          obtain ⟨wifi, moved, rfl⟩ := taken
          exact .wifi nofun moved
  | firmware action gateway =>
      simp only [step, stepFirmware] at taken
      split at taken
      · rename_i started
        cases action with
        | outbound sys =>
            dsimp only at taken
            split at taken
            · rename_i pc
              simp only [stepWaitHost, getTcpNmeaServerHost_eq] at taken
              obtain ⟨firmware, moved, rfl⟩ := Option.map_eq_some_iff.mp taken
              exact .asks started pc rfl rfl moved
            · rename_i knows
              obtain ⟨firmware, moved, rfl⟩ := Option.map_eq_some_iff.mp taken
              exact .firmware started (fun _ _ => knows) moved
        | uart ch sys | dispatcher | server sys | client i sys =>
            obtain ⟨firmware, moved, rfl⟩ := Option.map_eq_some_iff.mp taken
            exact .firmware started nofun moved
      · contradiction
  | telemetry =>
      simp only [step] at taken
      split at taken
      · rename_i started
        cases taken
        exact .telemetry started
      · contradiction

/-- `main` itself touches neither the bridge nor the Wi-Fi manager. -/
theorem stepMain_parts {ready : Bool} (taken : device.stepMain options ready = some next) :
    next.firmware = device.firmware ∧ next.wifi = device.wifi ∧ next.host = device.host := by
  cases main : device.main with
  | bridgeInit | ledStart | settle | clientStart | webStart =>
      simp only [stepMain, main, Option.some.injEq] at taken
      subst taken
      exact ⟨rfl, rfl, rfl⟩
  | uartStart | serverStart =>
      simp only [stepMain, main] at taken
      split at taken <;> cases taken <;> exact ⟨rfl, rfl, rfl⟩
  | wifiStart =>
      simp only [stepMain, main] at taken
      split at taken
      · cases taken
        exact ⟨rfl, rfl, rfl⟩
      · contradiction
  | returned ret => simp [stepMain, main] at taken

/-- The bridge takes a step of its own, or none. -/
theorem Moves.firmware_step {action : DeviceAction config}
    (moves : device.Moves options netAddrPton action next) :
    next.firmware = device.firmware ∨
      ∃ action', device.firmware.step action' = some next.firmware := by
  cases moves with
  | main taken => exact .inl (stepMain_parts taken).1
  | wifi called moved => exact .inl rfl
  | @firmware action gateway firmware started knows moved => exact .inr ⟨action, moved⟩
  | @asks sys sys' gateway firmware host started pc answer told moved =>
      exact .inr ⟨.outbound sys', moved⟩
  | telemetry started => exact .inl rfl

/-- So does the Wi-Fi manager, which the outbound client polls. -/
theorem Moves.wifi_step {action : DeviceAction config}
    (moves : device.Moves options netAddrPton action next) :
    next.wifi = device.wifi ∨ ∃ action', device.wifi.step config action' = some next.wifi := by
  cases moves with
  | main taken => exact .inl (stepMain_parts taken).2.1
  | @wifi action wifi called moved => exact .inr ⟨action, moved⟩
  | firmware started knows moved => exact .inl rfl
  | asks started pc answer told moved => exact .inr ⟨.event .poll, rfl⟩
  | telemetry started => exact .inl rfl

/-- Each part of the device runs as it does alone: a state of the device that can be reached
consists of states that the bridge and the Wi-Fi manager can reach. -/
theorem reachable_parts (reachable : (machine options netAddrPton).Reachable device) :
    (Firmware.machine config).Reachable device.firmware ∧
      (StartThreads.machine options.toWifiOptions netAddrPton).Reachable device.wifi := by
  obtain ⟨start, actions, begins, run⟩ := reachable
  obtain ⟨firmware, wifi, firmwareBegins, wifiBegins, rfl⟩ := begins
  have along : (machine options netAddrPton).Along (fun _ _ => True) { firmware, wifi } actions :=
    Machine.along_of_forall (fun _ _ => trivial) _ _
  have bridge : ∃ actions', (Firmware.machine config).exec firmware actions' =
      some device.firmware :=
    Machine.exec_view (fun device : Device config => device.firmware) (fun _ _ => True)
      (fun _ _ _ _ taken => (step_moves taken).firmware_step) along run
  have manager : ∃ actions', (StartThreads.machine options.toWifiOptions netAddrPton).exec wifi
      actions' = some device.wifi :=
    Machine.exec_view (fun device : Device config => device.wifi) (fun _ _ => True)
      (fun _ _ _ _ taken => (step_moves taken).wifi_step) along run
  obtain ⟨bridgeActions, bridgeRun⟩ := bridge
  obtain ⟨wifiActions, wifiRun⟩ := manager
  exact ⟨⟨firmware, bridgeActions, firmwareBegins, bridgeRun⟩,
    ⟨wifi, wifiActions, wifiBegins, wifiRun⟩⟩

/-- A device whose parts are all off. -/
def reset (options : DeviceOptions config) (netAddrPton : List Byte → Option NetInAddr) :
    Device config where
  firmware := {
    pipeline := { sessions := fun _ => { fd := -1, sinkName := none, sink := ⟨0⟩ } }
    server := if config.tcpNmeaServerEnable then .socket else .stopped
    outbound := { pc := if config.tcpNmeaClientEnable then .waitHost else .stopped } }
  wifi := {
    station := Station.start none none
    wifiSta := none
    unhandled := 0
    retry := .enter
    main := WifiScript.wifiManagerStart options.toWifiOptions netAddrPton }

theorem reset_initial (options : DeviceOptions config)
    (netAddrPton : List Byte → Option NetInAddr) :
    (machine options netAddrPton).init (reset options netAddrPton) :=
  ⟨_, _, ⟨_, ⟨_, _, _, rfl⟩, rfl⟩, ⟨rfl, rfl, rfl, rfl⟩, rfl⟩

/-- The outbound client connects to the gateway. -/
def joinsOptions : DeviceOptions StartThreads.joins where
  toWifiOptions := StartThreads.joinsOptions
  ledStrip := true
  webAppEnable := true
  tcpNmeaClientHost := []

end Device

end EspNmeaBridge
