import EspNmeaBridge.Device

/-!
# Starting up

What `main` has done so far decides which threads can have taken a step.  The threads that
exist before `main` find nothing to do, and each mutex that is initialised at run time is
initialised before it is used, with one exception.
-/

namespace EspNmeaBridge

open Library

/-- How far `main` has got.  When the UART is not ready it stays where it has found out. -/
def BootPc.stage : BootPc → Nat
  | .bridgeInit => 0
  | .ledStart => 1
  | .uartStart => 2
  | .settle => 3
  | .wifiStart => 4
  | .serverStart => 5
  | .clientStart => 6
  | .webStart => 7
  | .returned ret => if ret = 0 then 8 else 2

namespace Firmware

variable {config : Config} {firmware next : Firmware config} {action : FirmwareAction config}

/-- Before the UART delivers anything the dispatcher waits, and no client is there. -/
theorem Initial.blocked (initial : firmware.Initial)
    (taken : firmware.step action = some next) :
    action ≠ .dispatcher ∧ ∀ i sys, action ≠ .client i sys := by
  obtain ⟨pipeline, begins, rfl⟩ := initial
  obtain ⟨fd, name, sink, rfl⟩ := begins
  constructor
  · rintro rfl
    contradiction
  · rintro i sys rfl
    contradiction

/-- Only the server thread creates client threads. -/
theorem step_noClients (idle : ∀ i, (firmware.clients i).thread = none)
    (other : ∀ sys, action ≠ .server sys) (taken : firmware.step action = some next)
    (i : Fin config.tcpNmeaServerMaxClients) : (next.clients i).thread = none := by
  cases action with
  | uart ch sys =>
      obtain rfl := Option.some.inj taken
      exact idle i
  | dispatcher =>
      obtain ⟨pipeline, _, rfl⟩ := step_dispatcher taken
      exact idle i
  | server sys => exact absurd rfl (other sys)
  | client j sys => simp [step, stepClient, idle j] at taken
  | outbound sys =>
      obtain ⟨outbound, pipeline, nextFd, _, rfl⟩ := stepOutbound_moves taken
      exact idle i

end Firmware

namespace Device

variable {config : Config} {options : DeviceOptions config}
  {netAddrPton : List Byte → Option NetInAddr} {device next : Device config}

/-- What `main` has started so far, and what can have happened without it. -/
structure Booted (options : DeviceOptions config) (netAddrPton : List Byte → Option NetInAddr)
    (device : Device config) : Prop where
  sinksLock : device.sinksLock = decide (0 < device.main.stage)
  ledStarted : device.ledStarted = true →
    config.statusLedEnable = true ∧ options.ledStrip = true ∧ 1 < device.main.stage
  uartStarted : device.uartStarted = decide (2 < device.main.stage)
  serverStarted : device.serverStarted =
    (config.tcpNmeaServerEnable && decide (5 < device.main.stage))
  clientsLock : device.clientsLock = device.serverStarted
  clientStarted : device.clientStarted =
    (config.tcpNmeaClientEnable && decide (6 < device.main.stage))
  webStarted : device.webStarted = (options.webAppEnable && decide (7 < device.main.stage))
  wifiUncalled : device.main.stage < 4 →
    device.wifi.main = WifiScript.wifiManagerStart options.toWifiOptions netAddrPton
  wifiReturned : 4 < device.main.stage → ∃ ret, device.wifi.main = .done ret
  idle : device.uartStarted = false → device.firmware.Initial
  serverIdle : device.serverStarted = false → ∀ i, (device.firmware.clients i).thread = none
  returned : ∀ ret, device.main = .returned ret → ret = 0 ∨ ret = -WifiScript.enodev

theorem Booted.of_initial (initial : Initial options netAddrPton device) :
    device.Booted options netAddrPton := by
  obtain ⟨firmware, wifi, firmwareBegins, wifiBegins, rfl⟩ := initial
  constructor
  · rfl
  · exact nofun
  · rfl
  · exact (Bool.and_false _).symm
  · rfl
  · exact (Bool.and_false _).symm
  · exact (Bool.and_false _).symm
  · exact fun _ => wifiBegins.2.2.2
  · exact nofun
  · exact fun _ => firmwareBegins
  · intro _ i
    obtain ⟨pipeline, begins, rfl⟩ := firmwareBegins
    rfl
  · exact nofun

theorem Booted.stepMain {ready : Bool} (booted : device.Booted options netAddrPton)
    (taken : device.stepMain options ready = some next) : next.Booted options netAddrPton := by
  obtain ⟨sinksLock, ledStarted, uartStarted, serverStarted, clientsLock, clientStarted, webStarted,
    uncalled, called, idle, serverIdle, _⟩ := booted
  cases main : device.main with
  | bridgeInit | ledStart | settle | clientStart | webStart =>
      simp only [Device.stepMain, main, Option.some.injEq] at taken
      subst taken
      simp only [main, BootPc.stage] at *
      constructor <;> simp_all [BootPc.stage]
  | uartStart =>
      simp only [Device.stepMain, main] at taken
      split at taken
      · cases taken
        simp only [main, BootPc.stage] at *
        constructor <;> simp_all [BootPc.stage]
      · cases taken
        simp only [main, BootPc.stage] at *
        constructor <;> simp_all [BootPc.stage, WifiScript.enodev]
  | wifiStart =>
      simp only [Device.stepMain, main] at taken
      split at taken
      · rename_i ret finished
        cases taken
        simp only [main, BootPc.stage] at *
        constructor <;> simp_all [BootPc.stage]
      · contradiction
  | serverStart =>
      simp only [Device.stepMain, main] at taken
      split at taken
      · cases taken
        simp only [main, BootPc.stage] at *
        constructor <;> simp_all [BootPc.stage]
      · cases taken
        simp only [main, BootPc.stage] at *
        constructor <;> simp_all [BootPc.stage]
  | returned ret => simp [Device.stepMain, main] at taken

theorem Booted.stepWifi {action : StartAction} {wifi : StartThreads}
    (booted : device.Booted options netAddrPton)
    (called : ∀ made, action = .main made → device.main = .wifiStart)
    (moved : device.wifi.step config action = some wifi) :
    Booted options netAddrPton { device with wifi } := by
  have kept : device.main ≠ .wifiStart → wifi.main = device.wifi.main := by
    intro outside
    cases action with
    | main made => exact absurd (called made rfl) outside
    | retry netMgmtRet | result event =>
        obtain ⟨threads, _, rfl⟩ := Option.map_eq_some_iff.mp moved
        rfl
    | event event =>
        cases moved
        rfl
  have outside : device.main.stage ≠ 4 → device.main ≠ .wifiStart := by
    intro stage main
    rw [main] at stage
    exact stage rfl
  obtain ⟨sinksLock, ledStarted, uartStarted, serverStarted, clientsLock, clientStarted, webStarted,
    uncalled, called, idle, serverIdle, returned⟩ := booted
  constructor
  · exact sinksLock
  · exact ledStarted
  · exact uartStarted
  · exact serverStarted
  · exact clientsLock
  · exact clientStarted
  · exact webStarted
  · intro before
    exact (kept (outside (Nat.ne_of_lt before))).trans (uncalled before)
  · intro behind
    rw [kept (outside (Nat.ne_of_gt behind))]
    exact called behind
  · exact idle
  · exact serverIdle
  · exact returned

/-- A step of the bridge with whatever it changes of the Wi-Fi manager's flags. -/
theorem Booted.stepFirmware {action : FirmwareAction config} {firmware : Firmware config}
    {wifi : StartThreads} {host : Option NetInAddr}
    (booted : device.Booted options netAddrPton) (started : device.started action = true)
    (kept : wifi.main = device.wifi.main)
    (moved : device.firmware.step action = some firmware) :
    Booted options netAddrPton { device with firmware, wifi, host } := by
  obtain ⟨sinksLock, ledStarted, uartStarted, serverStarted, clientsLock, clientStarted, webStarted,
    uncalled, called, idle, serverIdle, returned⟩ := booted
  have noClients : device.serverStarted = false → ∀ i, (firmware.clients i).thread = none := by
    intro stopped i
    apply Firmware.step_noClients (serverIdle stopped) _ moved
    rintro sys rfl
    rw [Device.started, stopped] at started
    contradiction
  constructor
  · exact sinksLock
  · exact ledStarted
  · exact uartStarted
  · exact serverStarted
  · exact clientsLock
  · exact clientStarted
  · exact webStarted
  · intro before
    exact kept.trans (uncalled before)
  · intro behind
    rw [kept]
    exact called behind
  · intro silent
    change device.uartStarted = false at silent
    obtain ⟨dispatches, serves⟩ := Firmware.Initial.blocked (idle silent) moved
    cases action with
    | uart ch sys => simp [Device.started, silent] at started
    | dispatcher => exact absurd rfl dispatches
    | client i sys => exact absurd rfl (serves i sys)
    | server sys =>
        simp only [Device.started] at started
        grind
    | outbound sys =>
        simp only [Device.started] at started
        grind
  · exact noClients
  · exact returned

theorem Booted.step {action : DeviceAction config} (booted : device.Booted options netAddrPton)
    (taken : device.step options netAddrPton action = some next) :
    next.Booted options netAddrPton := by
  cases step_moves taken with
  | main taken => exact booted.stepMain taken
  | wifi called moved => exact booted.stepWifi called moved
  | firmware started knows moved => exact booted.stepFirmware started rfl moved
  | @asks sys sys' gateway firmware host started pc answer told moved =>
      have outbound : device.started (.outbound sys') = true := started
      exact booted.stepFirmware outbound rfl moved
  | telemetry started => exact booted

theorem booted_of_reachable (reachable : (machine options netAddrPton).Reachable device) :
    device.Booted options netAddrPton :=
  Machine.Reachable.invariant (Booted options netAddrPton) (fun _ => Booted.of_initial)
    (fun _ _ _ booted taken => booted.step taken) reachable

/-- The mutexes that are initialised at run time. -/
inductive BootLock where
  | sinks
  | clients
  deriving DecidableEq, Repr

/-- The mutex that a step of the device locks, if it locks one. -/
def locks (device : Device config) : DeviceAction config → Option BootLock
  | .main _ | .wifi _ | .firmware (.uart _ _) _ => none
  | .firmware .dispatcher _ =>
      match device.firmware.pipeline.dispatcher with
      | .locking _ => some .sinks
      | _ => none
  | .firmware (.server _) _ =>
      match device.firmware.server with
      | .allocClient _ => some .clients
      | _ => none
  | .firmware (.client i _) _ =>
      match (device.firmware.clients i).thread with
      | some .session =>
          if (device.firmware.pipeline.sessions (some i)).needsSinksLock then some .sinks else none
      | some .clearActive => some .clients
      | _ => none
  | .firmware (.outbound _) _ =>
      if device.firmware.outbound.pc = .session ∧
        (device.firmware.pipeline.sessions none).needsSinksLock then some .sinks else none
  | .telemetry => some .clients

def initialised (device : Device config) : BootLock → Bool
  | .sinks => device.sinksLock
  | .clients => device.clientsLock

/-- Nothing happens on the bridge before `sinks_lock` is initialised. -/
theorem Booted.sinksLock_of_moved (booted : device.Booted options netAddrPton)
    (moved : ¬ device.firmware.Initial) : device.sinksLock = true := by
  have started : device.uartStarted = true := by
    rw [← Bool.not_eq_false]
    exact fun silent => moved (booted.idle silent)
  rw [booted.uartStarted, decide_eq_true_eq] at started
  rw [booted.sinksLock, decide_eq_true_eq]
  omega

/-- The threads of the bridge lock what has been initialised. -/
theorem Booted.locks_initialised {action : FirmwareAction config} {gateway : NetInAddr}
    {lock : BootLock} (booted : device.Booted options netAddrPton)
    (started : device.started action = true)
    (uses : device.locks (.firmware action gateway) = some lock) :
    device.initialised lock = true := by
  cases action with
  | uart ch sys => contradiction
  | dispatcher =>
      simp only [locks] at uses
      split at uses
      · rename_i frame pc
        cases uses
        apply booted.sinksLock_of_moved
        rintro ⟨pipeline, ⟨fd, name, sink, rfl⟩, initial⟩
        rw [initial] at pc
        contradiction
      · contradiction
  | server sys =>
      simp only [locks] at uses
      split at uses
      · cases uses
        exact booted.clientsLock.trans started
      · contradiction
  | client i sys =>
      have running : (device.firmware.clients i).thread ≠ none := by
        intro idle
        simp [locks, idle] at uses
      have serving : device.serverStarted = true := by
        rw [← Bool.not_eq_false]
        exact fun stopped => running (booted.serverIdle stopped i)
      cases lock with
      | clients => exact booted.clientsLock.trans serving
      | sinks =>
          apply booted.sinksLock_of_moved
          rintro ⟨pipeline, _, initial⟩
          rw [initial] at running
          exact running rfl
  | outbound sys =>
      simp only [locks] at uses
      split at uses
      · cases uses
        have started : device.clientStarted = true := started
        rw [booted.clientStarted, Bool.and_eq_true, decide_eq_true_eq] at started
        rw [initialised, booted.sinksLock, decide_eq_true_eq]
        omega
      · contradiction

/-- `k_mutex_init` comes before every use of `sinks_lock`, and before every use of
`clients_lock` but that of the web app in a build without the server. -/
theorem locks_initialised {action : DeviceAction config}
    (booted : device.Booted options netAddrPton)
    (taken : device.step options netAddrPton action = some next) {lock : BootLock}
    (uses : device.locks action = some lock) :
    device.initialised lock = true ∨
      lock = .clients ∧ action = .telemetry ∧ config.tcpNmeaServerEnable = false ∧
        options.webAppEnable = true := by
  cases action with
  | main ready | wifi action => contradiction
  | telemetry =>
      cases uses
      have web : device.webStarted = true := by
        cases step_moves taken with
        | telemetry started => exact started
      rw [booted.webStarted, Bool.and_eq_true, decide_eq_true_eq] at web
      have late : decide (5 < device.main.stage) = true := decide_eq_true (by omega)
      rw [initialised, booted.clientsLock, booted.serverStarted, late, Bool.and_true]
      cases enabled : config.tcpNmeaServerEnable with
      | true => exact .inl rfl
      | false => exact .inr ⟨rfl, rfl, rfl, web.1⟩
  | firmware action gateway =>
      left
      have started : device.started action = true := by
        cases step_moves taken with
        | firmware started knows moved => exact started
        | asks started pc answer told moved => exact started
      exact booted.locks_initialised started uses

/-- A step locks only a mutex that has been initialised. -/
def LocksReady (device : Device config) (action : DeviceAction config) : Prop :=
  ∀ lock, device.locks action = some lock → device.initialised lock = true

/-- The calls of `wifi_manager_start` are steps of the device. -/
theorem exec_wifi {calls : List (Answered WifiCall.Answer)} {finish : StartThreads}
    (called : device.main = .wifiStart)
    (run : (StartThreads.machine options.toWifiOptions netAddrPton).exec device.wifi
      (calls.map .main) = some finish) :
    (machine options netAddrPton).exec device (calls.map fun made => .wifi (.main made)) =
      some { device with wifi := finish } := by
  induction calls generalizing device with
  | nil =>
      cases run
      rfl
  | cons made calls ih =>
      obtain ⟨wifi, taken, rest⟩ := Machine.exec_cons_eq_some.mp run
      have moved : device.stepWifi (.main made) = some { device with wifi } := by
        simp only [stepWifi, if_pos called]
        exact Option.map_eq_some_iff.mpr ⟨wifi, taken, rfl⟩
      simp only [List.map_cons, Machine.exec_cons]
      rw [show (machine options netAddrPton).step device (.wifi (.main made)) =
        some { device with wifi } from moved]
      exact ih called rest

/-- Start-up can always be completed. -/
theorem exists_webStart (options : DeviceOptions config)
    (netAddrPton : List Byte → Option NetInAddr) :
    ∃ actions device, (machine options netAddrPton).exec (reset options netAddrPton) actions =
        some device ∧ device.main = .returned 0 := by
  obtain ⟨calls, finish, ret, called, returned⟩ :=
    StartThreads.exists_returns options.toWifiOptions netAddrPton (reset options netAddrPton).wifi
  let settled : Device config :=
    { reset options netAddrPton with
      sinksLock := true
      ledStarted := config.statusLedEnable && options.ledStrip
      uartStarted := true
      main := .wifiStart }
  have first : (machine options netAddrPton).exec (reset options netAddrPton)
      (List.replicate 4 (.main true)) = some settled := by
    simp [machine, step, stepMain, reset, settled, List.replicate]
  have second : (machine options netAddrPton).exec settled
      (calls.map fun made => .wifi (.main made)) = some { settled with wifi := finish } :=
    exec_wifi rfl called
  have third : ∃ device, (machine options netAddrPton).exec { settled with wifi := finish }
      (List.replicate 4 (.main true)) = some device ∧ device.main = .returned 0 := by
    cases enabled : config.tcpNmeaServerEnable <;>
      simp [machine, step, stepMain, settled, returned, enabled, List.replicate]
  obtain ⟨device, third, main⟩ := third
  refine ⟨List.replicate 4 (.main true) ++ ((calls.map fun made => .wifi (.main made)) ++
    List.replicate 4 (.main true)), device, ?_, main⟩
  rw [Machine.exec_append, first, Option.bind_some, Machine.exec_append, second, Option.bind_some]
  exact third

/-- Mutexes are used after their initialisation in every run, if and only if the server is
built or the web app is not: without the server nothing initialises `clients_lock`, which
the web app locks to count the server's clients.  No other use comes too early. -/
theorem locksReady_iff (options : DeviceOptions config)
    (netAddrPton : List Byte → Option NetInAddr) :
    ((∀ start finish actions, (machine options netAddrPton).init start →
        (machine options netAddrPton).exec start actions = some finish →
        ∀ entry ∈ (machine options netAddrPton).trail start actions,
          entry.1.LocksReady entry.2) ↔
      (config.tcpNmeaServerEnable = true ∨ options.webAppEnable = false)) ∧
    ∀ start finish actions, (machine options netAddrPton).init start →
      (machine options netAddrPton).exec start actions = some finish →
      ∀ entry ∈ (machine options netAddrPton).trail start actions,
        ¬ entry.1.LocksReady entry.2 → entry.2 = .telemetry ∧
          config.tcpNmeaServerEnable = false ∧ options.webAppEnable = true := by
  have onlyTelemetry : ∀ start finish actions, (machine options netAddrPton).init start →
      (machine options netAddrPton).exec start actions = some finish →
      ∀ entry ∈ (machine options netAddrPton).trail start actions,
        ¬ entry.1.LocksReady entry.2 → entry.2 = .telemetry ∧
          config.tcpNmeaServerEnable = false ∧ options.webAppEnable = true := by
    intro start finish actions initial run
    apply Machine.forall_mem_trail (fun device action => ¬ device.LocksReady action →
      action = .telemetry ∧ config.tcpNmeaServerEnable = false ∧ options.webAppEnable = true) run
    intro before device action next reached taken early
    have booted := booted_of_reachable ⟨start, before, initial, reached⟩
    simp only [LocksReady, not_forall] at early
    obtain ⟨lock, uses, unready⟩ := early
    exact ((locks_initialised booted taken uses).resolve_left unready).2
  refine ⟨⟨?_, ?_⟩, onlyTelemetry⟩
  · intro ready
    by_contra neither
    simp only [not_or, Bool.not_eq_true, Bool.not_eq_false] at neither
    obtain ⟨actions, device, run, main⟩ := exists_webStart options netAddrPton
    have booted := booted_of_reachable ⟨_, actions, reset_initial options netAddrPton, run⟩
    have web : device.webStarted = true := by rw [booted.webStarted, neither.2, main]; rfl
    have looks : (machine options netAddrPton).exec (reset options netAddrPton)
        (actions ++ [.telemetry]) = some device :=
      Machine.exec_concat_eq_some.mpr ⟨device, run, if_pos web⟩
    have locked := ready _ _ _ (reset_initial options netAddrPton) looks (device, .telemetry)
      (by rw [Machine.trail_concat _ run]; simp) .clients rfl
    rw [initialised, booted.clientsLock, booted.serverStarted, neither.1] at locked
    contradiction
  · intro either start finish actions initial run entry member
    by_contra early
    obtain ⟨_, unserved, web⟩ := onlyTelemetry start finish actions initial run entry member early
    rw [unserved, web] at either
    simp at either

end Device

end EspNmeaBridge
