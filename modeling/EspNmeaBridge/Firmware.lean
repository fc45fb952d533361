import EspNmeaBridge.Pipeline
import EspNmeaBridge.TcpNmeaClient
import EspNmeaBridge.TcpNmeaServer

/-!
# The firmware's threads

The pipeline together with the threads that run its sessions: the server thread,
one client thread per slot, and the outbound client.  Each of these owners runs one
session after another.  Descriptors are numbered in the order they are created, so
a descriptor is never issued twice.
-/

namespace EspNmeaBridge

open Library

/-- Who runs a session: a slot of the server, or (`none`) the outbound client. -/
abbrev Owner (config : Config) := Option (Fin config.tcpNmeaServerMaxClients)

/-- The state of all threads.  `nextFd` is the next descriptor to be issued. -/
structure Firmware (config : Config) where
  pipeline : Pipeline config (Owner config)
  clients : TcpNmeaServer.Clients config := fun _ => {}
  server : ServerPc config
  outbound : Outbound
  nextFd : Nat := 0

/-- Who takes the next step, and what the system calls in it return. -/
inductive FirmwareAction (config : Config) where
  | uart (ch : Byte) (sys : SysReturn)
  | dispatcher
  | server (sys : SysReturn)
  | client (i : Fin config.tcpNmeaServerMaxClients) (sys : SysReturn)
  | outbound (sys : SysReturn)
  deriving DecidableEq, Repr

namespace Pipeline

variable {config : Config} {ι : Type} [DecidableEq ι]

/-- A call of `tcp_nmea_session_run`; its locals are not yet written. -/
def startSession (pipeline : Pipeline config ι) (id : ι) (fd : Int) (sinkName : String)
    (sink : NmeaBridgeSink) : Pipeline config ι :=
  { pipeline with
    sessions := Function.update pipeline.sessions id { fd, sinkName := some sinkName, sink } }

end Pipeline

namespace Firmware

variable {config : Config}

def setClient (firmware : Firmware config) (i : Fin config.tcpNmeaServerMaxClients)
    (client : ClientSlot) : Firmware config :=
  { firmware with clients := Function.update firmware.clients i client }

/-- One step of `server_thread`. -/
def stepServer (firmware : Firmware config) (sys : SysReturn) : Option (Firmware config) :=
  match firmware.server with
  | .stopped => none
  | .socket => some { firmware with server := if sys.ret < 0 then .stopped else .bind }
  | .bind => some { firmware with server := if sys.ret < 0 then .closeListener else .listen }
  | .listen => some { firmware with server := if sys.ret < 0 then .closeListener else .accept }
  | .closeListener => some { firmware with server := .stopped }
  | .accept =>
      if sys.ret < 0 then some firmware
      else
        some { firmware with
          server := .allocClient firmware.nextFd
          nextFd := firmware.nextFd + 1 }
  | .allocClient fd =>
      match TcpNmeaServer.allocClient firmware.clients with
      | (clients, some i) => some { firmware with clients, server := .setFd i fd }
      | (clients, none) => some { firmware with clients, server := .reject fd }
  | .reject _ => some { firmware with server := .accept }
  | .setFd i fd =>
      some { firmware.setClient i { firmware.clients i with fd } with server := .createThread i }
  | .createThread i =>
      -- in a slot that is still in use, the new thread replaces the one running there
      some { firmware.setClient i { firmware.clients i with thread := some .enter } with
        server := .accept }

/-- A step of an owner's session. -/
def stepSession (firmware : Firmware config) (owner : Owner config) (sys : SysReturn) :
    Option (Firmware config) :=
  match firmware.pipeline.stepSession owner sys with
  | none => none
  | some pipeline => some { firmware with pipeline }

/-- One step of the `client_thread` that runs in a slot. -/
def stepClient (firmware : Firmware config) (i : Fin config.tcpNmeaServerMaxClients)
    (sys : SysReturn) : Option (Firmware config) :=
  let client := firmware.clients i
  match client.thread with
  | none => none
  | some .enter =>
      some { firmware.setClient i { client with thread := some .session } with
        pipeline :=
          firmware.pipeline.startSession (some i) client.fd "tcp-server-client" ⟨sys.ret⟩ }
  | some .session =>
      if (firmware.pipeline.sessions (some i)).pc = .returned then
        some (firmware.setClient i { client with thread := some .clearFd })
      else firmware.stepSession (some i) sys
  | some .clearFd =>
      some (firmware.setClient i { client with fd := -1, thread := some .closeFd })
  | some .closeFd =>
      some (firmware.setClient i
        { TcpNmeaServer.closeClientFd client with thread := some .clearActive })
  | some .clearActive =>
      some (firmware.setClient i { client with active := false, thread := some .logging })
  | some .logging => some (firmware.setClient i { client with thread := none })

/-- A status LED update by the outbound client. -/
def observe (firmware : Firmware config) (connecting : Bool) : Firmware config :=
  { firmware with
    pipeline.shared :=
      firmware.pipeline.shared.observe (StatusLed.tcpNmeaClientConnecting · connecting) }

/-- One step of the outbound `client_thread`.  Whether there is a host to connect to
is up to the environment. -/
def stepOutbound (firmware : Firmware config) (sys : SysReturn) : Option (Firmware config) :=
  match firmware.outbound.pc with
  | .stopped => none
  | .waitHost =>
      if sys.ret = 0 then some firmware
      else some { firmware with outbound.pc := .ledConnecting }
  | .ledConnecting => some { firmware.observe true with outbound.pc := .socket }
  | .socket =>
      if sys.ret < 0 then some { firmware with outbound.pc := .retryBackoff }
      else
        some { firmware with
          outbound.pc := .connect firmware.nextFd
          nextFd := firmware.nextFd + 1 }
  | .connect fd =>
      some { firmware with
        outbound.pc := if sys.ret < 0 then .closeFailed fd else .setNonblock fd }
  | .closeFailed _ => some { firmware with outbound.pc := .retryBackoff }
  | .setNonblock fd => some { firmware with outbound.pc := .ledConnected fd }
  | .ledConnected fd =>
      some { firmware.observe false with
        pipeline :=
          (firmware.observe false).pipeline.startSession none fd "tcp-nmea-client" ⟨sys.ret⟩
        outbound := { pc := .session, backoffS := 1 } }
  | .session =>
      if (firmware.pipeline.sessions none).pc = .returned then
        some { firmware with outbound.pc := .ledDisconnected }
      else firmware.stepSession none sys
  | .ledDisconnected => some { firmware.observe true with outbound.pc := .retryBackoff }
  | .retryBackoff =>
      some { firmware with outbound :=
        { pc := .waitHost, backoffS := Outbound.doubledBackoff firmware.outbound.backoffS } }

def step (firmware : Firmware config) : FirmwareAction config → Option (Firmware config)
  | .uart ch sys => some { firmware with pipeline := firmware.pipeline.stepUart ch sys }
  | .dispatcher =>
      match firmware.pipeline.step .dispatcher with
      | none => none
      | some pipeline => some { firmware with pipeline }
  | .server sys => firmware.stepServer sys
  | .client i sys => firmware.stepClient i sys
  | .outbound sys => firmware.stepOutbound sys

/-- A session step changes nothing but the pipeline. -/
theorem stepSession_cases {firmware next : Firmware config} {owner : Owner config}
    {sys : SysReturn} (taken : firmware.stepSession owner sys = some next) :
    ∃ pipeline, firmware.pipeline.stepSession owner sys = some pipeline ∧
      next = { firmware with pipeline } := by
  unfold stepSession at taken
  cases moved : firmware.pipeline.stepSession owner sys with
  | none => simp [moved] at taken
  | some pipeline =>
      simp only [moved, Option.some.injEq] at taken
      exact ⟨pipeline, rfl, taken.symm⟩

/-- So does a dispatcher step. -/
theorem step_dispatcher {firmware next : Firmware config}
    (taken : firmware.step .dispatcher = some next) :
    ∃ pipeline, firmware.pipeline.step .dispatcher = some pipeline ∧
      next = { firmware with pipeline } := by
  simp only [step] at taken
  cases moved : firmware.pipeline.step .dispatcher with
  | none => simp [moved] at taken
  | some pipeline =>
      simp only [moved, Option.some.injEq] at taken
      exact ⟨pipeline, rfl, taken.symm⟩

/-- What one step of the server thread does. -/
inductive ServerMoves (firmware : Firmware config) (sys : SysReturn) : Firmware config → Prop where
  | socket (server : firmware.server = .socket) :
      ServerMoves firmware sys
        { firmware with server := if sys.ret < 0 then .stopped else .bind }
  | bind (server : firmware.server = .bind) :
      ServerMoves firmware sys
        { firmware with server := if sys.ret < 0 then .closeListener else .listen }
  | listen (server : firmware.server = .listen) :
      ServerMoves firmware sys
        { firmware with server := if sys.ret < 0 then .closeListener else .accept }
  | closeListener (server : firmware.server = .closeListener) :
      ServerMoves firmware sys { firmware with server := .stopped }
  | acceptFails (server : firmware.server = .accept) (failed : sys.ret < 0) :
      ServerMoves firmware sys firmware
  | accepts (server : firmware.server = .accept) (accepted : ¬ sys.ret < 0) :
      ServerMoves firmware sys
        { firmware with
          server := .allocClient firmware.nextFd
          nextFd := firmware.nextFd + 1 }
  | allocates {fd : Int} {i : Fin config.tcpNmeaServerMaxClients}
      (server : firmware.server = .allocClient fd)
      (inactive : (firmware.clients i).active = false) :
      ServerMoves firmware sys
        { firmware with
          clients := Function.update firmware.clients i
            { firmware.clients i with fd := -1, active := true }
          server := .setFd i fd }
  | full {fd : Int} (server : firmware.server = .allocClient fd) :
      ServerMoves firmware sys { firmware with server := .reject fd }
  | reject {fd : Int} (server : firmware.server = .reject fd) :
      ServerMoves firmware sys { firmware with server := .accept }
  | setFd {fd : Int} {i : Fin config.tcpNmeaServerMaxClients}
      (server : firmware.server = .setFd i fd) :
      ServerMoves firmware sys
        { firmware.setClient i { firmware.clients i with fd } with server := .createThread i }
  | createThread {i : Fin config.tcpNmeaServerMaxClients}
      (server : firmware.server = .createThread i) :
      ServerMoves firmware sys
        { firmware.setClient i { firmware.clients i with thread := some .enter } with
          server := .accept }

theorem stepServer_moves {firmware next : Firmware config} {sys : SysReturn}
    (taken : firmware.stepServer sys = some next) : firmware.ServerMoves sys next := by
  cases server : firmware.server with
  | stopped => simp [stepServer, server] at taken
  | accept =>
      simp only [stepServer, server] at taken
      split at taken
      · next failed =>
          obtain rfl := Option.some.inj taken
          exact .acceptFails server failed
      · next accepted =>
          obtain rfl := Option.some.inj taken
          exact .accepts server accepted
  | allocClient fd =>
      rcases TcpNmeaServer.allocClient_cases firmware.clients with
        ⟨i, inactive, allocated⟩ | ⟨_, allocated⟩
      · simp only [stepServer, server, allocated, Option.some.injEq] at taken
        subst taken
        exact .allocates server inactive
      · simp only [stepServer, server, allocated, Option.some.injEq] at taken
        subst taken
        exact .full server
  | socket =>
      simp only [stepServer, server, Option.some.injEq] at taken
      subst taken
      exact .socket server
  | bind =>
      simp only [stepServer, server, Option.some.injEq] at taken
      subst taken
      exact .bind server
  | listen =>
      simp only [stepServer, server, Option.some.injEq] at taken
      subst taken
      exact .listen server
  | closeListener =>
      simp only [stepServer, server, Option.some.injEq] at taken
      subst taken
      exact .closeListener server
  | reject fd =>
      simp only [stepServer, server, Option.some.injEq] at taken
      subst taken
      exact .reject server
  | setFd i fd =>
      simp only [stepServer, server, Option.some.injEq] at taken
      subst taken
      exact .setFd server
  | createThread i =>
      simp only [stepServer, server, Option.some.injEq] at taken
      subst taken
      exact .createThread server

/-- The server thread touches only the slots, its own position and the descriptors. -/
theorem stepServer_others {firmware next : Firmware config} {sys : SysReturn}
    (taken : firmware.stepServer sys = some next) :
    next.pipeline = firmware.pipeline ∧ next.outbound = firmware.outbound ∧
      firmware.server ≠ .stopped := by
  cases stepServer_moves taken with
  | socket server | bind server | listen server | closeListener server | acceptFails server
  | accepts server | allocates server | full server | reject server | setFd server
  | createThread server =>
      exact ⟨rfl, rfl, by simp [server]⟩

/-- What one step of the thread in slot `i` does to the slot and to the pipeline. -/
inductive ClientMoves (i : Fin config.tcpNmeaServerMaxClients) (sys : SysReturn)
    (client : ClientSlot) (pipeline : Pipeline config (Owner config)) :
    ClientSlot → Pipeline config (Owner config) → Prop where
  | enter (thread : client.thread = some .enter) :
      ClientMoves i sys client pipeline { client with thread := some .session }
        (pipeline.startSession (some i) client.fd "tcp-server-client" ⟨sys.ret⟩)
  | session {next : Pipeline config (Owner config)} (thread : client.thread = some .session)
      (moved : pipeline.stepSession (some i) sys = some next) :
      ClientMoves i sys client pipeline client next
  | returned (thread : client.thread = some .session)
      (ended : (pipeline.sessions (some i)).pc = .returned) :
      ClientMoves i sys client pipeline { client with thread := some .clearFd } pipeline
  | clearFd (thread : client.thread = some .clearFd) :
      ClientMoves i sys client pipeline { client with fd := -1, thread := some .closeFd } pipeline
  | closeFd (thread : client.thread = some .closeFd) :
      ClientMoves i sys client pipeline
        { TcpNmeaServer.closeClientFd client with thread := some .clearActive } pipeline
  | clearActive (thread : client.thread = some .clearActive) :
      ClientMoves i sys client pipeline
        { client with active := false, thread := some .logging } pipeline
  | logging (thread : client.thread = some .logging) :
      ClientMoves i sys client pipeline { client with thread := none } pipeline

theorem stepClient_moves {firmware next : Firmware config}
    {i : Fin config.tcpNmeaServerMaxClients} {sys : SysReturn}
    (taken : firmware.stepClient i sys = some next) :
    ∃ client pipeline, ClientMoves i sys (firmware.clients i) firmware.pipeline client pipeline ∧
      next = { firmware.setClient i client with pipeline } := by
  cases thread : (firmware.clients i).thread with
  | none => simp [stepClient, thread] at taken
  | some pc =>
      cases pc with
      | session =>
          simp only [stepClient, thread] at taken
          split at taken
          · rename_i ended
            exact ⟨_, _, .returned thread ended, (Option.some.inj taken).symm⟩
          · obtain ⟨pipeline, moved, rfl⟩ := stepSession_cases taken
            refine ⟨firmware.clients i, pipeline, .session thread moved, ?_⟩
            simp [setClient]
      | enter =>
          simp only [stepClient, thread, Option.some.injEq] at taken
          exact ⟨_, _, .enter thread, taken.symm⟩
      | clearFd =>
          simp only [stepClient, thread, Option.some.injEq] at taken
          exact ⟨_, _, .clearFd thread, taken.symm⟩
      | closeFd =>
          simp only [stepClient, thread, Option.some.injEq] at taken
          exact ⟨_, _, .closeFd thread, taken.symm⟩
      | clearActive =>
          simp only [stepClient, thread, Option.some.injEq] at taken
          exact ⟨_, _, .clearActive thread, taken.symm⟩
      | logging =>
          simp only [stepClient, thread, Option.some.injEq] at taken
          exact ⟨_, _, .logging thread, taken.symm⟩

/-- What one step of the outbound client thread does to its own state and to the
pipeline. -/
inductive OutboundMoves (sys : SysReturn) (outbound : Outbound)
    (pipeline : Pipeline config (Owner config)) :
    Outbound → Pipeline config (Owner config) → Prop where
  | waits {outbound' : Outbound} {shared : SessionShared config}
      (before : outbound.pc ≠ .session) (after : outbound'.pc ≠ .session)
      (bridge : shared.bridge = pipeline.shared.bridge) :
      OutboundMoves sys outbound pipeline outbound' { pipeline with shared }
  | enter {fd : Int} {shared : SessionShared config} (pc : outbound.pc = .ledConnected fd)
      (bridge : shared.bridge = pipeline.shared.bridge) :
      OutboundMoves sys outbound pipeline { pc := .session, backoffS := 1 }
        ({ pipeline with shared }.startSession none fd "tcp-nmea-client" ⟨sys.ret⟩)
  | session {next : Pipeline config (Owner config)} (pc : outbound.pc = .session)
      (moved : pipeline.stepSession none sys = some next) :
      OutboundMoves sys outbound pipeline outbound next
  | returned (pc : outbound.pc = .session) (ended : (pipeline.sessions none).pc = .returned) :
      OutboundMoves sys outbound pipeline { outbound with pc := .ledDisconnected } pipeline

theorem stepOutbound_moves {firmware next : Firmware config} {sys : SysReturn}
    (taken : firmware.stepOutbound sys = some next) :
    ∃ outbound pipeline nextFd,
      OutboundMoves sys firmware.outbound firmware.pipeline outbound pipeline ∧
      next = { firmware with pipeline, outbound, nextFd } := by
  cases pc : firmware.outbound.pc with
  | stopped => simp [stepOutbound, pc] at taken
  | waitHost | socket =>
      simp only [stepOutbound, pc] at taken
      split at taken <;> obtain rfl := Option.some.inj taken <;>
        exact ⟨_, _, _, .waits (by simp [pc]) (by simp [pc]) rfl, rfl⟩
  | connect fd =>
      simp only [stepOutbound, pc, Option.some.injEq] at taken
      subst taken
      exact ⟨_, _, _, .waits (by simp [pc]) (by dsimp only; split <;> simp) rfl, rfl⟩
  | closeFailed fd | setNonblock fd | retryBackoff =>
      simp only [stepOutbound, pc, Option.some.injEq] at taken
      subst taken
      exact ⟨_, _, _, .waits (by simp [pc]) (by simp) rfl, rfl⟩
  | ledConnecting | ledDisconnected =>
      simp only [stepOutbound, pc, Option.some.injEq] at taken
      subst taken
      exact ⟨_, _, _, .waits (by simp [pc]) (by simp) (SessionShared.observe_bridge _ _), rfl⟩
  | ledConnected fd =>
      simp only [stepOutbound, pc, Option.some.injEq] at taken
      subst taken
      exact ⟨_, _, _, .enter pc (SessionShared.observe_bridge _ _), rfl⟩
  | session =>
      simp only [stepOutbound, pc] at taken
      split at taken
      · rename_i ended
        obtain rfl := Option.some.inj taken
        exact ⟨_, _, _, .returned pc ended, rfl⟩
      · obtain ⟨pipeline, moved, rfl⟩ := stepSession_cases taken
        exact ⟨_, _, _, .session pc moved, rfl⟩

/-- After start-up: the threads of the enabled parts have been created. -/
def Initial (firmware : Firmware config) : Prop :=
  ∃ pipeline : Pipeline config (Owner config), pipeline.Initial ∧ firmware = {
    pipeline
    server := if config.tcpNmeaServerEnable then .socket else .stopped
    outbound := { pc := if config.tcpNmeaClientEnable then .waitHost else .stopped } }

def machine (config : Config) : Machine (Firmware config) (FirmwareAction config) where
  init := Initial
  step := step

end Firmware

end EspNmeaBridge
