import EspNmeaBridge.Firmware.SessionCounts
import EspNmeaBridge.Pipeline.Uninterrupted

/-!
# Coming to rest

From every reachable state there is a way for all sessions to end and for the queues to be
read: no thread can get stuck, and no slot, sink or count stays behind.  The way is the one
in which every peer is gone, so each system call fails.
-/

namespace EspNmeaBridge

open Library

variable {config : Config}

/-- What a call on a lost connection returns. -/
def gone : SysReturn where
  ret := -1
  errno := .other 104

namespace SessionPc

/-- The steps that a session whose peer is gone still takes, at most. -/
def remaining : SessionPc config → Nat
  | .sinkOpen => 14
  | .incActive => 13
  | .ledStarted => 12
  | .takeCheck => 11
  | .takeGet _ => 10
  | .takeCount _ _ => 9
  | .send _ _ => 8
  | .ledForwarded => 7
  | .drain | .drainAfter => 6
  | .ledSendFailed => 5
  | .ledEnded => 4
  | .decActive => 3
  | .sinkClose => 2
  | .closeFd | .closeUnopened => 1
  | .returned => 0

end SessionPc

namespace TcpNmeaSession

variable {shared shared' : SessionShared config} {session session' : TcpNmeaSession config}

/-- Sending fails, or there is nothing left to send. -/
theorem sendAll_gone (session : TcpNmeaSession config) (frame : NmeaFrame config)
    (sentTotal : Nat) :
    session.sendAll frame sentTotal gone = some (if sentTotal < frame.data.length then
      { session with result := .sendFailed, pc := .ledSendFailed }
      else { session with pc := .ledForwarded }) := by
  have negative : ¬ gone.ret > (frame.data.length - sentTotal : Nat) := by
    simp only [gone]
    omega
  simp only [sendAll, if_neg negative]
  split <;> rfl

/-- A session whose peer is gone gets closer to its end with every step. -/
theorem step_gone_remaining (taken : session.step shared gone = some (shared', session')) :
    session'.pc.remaining < session.pc.remaining := by
  cases pc : session.pc with
  | returned => simp [step, pc] at taken
  | sinkOpen =>
      rcases step_sinkOpen pc taken with ⟨j, _, _, rfl⟩ | ⟨_, _, rfl⟩ <;>
        simp [SessionPc.remaining]
  | takeCheck =>
      rcases step_takeCheck pc taken with ⟨_, ⟨slot, _, rfl⟩ | rfl | rfl⟩ <;>
        simp [SessionPc.remaining]
  | takeGet slot =>
      rcases step_takeGet pc taken with ⟨frame, msgq, _, _, rfl⟩ | ⟨_, rfl⟩ <;>
        simp [SessionPc.remaining]
  | send frame sentTotal =>
      obtain ⟨_, sent⟩ := step_send pc taken
      rw [sendAll_gone, Option.some.injEq] at sent
      rw [← sent]
      split <;> simp [SessionPc.remaining]
  | sinkClose =>
      rcases step_sinkClose pc taken with ⟨j, _, _, rfl⟩ | ⟨_, _, rfl⟩ <;>
        simp [SessionPc.remaining]
  | drain | drainAfter =>
      simp only [step, pc, Option.some.injEq, Prod.mk.injEq] at taken
      rw [← taken.2]
      simp [drainSocketRx, gone, Errno.wouldBlock, SessionPc.remaining]
  | closeUnopened | incActive | ledStarted | takeCount slot frame | ledSendFailed | ledForwarded
  | ledEnded | decActive | closeFd =>
      simp only [step, pc, Option.some.injEq, Prod.mk.injEq] at taken
      rw [← taken.2]
      simp [SessionPc.remaining]

end TcpNmeaSession

namespace Pipeline

variable {ι : Type} [DecidableEq ι] {pipeline next : Pipeline config ι} {id : ι}

/-- It changes neither the dispatcher nor what there is for it to do. -/
theorem stepSession_gone (taken : pipeline.stepSession id gone = some next) :
    next.dispatcher = pipeline.dispatcher ∧
      next.shared.bridge.ingestMsgq = pipeline.shared.bridge.ingestMsgq ∧
      (next.sessions id).pc.remaining < (pipeline.sessions id).pc.remaining := by
  obtain ⟨shared, session, moved, rfl⟩ := stepSession_cases taken
  refine ⟨rfl, (TcpNmeaSession.step_queues moved).1, ?_⟩
  simpa using TcpNmeaSession.step_gone_remaining moved

end Pipeline

namespace ServerPc

/-- The steps of the server thread until it waits for a connection or has given up. -/
def remaining : ServerPc config → Nat
  | .stopped | .accept => 0
  | .socket | .closeListener | .reject _ | .createThread _ => 1
  | .bind | .listen | .setFd _ _ => 2
  | .allocClient _ => 3

end ServerPc

namespace ClientPc

/-- The steps of a client thread outside its session. -/
def remaining : ClientPc → Nat
  | .enter => 20
  | .session => 5
  | .clearFd => 4
  | .closeFd => 3
  | .clearActive => 2
  | .logging => 1

end ClientPc

namespace OutboundPc

/-- The steps of the outbound client outside its session, until it waits for a host. -/
def remaining : OutboundPc → Nat
  | .stopped | .waitHost => 0
  | .retryBackoff => 1
  | .closeFailed _ | .ledDisconnected => 2
  | .connect _ => 3
  | .socket => 4
  | .ledConnecting => 5
  | .session => 3
  | .ledConnected _ => 20
  | .setNonblock _ => 21

end OutboundPc

namespace Firmware

variable {firmware : Firmware config}

/-- The server thread waits for a connection, or has given up. -/
def ServerRests (firmware : Firmware config) : Prop :=
  firmware.server = .accept ∨ firmware.server = .stopped

/-- The dispatcher waits and there is nothing for it to do. -/
def DispatcherRests (firmware : Firmware config) : Prop :=
  firmware.pipeline.dispatcher = .waiting ∧ firmware.pipeline.shared.bridge.ingestMsgq.items = []

/-- The outbound client waits for a host, or there is none. -/
def OutboundRests (firmware : Firmware config) : Prop :=
  firmware.outbound.pc = .waitHost ∨ firmware.outbound.pc = .stopped

/-- Only at the beginning of a pass is a frame taken. -/
theorem stepDispatcher_ingest {bridge next : NmeaBridge config} {pc nextPc : DispatcherPc config}
    (busy : pc ≠ .waiting) (taken : bridge.stepDispatcher pc = some (next, nextPc)) :
    next.ingestMsgq = bridge.ingestMsgq := by
  cases NmeaBridge.stepDispatcher_cases taken with
  | takes => exact absurd rfl busy
  | locks | endsUnsent | ends | skips | calls | operates | returns | accounts => rfl

/-- The steps of the thread in a slot, until it has returned. -/
def clientRemaining (firmware : Firmware config) (i : Fin config.tcpNmeaServerMaxClients) : Nat :=
  match (firmware.clients i).thread with
  | none => 0
  | some .session =>
      ClientPc.session.remaining + (firmware.pipeline.sessions (some i)).pc.remaining
  | some pc => pc.remaining

/-- What the thread in slot `i` leaves as it is when the dispatcher rests. -/
structure OnlyClient (start : Firmware config) (i : Fin config.tcpNmeaServerMaxClients)
    (firmware : Firmware config) : Prop where
  dispatcher : firmware.DispatcherRests
  server : firmware.server = start.server
  outbound : firmware.outbound = start.outbound
  others : ∀ j, j ≠ i → firmware.clients j = start.clients j

theorem OnlyClient.step {start next : Firmware config} {i : Fin config.tcpNmeaServerMaxClients}
    (only : OnlyClient start i firmware) (taken : firmware.stepClient i gone = some next) :
    OnlyClient start i next ∧ next.clientRemaining i < firmware.clientRemaining i := by
  obtain ⟨⟨waiting, empty⟩, server, outbound, others⟩ := only
  obtain ⟨client, pipeline, moves, rfl⟩ := stepClient_moves taken
  have kept : ∀ j, j ≠ i → Function.update firmware.clients i client j = start.clients j := by
    intro j other
    rw [Function.update_of_ne other]
    exact others j other
  cases moves with
  | session thread moved =>
      obtain ⟨dispatcher, ingest, fewer⟩ := Pipeline.stepSession_gone moved
      constructor
      · exact ⟨⟨dispatcher.trans waiting, by rw [← empty, ← ingest]⟩, server, outbound, kept⟩
      · simpa [clientRemaining, setClient, thread] using fewer
  | enter thread =>
      constructor
      · exact ⟨⟨waiting, empty⟩, server, outbound, kept⟩
      · simp [clientRemaining, setClient, thread, ClientPc.remaining, Pipeline.startSession,
          SessionPc.remaining]
  | returned thread ended =>
      constructor
      · exact ⟨⟨waiting, empty⟩, server, outbound, kept⟩
      · simp only [clientRemaining, setClient, thread, ClientPc.remaining, Function.update_self]
        omega
  | clearFd thread | closeFd thread | clearActive thread | logging thread =>
      constructor
      · exact ⟨⟨waiting, empty⟩, server, outbound, kept⟩
      · simp [clientRemaining, setClient, thread, ClientPc.remaining]

/-- The steps of the outbound client until it waits for a host. -/
def outboundRemaining (firmware : Firmware config) : Nat :=
  match firmware.outbound.pc with
  | .session => OutboundPc.session.remaining + (firmware.pipeline.sessions none).pc.remaining
  | pc => pc.remaining

/-- What the outbound client leaves as it is when the dispatcher rests. -/
structure OnlyOutbound (start firmware : Firmware config) : Prop where
  dispatcher : firmware.DispatcherRests
  server : firmware.server = start.server
  clients : firmware.clients = start.clients

theorem OnlyOutbound.step {start next : Firmware config} (only : OnlyOutbound start firmware)
    (busy : ¬ firmware.OutboundRests) (taken : firmware.stepOutbound gone = some next) :
    OnlyOutbound start next ∧ next.outboundRemaining < firmware.outboundRemaining := by
  obtain ⟨⟨waiting, empty⟩, server, clients⟩ := only
  have failed : gone.ret < 0 := by decide
  cases pc : firmware.outbound.pc with
  | stopped => exact absurd (.inr pc) busy
  | waitHost => exact absurd (.inl pc) busy
  | session =>
      simp only [stepOutbound, pc] at taken
      split at taken
      · cases taken
        constructor
        · exact ⟨⟨waiting, empty⟩, server, clients⟩
        · simp only [outboundRemaining, pc, OutboundPc.remaining]
          omega
      · obtain ⟨pipeline, moved, rfl⟩ := stepSession_cases taken
        obtain ⟨dispatcher, ingest, fewer⟩ := Pipeline.stepSession_gone moved
        constructor
        · exact ⟨⟨dispatcher.trans waiting, by rw [← empty, ← ingest]⟩, server, clients⟩
        · simpa [outboundRemaining, pc] using fewer
  | socket | connect fd =>
      simp only [stepOutbound, pc, failed, if_true, Option.some.injEq] at taken
      subst taken
      constructor
      · exact ⟨⟨waiting, empty⟩, server, clients⟩
      · simp [outboundRemaining, pc, OutboundPc.remaining]
  | ledConnecting | ledDisconnected | ledConnected fd =>
      simp only [stepOutbound, pc, Option.some.injEq] at taken
      subst taken
      constructor
      · exact ⟨⟨waiting, by simpa [observe, Pipeline.startSession] using empty⟩, server, clients⟩
      · simp [outboundRemaining, pc, OutboundPc.remaining, Pipeline.startSession,
          SessionPc.remaining]
  | closeFailed fd | setNonblock fd | retryBackoff =>
      simp only [stepOutbound, pc, Option.some.injEq] at taken
      subst taken
      constructor
      · exact ⟨⟨waiting, empty⟩, server, clients⟩
      · simp [outboundRemaining, pc, OutboundPc.remaining]

/-- An active slot is one that a thread runs in, or that the server thread is about to
create one for. -/
def SlotsUsed (firmware : Firmware config) : Prop :=
  ∀ i, (firmware.clients i).active = true →
    (∃ pc, (firmware.clients i).thread = some pc ∧ pc ≠ .logging) ∨ Reserves firmware.server i

theorem SlotsUsed.stepServer {sys : SysReturn} {next : Firmware config}
    (used : firmware.SlotsUsed) (taken : firmware.stepServer sys = some next) :
    next.SlotsUsed := by
  have unreserved : (∀ i, ¬ Reserves firmware.server i) → ∀ i,
      (firmware.clients i).active = true →
        ∃ pc, (firmware.clients i).thread = some pc ∧ pc ≠ .logging :=
    fun none i active => (used i active).resolve_right (none i)
  cases stepServer_moves taken with
  | @allocates fd i server inactive =>
      intro j active
      by_cases same : j = i
      · exact .inr (same ▸ .inl ⟨fd, rfl⟩)
      · left
        simp only [Function.update_of_ne same] at active ⊢
        exact unreserved (by simp [Reserves, server]) j active
  | @setFd fd i server =>
      intro j active
      by_cases same : j = i
      · exact .inr (same ▸ .inr rfl)
      · left
        simp only [setClient, Function.update_of_ne same] at active ⊢
        apply (used j active).resolve_right
        simpa [Reserves, server] using fun equal => same equal.symm
  | @createThread i server =>
      intro j active
      left
      by_cases same : j = i
      · subst same
        exact ⟨.enter, by simp [setClient], by simp⟩
      · simp only [setClient, Function.update_of_ne same] at active ⊢
        apply (used j active).resolve_right
        simpa [Reserves, server] using fun equal => same equal.symm
  | acceptFails server => exact used
  | socket server | bind server | listen server | closeListener server | accepts server
  | full server | reject server =>
      intro j active
      exact .inl (unreserved (by simp [Reserves, server]) j active)

theorem SlotsUsed.stepClient {i : Fin config.tcpNmeaServerMaxClients} {sys : SysReturn}
    {next : Firmware config} (used : firmware.SlotsUsed)
    (taken : firmware.stepClient i sys = some next) : next.SlotsUsed := by
  obtain ⟨client, pipeline, moves, rfl⟩ := stepClient_moves taken
  intro j active
  by_cases same : j = i
  · subst same
    simp only [setClient, Function.update_self] at active ⊢
    cases moves with
    | session thread moved => exact used j active
    | clearActive thread => contradiction
    | logging thread =>
        right
        apply (used j active).resolve_left
        rintro ⟨pc, running, early⟩
        rw [thread, Option.some.injEq] at running
        exact early running.symm
    | enter thread | returned thread ended | clearFd thread | closeFd thread =>
        exact .inl ⟨_, rfl, by simp⟩
  · simp only [setClient, Function.update_of_ne same] at active ⊢
    exact used j active

theorem slotsUsed (reachable : (machine config).Reachable firmware) : firmware.SlotsUsed := by
  apply Machine.Reachable.invariant SlotsUsed _ _ reachable
  · rintro firmware ⟨pipeline, _, rfl⟩ i active
    contradiction
  · intro firmware action next used taken
    cases action with
    | uart ch sys =>
        obtain rfl := Option.some.inj taken
        exact used
    | dispatcher =>
        obtain ⟨pipeline, _, rfl⟩ := step_dispatcher taken
        exact used
    | server sys => exact used.stepServer taken
    | client i sys => exact used.stepClient taken
    | outbound sys =>
        obtain ⟨outbound, pipeline, nextFd, _, rfl⟩ := stepOutbound_moves taken
        exact used

/-- Exactly the slots with a thread before the end of `close_client`, and the one that the
server thread is about to create a thread for, are active: none is given away twice, and
none is lost. -/
theorem slotActive_iff (reachable : (machine config).Reachable firmware)
    (i : Fin config.tcpNmeaServerMaxClients) :
    (firmware.clients i).active = true ↔
      (∃ pc, (firmware.clients i).thread = some pc ∧ pc ≠ .logging) ∨
        Reserves firmware.server i := by
  obtain ⟨kept, _⟩ := reachable_covered reachable
  constructor
  · exact slotsUsed reachable i
  · rintro (⟨pc, running, early⟩ | reserves)
    · exact (kept.running i pc running).resolve_right early
    · exact (kept.reserved i reserves).1

theorem slotActive_iff_reconnectAtOnce :
    ∃ firmware, (machine Config.committed).exec atStart reconnectAtOnce = some firmware ∧
      ((firmware.clients 0).active = true ↔
        (∃ pc, (firmware.clients 0).thread = some pc ∧ pc ≠ .logging) ∨
          Reserves firmware.server 0) := by
  have shown : ((machine Config.committed).exec atStart reconnectAtOnce).isSome = true := by decide
  obtain ⟨firmware, run⟩ := Option.isSome_iff_exists.mp shown
  exact ⟨firmware, run, slotActive_iff ⟨atStart, reconnectAtOnce, ⟨_, ⟨_, _, _, rfl⟩, rfl⟩, run⟩ 0⟩

/-- Nothing is going on: no session, no thread of a client, nothing to dispatch. -/
structure AtRest (firmware : Firmware config) : Prop where
  server : firmware.ServerRests
  dispatcher : firmware.DispatcherRests
  clients : ∀ i, (firmware.clients i).thread = none
  outbound : firmware.OutboundRests

/-- Nothing is held: no slot, no sink, and no session is counted. -/
structure Released (firmware : Firmware config) : Prop where
  slots : ∀ i, (firmware.clients i).active = false
  sinks : ∀ j, (firmware.pipeline.shared.bridge.sinks j).active = false
  activeSessions : firmware.pipeline.shared.activeSessions = 0
  activeTcpNmeaSessions : config.statusLedEnable = true →
    firmware.pipeline.shared.statusLed.activeTcpNmeaSessions = 0

/-- What nobody uses is not held. -/
theorem AtRest.released (rests : firmware.AtRest)
    (reachable : (machine config).Reachable firmware) : firmware.Released := by
  obtain ⟨_, _, covered⟩ := reachable_covered reachable
  have outside : ∀ owner, ¬ firmware.InSession owner := by
    intro owner inSession
    cases owner with
    | none =>
        rcases rests.outbound with pc | pc <;>
          exact absurd (inSession.symm.trans pc) (by simp)
    | some i => exact absurd (inSession.symm.trans (rests.clients i)) (by simp)
  have unheld : ∀ owner, (firmware.pipeline.sessions owner).pc.holdsSink = false := by
    intro owner
    rw [← Bool.not_eq_true]
    exact fun holds => outside owner (covered.running owner holds)
  have uncounted : ∀ owner, (firmware.pipeline.sessions owner).pc.countedActive = false := by
    intro owner
    rw [← Bool.not_eq_true]
    intro counted
    have holds := SessionPc.holdsSink_of_active counted
    rw [unheld owner] at holds
    contradiction
  constructor
  · intro i
    rw [← Bool.not_eq_true]
    intro active
    rcases slotsUsed reachable i active with ⟨pc, running, _⟩ | reserved
    · rw [rests.clients i] at running
      contradiction
    · rcases rests.server with server | server <;>
        simp [Reserves, server] at reserved
  · intro j
    rw [← Bool.not_eq_true]
    intro active
    obtain ⟨owner, owns⟩ := (covered.owned.exclusive.busy_iff j).mp active
    rw [TcpNmeaSession.ownedSink_eq_none (unheld owner)] at owns
    contradiction
  · have none : firmware.pipeline.sessionsAt SessionPc.countedActive = 0 :=
      tally_eq_zero uncounted
    rw [(sessionsCounted reachable).active, none]
    rfl
  · intro enabled
    have none : firmware.pipeline.sessionsAt SessionPc.countedLed = 0 := by
      apply tally_eq_zero
      intro owner
      rw [← Bool.not_eq_true]
      intro counted
      have active := SessionPc.countedActive_of_led counted
      rw [uncounted owner] at active
      contradiction
    rw [(sessionsCounted reachable).led enabled, none]
    rfl

end Firmware

end EspNmeaBridge
