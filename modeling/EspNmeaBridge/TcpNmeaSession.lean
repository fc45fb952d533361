import EspNmeaBridge.NmeaBridge
import EspNmeaBridge.StatusLed.Policy

/-!
# TCP NMEA sessions

`tcp_nmea_session_run` step by step, between the points where other threads can
run: each access to shared state and each socket call is a step of its own.  What
a socket call returns is chosen by the environment.
-/

namespace EspNmeaBridge

open Library

/-- `enum tcp_nmea_session_result` -/
inductive TcpNmeaSessionResult where
  | peerClosed
  | sendFailed
  | sinkUnavailable
  | rxFailed
  deriving DecidableEq, Repr

/-- `struct tcp_nmea_session_stats` -/
structure TcpNmeaSessionStats where
  activeSessions : UInt32
  deriving DecidableEq, Repr

/-- Positions inside `tcp_nmea_session_run` and the functions it calls. -/
inductive SessionPc (config : Config) where
  | sinkOpen
  | closeUnopened
  | incActive
  | ledStarted
  | drain
  | takeCheck
  | takeGet (slot : Fin config.nmeaSinksMax)
  | takeCount (slot : Fin config.nmeaSinksMax) (frame : NmeaFrame config)
  | send (frame : NmeaFrame config) (sentTotal : Nat)
  | ledSendFailed
  | ledForwarded
  | drainAfter
  | ledEnded
  | decActive
  | sinkClose
  | closeFd
  | returned
  deriving DecidableEq, Repr

/-- One execution of `tcp_nmea_session_run`: its arguments and locals, and the
bytes its socket has accepted so far. -/
structure TcpNmeaSession (config : Config) where
  fd : Int
  sinkName : Option String
  pc : SessionPc config := .sinkOpen
  result : TcpNmeaSessionResult := .peerClosed
  sink : NmeaBridgeSink
  accepted : List Byte := []
  deriving DecidableEq, Repr

/-- The variables sessions share: those of the bridge, `active_sessions`, and the
state behind the status LED functions. -/
structure SessionShared (config : Config) where
  bridge : NmeaBridge config := {}
  activeSessions : UInt32 := 0
  statusLed : StatusLedPolicyState := {}

/-- What a system call made in a step returns, with `errno`, and the clock if the
step reads it. -/
structure SysReturn where
  ret : Int := 0
  errno : Errno := .eagain
  nowMs : UInt32 := 0
  deriving DecidableEq, Repr

namespace SessionShared

variable {config : Config}

/-- The functions of `status_led.h`: an update of the policy state under its lock,
or nothing when the observer is not built. -/
def observe (shared : SessionShared config)
    (update : StatusLedPolicyState → StatusLedPolicyState) : SessionShared config :=
  if config.statusLedEnable then { shared with statusLed := update shared.statusLed } else shared

/-- `tcp_nmea_session_get_stats` -/
def getStats (shared : SessionShared config) : TcpNmeaSessionStats where
  activeSessions := shared.activeSessions

@[simp] theorem observe_bridge (shared : SessionShared config)
    (update : StatusLedPolicyState → StatusLedPolicyState) :
    (shared.observe update).bridge = shared.bridge := by
  unfold observe
  split <;> rfl

@[simp] theorem observe_activeSessions (shared : SessionShared config)
    (update : StatusLedPolicyState → StatusLedPolicyState) :
    (shared.observe update).activeSessions = shared.activeSessions := by
  unfold observe
  split <;> rfl

/-- An update of something else leaves the count of sessions alone. -/
theorem observe_activeTcpNmeaSessions (shared : SessionShared config)
    {update : StatusLedPolicyState → StatusLedPolicyState}
    (same : ∀ state, (update state).activeTcpNmeaSessions = state.activeTcpNmeaSessions) :
    (shared.observe update).statusLed.activeTcpNmeaSessions =
      shared.statusLed.activeTcpNmeaSessions := by
  unfold observe
  split
  · exact same shared.statusLed
  · rfl

end SessionShared

/-- `EAGAIN` or `EWOULDBLOCK` -/
def Errno.wouldBlock (errno : Errno) : Bool := errno = .eagain || errno = .ewouldblock

/-- Nothing but the head has been taken from the slot's queue. -/
structure SinkSlot.Reads {config : Config} (slot next : SinkSlot config) : Prop where
  items : next.msgq = slot.msgq ∨ ∃ frame, slot.msgq.items = frame :: next.msgq.items
  dropped : next.stats.droppedOldest = slot.stats.droppedOldest

theorem SinkSlot.Reads.same {config : Config} {slot next : SinkSlot config}
    (equal : next = slot) : slot.Reads next := by
  subst equal
  exact ⟨.inl rfl, rfl⟩

namespace TcpNmeaSession

variable {config : Config}

/-- One pass of the loop of `drain_socket_rx`, which returns to `continuation` when
there is nothing left to read. -/
def drainSocketRx (session : TcpNmeaSession config) (continuation : SessionPc config)
    (recv : SysReturn) : TcpNmeaSession config :=
  if recv.ret > 0 then session
  else if recv.ret = 0 then { session with result := .peerClosed, pc := .ledEnded }
  else if recv.errno.wouldBlock then { session with pc := continuation }
  else { session with result := .rxFailed, pc := .ledEnded }

/-- One pass of the loop of `send_all`.  A positive return means that the socket
accepted that many of the bytes offered, so it cannot exceed their number. -/
def sendAll (session : TcpNmeaSession config) (frame : NmeaFrame config) (sentTotal : Nat)
    (send : SysReturn) : Option (TcpNmeaSession config) :=
  if sentTotal < frame.data.length then
    if send.ret > (frame.data.length - sentTotal : Nat) then none
    else if send.ret > 0 then
      some { session with
        accepted := session.accepted ++ (frame.data.drop sentTotal).take send.ret.toNat
        pc := .send frame (sentTotal + send.ret.toNat) }
    else if send.ret < 0 && (send.errno.wouldBlock || send.errno = .eintr) then some session
    else some { session with result := .sendFailed, pc := .ledSendFailed }
  else some { session with pc := .ledForwarded }

/-- The next step of `tcp_nmea_session_run`. -/
def step (shared : SessionShared config) (session : TcpNmeaSession config) (sys : SysReturn) :
    Option (SessionShared config × TcpNmeaSession config) :=
  match session.pc with
  | .sinkOpen =>
      match shared.bridge.sinkOpen (some session.sink) session.sinkName with
      | (bridge, sink, result) =>
          some ({ shared with bridge }, { session with
            sink := sink.getD session.sink
            pc := if result = .ok () then .incActive else .closeUnopened })
  | .closeUnopened => some (shared, { session with result := .sinkUnavailable, pc := .returned })
  | .incActive =>
      some ({ shared with activeSessions := shared.activeSessions + 1 },
        { session with pc := .ledStarted })
  | .ledStarted =>
      some (shared.observe StatusLed.tcpNmeaSessionStarted, { session with pc := .drain })
  | .drain => some (shared, session.drainSocketRx .takeCheck sys)
  | .takeCheck =>
      match shared.bridge.takeCheck session.sink with
      | .ok slot => some (shared, { session with pc := .takeGet slot })
      | .error errno =>
          some (shared, { session with pc := if errno = .enotconn then .ledEnded else .drain })
  | .takeGet slot =>
      match shared.bridge.takeGet slot .wait with
      | none => none
      | some (bridge, .ok frame) =>
          some ({ shared with bridge }, { session with pc := .takeCount slot frame })
      | some (bridge, .error errno) =>
          some ({ shared with bridge },
            { session with pc := if errno = .enotconn then .ledEnded else .drain })
  | .takeCount slot frame =>
      some ({ shared with bridge := shared.bridge.takeCount slot },
        { session with pc := .send frame 0 })
  | .send frame sentTotal =>
      match session.sendAll frame sentTotal sys with
      | none => none
      | some session => some (shared, session)
  | .ledSendFailed =>
      some (shared.observe (StatusLed.nmeaSendFailed · sys.nowMs), { session with pc := .ledEnded })
  | .ledForwarded =>
      some (shared.observe (StatusLed.nmeaFrameForwarded · sys.nowMs),
        { session with pc := .drainAfter })
  | .drainAfter => some (shared, session.drainSocketRx .drain sys)
  | .ledEnded =>
      some (shared.observe StatusLed.tcpNmeaSessionEnded, { session with pc := .decActive })
  | .decActive =>
      some ({ shared with activeSessions := shared.activeSessions - 1 },
        { session with pc := .sinkClose })
  | .sinkClose =>
      match shared.bridge.sinkClose (some session.sink) with
      | (bridge, sink) =>
          some ({ shared with bridge },
            { session with sink := sink.getD session.sink, pc := .closeFd })
  | .closeFd => some (shared, { session with pc := .returned })
  | .returned => none

/-- The step takes `sinks_lock`. -/
def needsSinksLock (session : TcpNmeaSession config) : Bool :=
  match session.pc with
  | .sinkOpen | .takeCheck | .sinkClose => true
  | _ => false

section Steps

variable {shared shared' : SessionShared config} {session session' : TcpNmeaSession config}
  {sys : SysReturn}

theorem step_sinkOpen (pc : session.pc = .sinkOpen)
    (taken : session.step shared sys = some (shared', session')) :
    (∃ i, shared.bridge.freeSlot = some i ∧
      shared' = { shared with
        bridge := shared.bridge.setSlot i { active := true, name := session.sinkName } } ∧
      session' = { session with sink := ⟨i.val⟩, pc := .incActive }) ∨
    (shared.bridge.freeSlot = none ∧ shared' = shared ∧
      session' = { session with sink := ⟨-1⟩, pc := .closeUnopened }) := by
  simp only [step, pc, NmeaBridge.sinkOpen] at taken
  cases free : shared.bridge.freeSlot with
  | some i =>
      simp only [free, Option.getD_some, if_true, Option.some.injEq, Prod.mk.injEq] at taken
      exact Or.inl ⟨i, rfl, taken.1.symm, taken.2.symm⟩
  | none =>
      simp only [free, Option.getD_some, reduceCtorEq, if_false, Option.some.injEq,
        Prod.mk.injEq] at taken
      exact Or.inr ⟨rfl, taken.1.symm, taken.2.symm⟩

/-- Past the check, the slot to read is the active one the handle names. -/
theorem step_takeCheck (pc : session.pc = .takeCheck)
    (taken : session.step shared sys = some (shared', session')) :
    shared' = shared ∧
      ((∃ slot, shared.bridge.takeCheck session.sink = .ok slot ∧
        session' = { session with pc := .takeGet slot }) ∨
      session' = { session with pc := .ledEnded } ∨ session' = { session with pc := .drain }) := by
  simp only [step, pc] at taken
  cases checked : shared.bridge.takeCheck session.sink with
  | ok slot =>
      simp only [checked, Option.some.injEq, Prod.mk.injEq] at taken
      exact ⟨taken.1.symm, Or.inl ⟨slot, rfl, taken.2.symm⟩⟩
  | error errno =>
      simp only [checked, Option.some.injEq, Prod.mk.injEq] at taken
      refine ⟨taken.1.symm, Or.inr ?_⟩
      rw [← taken.2]
      by_cases missing : errno = .enotconn <;> simp [missing]

/-- The session takes the head of the slot's queue, or finds it empty. -/
theorem step_takeGet {slot : Fin config.nmeaSinksMax} (pc : session.pc = .takeGet slot)
    (taken : session.step shared sys = some (shared', session')) :
    (∃ frame msgq, (shared.bridge.sinks slot).msgq.items = frame :: msgq.items ∧
      shared' = { shared with
        bridge := shared.bridge.setSlot slot { shared.bridge.sinks slot with msgq } } ∧
      session' = { session with pc := .takeCount slot frame }) ∨
    (shared' = shared ∧ session' = { session with pc := .drain }) := by
  simp only [step, pc] at taken
  cases got : shared.bridge.takeGet slot .wait with
  | none => simp [got] at taken
  | some outcome =>
      rcases outcome with ⟨bridge, answer⟩
      rcases NmeaBridge.takeGet_cases got with ⟨frame, msgq, head, rfl, rfl⟩ | ⟨_, errno, rfl⟩
      · simp only [got, Option.some.injEq, Prod.mk.injEq] at taken
        exact Or.inl ⟨frame, msgq, head, taken.1.symm, taken.2.symm⟩
      · rcases errno with rfl | rfl
        all_goals
          simp only [got, reduceCtorEq, if_false, Option.some.injEq, Prod.mk.injEq] at taken
          exact Or.inr ⟨taken.1.symm, taken.2.symm⟩

theorem step_send {frame : NmeaFrame config} {sentTotal : Nat}
    (pc : session.pc = .send frame sentTotal)
    (taken : session.step shared sys = some (shared', session')) :
    shared' = shared ∧ session.sendAll frame sentTotal sys = some session' := by
  simp only [step, pc] at taken
  cases sent : session.sendAll frame sentTotal sys with
  | none => simp [sent] at taken
  | some next =>
      simp only [sent, Option.some.injEq, Prod.mk.injEq] at taken
      exact ⟨taken.1.symm, taken.2 ▸ rfl⟩

/-- Closing releases the slot the handle names, if it names one. -/
theorem step_sinkClose (pc : session.pc = .sinkClose)
    (taken : session.step shared sys = some (shared', session')) :
    (∃ i, NmeaBridge.slotOf session.sink.id = some i ∧
      shared' = { shared with
        bridge := shared.bridge.setSlot i
          { shared.bridge.sinks i with active := false, name := none, msgq := .empty } } ∧
      session' = { session with sink := ⟨-1⟩, pc := .closeFd }) ∨
    ((NmeaBridge.slotOf session.sink.id : Option (Fin config.nmeaSinksMax)) = none ∧
      shared' = shared ∧
      session' = { session with pc := .closeFd }) := by
  simp only [step, pc, NmeaBridge.sinkClose] at taken
  cases found : (NmeaBridge.slotOf session.sink.id : Option (Fin config.nmeaSinksMax)) with
  | none =>
      simp only [found, Option.getD_some, Option.some.injEq, Prod.mk.injEq] at taken
      exact Or.inr ⟨rfl, taken.1.symm, taken.2.symm⟩
  | some i =>
      simp only [found, Option.getD_some, Option.some.injEq, Prod.mk.injEq] at taken
      exact Or.inl ⟨i, rfl, taken.1.symm, taken.2.symm⟩

/-- A session does not touch the ingest queue, and without `sinks_lock` it only takes
from the sinks. -/
theorem step_queues (taken : session.step shared sys = some (shared', session')) :
    shared'.bridge.ingestMsgq = shared.bridge.ingestMsgq ∧
      shared'.bridge.bridgeStats = shared.bridge.bridgeStats ∧
      (session.needsSinksLock = false →
        ∀ i, (shared.bridge.sinks i).Reads (shared'.bridge.sinks i)) := by
  cases pc : session.pc with
  | sinkOpen =>
      rcases step_sinkOpen pc taken with ⟨j, free, rfl, rfl⟩ | ⟨_, rfl, rfl⟩
      · exact ⟨rfl, rfl, by simp [needsSinksLock, pc]⟩
      · exact ⟨rfl, rfl, fun _ i => .same rfl⟩
  | takeCheck =>
      obtain ⟨rfl, -⟩ := step_takeCheck pc taken
      exact ⟨rfl, rfl, fun _ i => .same rfl⟩
  | takeGet slot =>
      rcases step_takeGet pc taken with ⟨frame, msgq, head, rfl, rfl⟩ | ⟨rfl, rfl⟩
      · refine ⟨rfl, rfl, fun _ i => ?_⟩
        by_cases same : i = slot
        · subst same
          exact ⟨.inr ⟨frame, by simpa using head⟩, by simp⟩
        · exact .same (by simp [same])
      · exact ⟨rfl, rfl, fun _ i => .same rfl⟩
  | takeCount slot frame =>
      simp only [step, pc, Option.some.injEq, Prod.mk.injEq] at taken
      obtain ⟨rfl, rfl⟩ := taken
      refine ⟨rfl, rfl, fun _ i => ?_⟩
      by_cases same : i = slot
      · subst same
        exact ⟨.inl (by simp [NmeaBridge.takeCount]), by simp [NmeaBridge.takeCount]⟩
      · exact .same (by simp [NmeaBridge.takeCount, same])
  | send frame sentTotal =>
      obtain ⟨rfl, sent⟩ := step_send pc taken
      exact ⟨rfl, rfl, fun _ i => .same rfl⟩
  | sinkClose =>
      rcases step_sinkClose pc taken with ⟨i, found, rfl, rfl⟩ | ⟨missing, rfl, rfl⟩
      · exact ⟨rfl, rfl, by simp [needsSinksLock, pc]⟩
      · exact ⟨rfl, rfl, fun _ i => .same rfl⟩
  | closeUnopened | incActive | ledStarted | drain | drainAfter | ledSendFailed | ledForwarded
  | ledEnded | decActive | closeFd =>
      simp only [step, pc, Option.some.injEq, Prod.mk.injEq] at taken
      obtain ⟨rfl, rfl⟩ := taken
      exact ⟨by simp, by simp, fun _ i => .same (by simp)⟩
  | returned => simp [step, pc] at taken

end Steps

end TcpNmeaSession

end EspNmeaBridge
