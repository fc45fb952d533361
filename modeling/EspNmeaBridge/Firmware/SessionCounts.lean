import EspNmeaBridge.BridgeTelemetry
import EspNmeaBridge.Firmware.PipelineMoves
import EspNmeaBridge.Library.Tally
import Mathlib.Data.UInt

/-!
# Session counts agree

Three modules count sessions: the sessions themselves, the status LED, and the bridge
with its open sinks.  A session enters the counts in the order sink, session, LED and
leaves them in the reverse order, so each count is the tally of the sessions between
two of their program positions, and the positions are nested.
-/

namespace EspNmeaBridge

open Library

variable {config : Config}

namespace SessionPc

/-- The session has counted itself in `active_sessions`. -/
def countedActive : SessionPc config → Bool
  | .ledStarted | .drain | .takeCheck | .takeGet _ | .takeCount _ _ | .send _ _ | .ledSendFailed
  | .ledForwarded | .drainAfter | .ledEnded | .decActive => true
  | .sinkOpen | .closeUnopened | .incActive | .sinkClose | .closeFd | .returned => false

/-- The session has told the status LED that it started. -/
def countedLed : SessionPc config → Bool
  | .drain | .takeCheck | .takeGet _ | .takeCount _ _ | .send _ _ | .ledSendFailed
  | .ledForwarded | .drainAfter | .ledEnded => true
  | .sinkOpen | .closeUnopened | .incActive | .ledStarted | .decActive | .sinkClose | .closeFd
  | .returned => false

/-- The session is between its open, inc and started steps, or between its ended, dec
and close steps. -/
def betweenCounts : SessionPc config → Bool
  | .incActive | .ledStarted | .decActive | .sinkClose => true
  | _ => false

theorem countedActive_of_led {pc : SessionPc config} (counted : pc.countedLed = true) :
    pc.countedActive = true := by
  cases pc with
  | sinkOpen | closeUnopened | incActive | ledStarted | decActive | sinkClose | closeFd
  | returned => contradiction
  | drain | takeCheck | takeGet _ | takeCount _ _ | send _ _ | ledSendFailed | ledForwarded
  | drainAfter | ledEnded => rfl

theorem holdsSink_of_active {pc : SessionPc config} (counted : pc.countedActive = true) :
    pc.holdsSink = true := by
  cases pc with
  | sinkOpen | closeUnopened | incActive | sinkClose | closeFd | returned => contradiction
  | ledStarted | drain | takeCheck | takeGet _ | takeCount _ _ | send _ _ | ledSendFailed
  | ledForwarded | drainAfter | ledEnded | decActive => rfl

theorem counted_of_settled {pc : SessionPc config} (settled : pc.betweenCounts = false) :
    pc.countedLed = pc.holdsSink ∧ pc.countedActive = pc.holdsSink := by
  cases pc with
  | incActive | ledStarted | decActive | sinkClose => contradiction
  | sinkOpen | closeUnopened | drain | takeCheck | takeGet _ | takeCount _ _ | send _ _
  | ledSendFailed | ledForwarded | drainAfter | ledEnded | closeFd | returned => exact ⟨rfl, rfl⟩

end SessionPc

namespace TcpNmeaSession

variable {shared shared' : SessionShared config} {session session' : TcpNmeaSession config}
  {sys : SysReturn}

/-- The counters move by what the session's own position gains or loses. -/
structure CountStep (shared shared' : SessionShared config)
    (session session' : TcpNmeaSession config) : Prop where
  active : shared'.activeSessions + UInt32.ofNat session.pc.countedActive.toNat =
    shared.activeSessions + UInt32.ofNat session'.pc.countedActive.toNat
  led : config.statusLedEnable = true →
    (session.pc = .ledEnded → 0 < shared.statusLed.activeTcpNmeaSessions) →
    shared'.statusLed.activeTcpNmeaSessions + UInt16.ofNat session.pc.countedLed.toNat =
      shared.statusLed.activeTcpNmeaSessions + UInt16.ofNat session'.pc.countedLed.toNat

/-- A step that touches neither counter and passes no counting position. -/
theorem CountStep.of_same (active : shared'.activeSessions = shared.activeSessions)
    (led : shared'.statusLed.activeTcpNmeaSessions = shared.statusLed.activeTcpNmeaSessions)
    (countedActive : session'.pc.countedActive = session.pc.countedActive)
    (countedLed : session'.pc.countedLed = session.pc.countedLed) :
    CountStep shared shared' session session' where
  active := by rw [active, countedActive]
  led _ _ := by rw [led, countedLed]

theorem sendAll_counted {frame : NmeaFrame config} {sentTotal : Nat}
    (pc : session.pc = .send frame sentTotal)
    (taken : session.sendAll frame sentTotal sys = some session') :
    session'.pc.countedActive = true ∧ session'.pc.countedLed = true := by
  unfold sendAll at taken
  repeat' split at taken
  all_goals first
    | contradiction
    | obtain rfl := Option.some.inj taken
      simp [pc, SessionPc.countedActive, SessionPc.countedLed]

theorem drainSocketRx_counted (counted : session.pc.countedLed = true) (sys : SysReturn)
    (continuation : SessionPc config) (continues : continuation.countedLed = true) :
    (session.drainSocketRx continuation sys).pc.countedLed = true := by
  unfold drainSocketRx
  split
  · exact counted
  split
  · rfl
  split
  · exact continues
  · rfl

theorem step_counts (taken : session.step shared sys = some (shared', session')) :
    CountStep shared shared' session session' := by
  cases pc : session.pc with
  | sinkOpen =>
      rcases step_sinkOpen pc taken with ⟨j, _, rfl, rfl⟩ | ⟨_, rfl, rfl⟩ <;>
        exact .of_same rfl rfl (by rw [pc]; rfl) (by rw [pc]; rfl)
  | takeCheck =>
      obtain ⟨rfl, ⟨slot, _, rfl⟩ | rfl | rfl⟩ := step_takeCheck pc taken <;>
        exact .of_same rfl rfl (by rw [pc]; rfl) (by rw [pc]; rfl)
  | takeGet slot =>
      rcases step_takeGet pc taken with ⟨frame, msgq, _, rfl, rfl⟩ | ⟨rfl, rfl⟩ <;>
        exact .of_same rfl rfl (by rw [pc]; rfl) (by rw [pc]; rfl)
  | send frame sentTotal =>
      obtain ⟨rfl, sent⟩ := step_send pc taken
      obtain ⟨active, led⟩ := sendAll_counted pc sent
      exact .of_same rfl rfl (by rw [active, pc]; rfl) (by rw [led, pc]; rfl)
  | drain =>
      simp only [step, pc, Option.some.injEq, Prod.mk.injEq] at taken
      obtain ⟨rfl, rfl⟩ := taken
      have led := drainSocketRx_counted (by rw [pc]; rfl) sys .takeCheck rfl
      have active := SessionPc.countedActive_of_led led
      exact .of_same rfl rfl (by rw [active, pc]; rfl) (by rw [led, pc]; rfl)
  | drainAfter =>
      simp only [step, pc, Option.some.injEq, Prod.mk.injEq] at taken
      obtain ⟨rfl, rfl⟩ := taken
      have led := drainSocketRx_counted (by rw [pc]; rfl) sys .drain rfl
      have active := SessionPc.countedActive_of_led led
      exact .of_same rfl rfl (by rw [active, pc]; rfl) (by rw [led, pc]; rfl)
  | sinkClose =>
      rcases step_sinkClose pc taken with ⟨i, _, rfl, rfl⟩ | ⟨_, rfl, rfl⟩ <;>
        exact .of_same rfl rfl (by rw [pc]; rfl) (by rw [pc]; rfl)
  | closeUnopened | takeCount slot frame | closeFd =>
      simp only [step, pc, Option.some.injEq, Prod.mk.injEq] at taken
      obtain ⟨rfl, rfl⟩ := taken
      exact .of_same rfl rfl (by rw [pc]; rfl) (by rw [pc]; rfl)
  | ledSendFailed | ledForwarded =>
      simp only [step, pc, Option.some.injEq, Prod.mk.injEq] at taken
      obtain ⟨rfl, rfl⟩ := taken
      apply CountStep.of_same
      · exact SessionShared.observe_activeSessions _ _
      · exact SessionShared.observe_activeTcpNmeaSessions _ fun _ => rfl
      · rw [pc]
        rfl
      · rw [pc]
        rfl
  | incActive =>
      simp only [step, pc, Option.some.injEq, Prod.mk.injEq] at taken
      obtain ⟨rfl, rfl⟩ := taken
      constructor
      · simp [pc, SessionPc.countedActive]
      · intro _ _
        simp [pc, SessionPc.countedLed]
  | decActive =>
      simp only [step, pc, Option.some.injEq, Prod.mk.injEq] at taken
      obtain ⟨rfl, rfl⟩ := taken
      constructor
      · simp [pc, SessionPc.countedActive]
      · intro _ _
        simp [pc, SessionPc.countedLed]
  | ledStarted =>
      simp only [step, pc, Option.some.injEq, Prod.mk.injEq] at taken
      obtain ⟨rfl, rfl⟩ := taken
      constructor
      · simp [pc, SessionPc.countedActive]
      · intro enabled _
        simp [pc, SessionPc.countedLed, SessionShared.observe, enabled,
          StatusLed.tcpNmeaSessionStarted]
  | ledEnded =>
      simp only [step, pc, Option.some.injEq, Prod.mk.injEq] at taken
      obtain ⟨rfl, rfl⟩ := taken
      constructor
      · simp [pc, SessionPc.countedActive]
      · intro enabled positive
        simp [pc, SessionPc.countedLed, SessionShared.observe, enabled,
          StatusLed.tcpNmeaSessionEnded, positive pc]
  | returned => simp [step, pc] at taken

end TcpNmeaSession

/-- The slots of the server and the outbound client. -/
def everyOwner (config : Config) : List (Owner config) := none :: (List.finRange _).map some

theorem nodup_everyOwner : (everyOwner config).Nodup := by
  unfold everyOwner
  rw [List.nodup_cons]
  constructor
  · simp
  · exact (List.nodup_finRange _).map (Option.some_injective _)

theorem mem_everyOwner (owner : Owner config) : owner ∈ everyOwner config := by
  cases owner <;> simp [everyOwner]

namespace Pipeline

variable {pipeline next : Pipeline config (Owner config)}

/-- The number of owners whose session is at a position that counts. -/
def sessionsAt (pipeline : Pipeline config (Owner config)) (counts : SessionPc config → Bool) :
    Nat :=
  tally (everyOwner config) pipeline.sessions fun session => counts session.pc

/-- No two counters of sessions can wrap. -/
theorem sessionsAt_le (counts : SessionPc config → Bool) : pipeline.sessionsAt counts ≤ 9 := by
  have few := config.clients_range.2
  have all : pipeline.sessionsAt counts ≤ (everyOwner config).length := List.countP_le_length
  simp only [everyOwner, List.length_cons, List.length_map, List.length_finRange] at all
  omega

/-- Both counters are tallies of the sessions' positions. -/
structure SessionsCounted (pipeline : Pipeline config (Owner config)) : Prop where
  active : pipeline.shared.activeSessions =
    UInt32.ofNat (pipeline.sessionsAt SessionPc.countedActive)
  led : config.statusLedEnable = true → pipeline.shared.statusLed.activeTcpNmeaSessions =
    UInt16.ofNat (pipeline.sessionsAt SessionPc.countedLed)

namespace SessionsCounted

theorem of_initial (initial : pipeline.Initial) : pipeline.SessionsCounted := by
  obtain ⟨fd, name, sink, rfl⟩ := initial
  have none : ∀ counts : SessionPc config → Bool, counts .sinkOpen = false →
      sessionsAt { sessions := fun id : Owner config =>
        { fd := fd id, sinkName := name id, sink := sink id } } counts = 0 := by
    intro counts outside
    exact tally_eq_zero fun _ => outside
  constructor
  · rw [none _ rfl]
    rfl
  · intro _
    rw [none _ rfl]
    rfl

theorem active_toNat (counted : pipeline.SessionsCounted) :
    pipeline.shared.activeSessions.toNat = pipeline.sessionsAt SessionPc.countedActive := by
  have few := pipeline.sessionsAt_le SessionPc.countedActive
  rw [counted.active, UInt32.toNat_ofNat']
  omega

theorem led_toNat (counted : pipeline.SessionsCounted) (enabled : config.statusLedEnable = true) :
    pipeline.shared.statusLed.activeTcpNmeaSessions.toNat =
      pipeline.sessionsAt SessionPc.countedLed := by
  have few := pipeline.sessionsAt_le SessionPc.countedLed
  rw [counted.led enabled, UInt16.toNat_ofNat']
  omega

/-- A session that has told the LED that it started is counted by it. -/
theorem led_pos (counted : pipeline.SessionsCounted) (enabled : config.statusLedEnable = true)
    {owner : Owner config} (started : (pipeline.sessions owner).pc.countedLed = true) :
    0 < pipeline.shared.statusLed.activeTcpNmeaSessions := by
  have positive : 0 < pipeline.sessionsAt SessionPc.countedLed :=
    tally_pos (mem_everyOwner owner) started
  rw [UInt16.lt_iff_toNat_lt, counted.led_toNat enabled]
  exact positive

/-- A step that changes neither the sessions nor the counters. -/
theorem congr (counted : pipeline.SessionsCounted) (sessions : next.sessions = pipeline.sessions)
    (active : next.shared.activeSessions = pipeline.shared.activeSessions)
    (led : next.shared.statusLed.activeTcpNmeaSessions =
      pipeline.shared.statusLed.activeTcpNmeaSessions) : next.SessionsCounted where
  active := by
    unfold sessionsAt
    rw [active, sessions]
    exact counted.active
  led enabled := by
    unfold sessionsAt
    rw [led, sessions]
    exact counted.led enabled

/-- One session takes a step. -/
theorem stepSession (counted : pipeline.SessionsCounted) {owner : Owner config} {sys : SysReturn}
    (taken : pipeline.stepSession owner sys = some next) : next.SessionsCounted := by
  obtain ⟨shared, session, moved, rfl⟩ := stepSession_cases taken
  have counts := TcpNmeaSession.step_counts moved
  have update : ∀ position : SessionPc config → Bool,
      tally (everyOwner config) (Function.update pipeline.sessions owner session)
          (fun session => position session.pc) + (position (pipeline.sessions owner).pc).toNat =
        pipeline.sessionsAt position + (position session.pc).toNat := by
    intro position
    exact tally_update nodup_everyOwner (mem_everyOwner owner) session
  constructor
  · have total := congrArg UInt32.ofNat (update SessionPc.countedActive)
    rw [UInt32.ofNat_add, UInt32.ofNat_add, ← counted.active, ← counts.active] at total
    exact ((UInt32.add_left_inj _).mp total).symm
  · intro enabled
    have positive : (pipeline.sessions owner).pc = .ledEnded →
        0 < pipeline.shared.statusLed.activeTcpNmeaSessions := by
      intro pc
      apply counted.led_pos enabled
      rw [pc]
      rfl
    have total := congrArg UInt16.ofNat (update SessionPc.countedLed)
    rw [UInt16.ofNat_add, UInt16.ofNat_add, ← counted.led enabled,
      ← counts.led enabled positive] at total
    exact ((UInt16.add_left_inj _).mp total).symm

/-- The call of a session by an owner whose last one is no longer counted. -/
theorem startSession (counted : pipeline.SessionsCounted) {owner : Owner config}
    (gone : (pipeline.sessions owner).pc.holdsSink = false) (fd : Int) (sinkName : String)
    (sink : NmeaBridgeSink) : (pipeline.startSession owner fd sinkName sink).SessionsCounted := by
  have same : ∀ position : SessionPc config → Bool, position .sinkOpen = false →
      (∀ pc, position pc = true → pc.holdsSink = true) →
      (pipeline.startSession owner fd sinkName sink).sessionsAt position =
        pipeline.sessionsAt position := by
    intro position outside nested
    apply tally_congr
    intro other
    by_cases isOwner : other = owner
    · rw [isOwner]
      simp only [Pipeline.startSession, Function.update_self, outside]
      by_contra different
      rw [nested _ (Bool.eq_true_of_not_eq_false (Ne.symm different))] at gone
      contradiction
    · simp only [Pipeline.startSession, Function.update_of_ne isOwner]
  constructor
  · rw [same _ rfl fun _ => SessionPc.holdsSink_of_active]
    exact counted.active
  · intro enabled
    rw [same _ rfl fun _ led =>
      SessionPc.holdsSink_of_active (SessionPc.countedActive_of_led led)]
    exact counted.led enabled

/-- The UART thread counts no session. -/
theorem stepUart (counted : pipeline.SessionsCounted) (ch : Byte) (sys : SysReturn) :
    (pipeline.stepUart ch sys).SessionsCounted := by
  have step := pipeline.stepUart_cases ch sys
  generalize pipeline.stepUart ch sys = next at step
  cases step with
  | reads | completes | rejects | accepts | operates | returns => exact counted.congr rfl rfl rfl
  | reports =>
      apply counted.congr
      · rfl
      · exact SessionShared.observe_activeSessions _ _
      · exact SessionShared.observe_activeTcpNmeaSessions _ fun _ => rfl

/-- Every pipeline step keeps the counts. -/
theorem step (counted : pipeline.SessionsCounted) {action : PipelineAction (Owner config)}
    (taken : pipeline.step action = some next) : next.SessionsCounted := by
  cases action with
  | uart ch sys =>
      obtain rfl := Option.some.inj taken
      exact counted.stepUart ch sys
  | dispatcher =>
      obtain ⟨bridge, dispatcher, _, rfl⟩ := step_dispatcher_cases taken
      exact counted.congr rfl rfl rfl
  | session id sys => exact counted.stepSession taken

end SessionsCounted

end Pipeline

namespace Firmware

variable {firmware : Firmware config}

theorem sessionsCounted (reachable : (machine config).Reachable firmware) :
    firmware.pipeline.SessionsCounted := by
  apply reachable_pipeline Pipeline.SessionsCounted _ _ reachable
  · intro pipeline initial
    exact .of_initial initial
  · intro firmware pipeline reached counted moves
    obtain ⟨_, _, covered⟩ := reachable_covered reached
    have gone : ∀ owner, ¬ firmware.InSession owner →
        (firmware.pipeline.sessions owner).pc.holdsSink = false := by
      intro owner outside
      by_contra holds
      exact outside (covered.running owner (Bool.eq_true_of_not_eq_false holds))
    have observed : ∀ connecting, (firmware.observe connecting).pipeline.SessionsCounted := by
      intro connecting
      exact counted.congr rfl (SessionShared.observe_activeSessions _ _)
        (SessionShared.observe_activeTcpNmeaSessions _ fun _ => rfl)
    cases moves with
    | stays => exact counted
    | steps action moved => exact counted.step moved
    | observes connecting => exact observed connecting
    | starts owner outside fd sinkName sink =>
        exact counted.startSession (gone owner outside) fd sinkName sink
    | connects outside fd sinkName sink =>
        exact (observed false).startSession (gone none outside) fd sinkName sink

/-- The active sinks of the bridge. -/
def openSinks (firmware : Firmware config) : Nat :=
  (List.finRange _).countP fun j => (firmware.pipeline.shared.bridge.sinks j).active

/-- Each active sink is that of one session. -/
theorem openSinks_eq (reachable : (machine config).Reachable firmware) :
    firmware.openSinks = firmware.pipeline.sessionsAt SessionPc.holdsSink := by
  obtain ⟨_, _, covered⟩ := reachable_covered reachable
  have owned := covered.owned
  have busy := owned.exclusive.countP_busy (List.nodup_finRange _) List.mem_finRange
    nodup_everyOwner fun owner _ _ => mem_everyOwner owner
  have holding : ∀ owner, ((firmware.pipeline.sessions owner).ownedSink).isSome =
      (firmware.pipeline.sessions owner).pc.holdsSink := by
    intro owner
    cases holds : (firmware.pipeline.sessions owner).pc.holdsSink with
    | false => rw [TcpNmeaSession.ownedSink_eq_none holds, Option.isSome_none]
    | true =>
        obtain ⟨j, owns⟩ := owned.holderOwns owner holds
        rw [owns, Option.isSome_some]
  simp only [holding, Bool.decide_eq_true] at busy
  exact busy

/-- The inputs of a telemetry snapshot of this state. -/
def telemetryInputs (firmware : Firmware config) (staReady : Bool) : BridgeTelemetryInputs :=
  BridgeTelemetry.collectInputs firmware.pipeline.uart.stats
    firmware.pipeline.shared.bridge.bridgeStats (TcpNmeaServer.getStats firmware.clients)
    firmware.pipeline.shared.getStats staReady

/-- How the three counts of sessions agree in a state. -/
structure SessionCountsAgree (firmware : Firmware config) : Prop where
  led_le : firmware.pipeline.shared.statusLed.activeTcpNmeaSessions.toNat ≤
    firmware.pipeline.shared.activeSessions.toNat
  sessions_le : firmware.pipeline.shared.activeSessions.toNat ≤ firmware.openSinks
  sinks_le : firmware.openSinks ≤ config.nmeaSinksMax
  settled : (∀ owner, (firmware.pipeline.sessions owner).pc.betweenCounts = false) →
    firmware.pipeline.shared.statusLed.activeTcpNmeaSessions.toNat = firmware.openSinks ∧
      firmware.pipeline.shared.activeSessions.toNat = firmware.openSinks
  noFloor : ∀ owner, (firmware.pipeline.sessions owner).pc = .ledEnded →
    0 < firmware.pipeline.shared.statusLed.activeTcpNmeaSessions
  noWrap : ∀ owner, (firmware.pipeline.sessions owner).pc = .ledStarted →
    firmware.pipeline.shared.statusLed.activeTcpNmeaSessions.toNat + 1 < 2 ^ 16
  connected : StatusLed.baseState firmware.pipeline.shared.statusLed = .connected →
    ∀ state staReady nowMs snapshot,
      (BridgeTelemetry.buildSnapshot (some state) (some (firmware.telemetryInputs staReady)) nowMs
        (some snapshot)).2.map (·.connectionState) = some .connected

/-- With the status LED built in, the counts agree in every reachable state. -/
theorem sessionCountsAgree (enabled : config.statusLedEnable = true)
    (reachable : (machine config).Reachable firmware) : firmware.SessionCountsAgree := by
  have counted := sessionsCounted reachable
  have active := counted.active_toNat
  have led := counted.led_toNat enabled
  have sinks := openSinks_eq reachable
  have ledLe : firmware.pipeline.sessionsAt SessionPc.countedLed ≤
      firmware.pipeline.sessionsAt SessionPc.countedActive :=
    tally_le_tally fun _ => SessionPc.countedActive_of_led
  constructor
  case led_le =>
    rw [led, active]
    exact ledLe
  case sessions_le =>
    rw [active, sinks]
    exact tally_le_tally fun _ => SessionPc.holdsSink_of_active
  case sinks_le =>
    have all : firmware.openSinks ≤ (List.finRange config.nmeaSinksMax).length :=
      List.countP_le_length
    rwa [List.length_finRange] at all
  case settled =>
    intro settled
    rw [led, active, sinks]
    constructor
    · exact tally_congr fun owner => (SessionPc.counted_of_settled (settled owner)).1
    · exact tally_congr fun owner => (SessionPc.counted_of_settled (settled owner)).2
  case noFloor =>
    intro owner pc
    apply counted.led_pos enabled
    rw [pc]
    rfl
  case noWrap =>
    intro owner pc
    have few := firmware.pipeline.sessionsAt_le SessionPc.countedLed
    omega
  case connected =>
    intro connected state staReady nowMs snapshot
    have shown : 0 < firmware.pipeline.shared.statusLed.activeTcpNmeaSessions := by
      unfold StatusLed.baseState at connected
      by_contra none
      rw [if_neg none] at connected
      split at connected <;> contradiction
    have running : firmware.pipeline.shared.activeSessions > 0 := by
      rw [gt_iff_lt, UInt32.lt_iff_toNat_lt, active]
      rw [UInt16.lt_iff_toNat_lt, led] at shown
      exact Nat.lt_of_lt_of_le shown ledLe
    simp [BridgeTelemetry.buildSnapshot, BridgeTelemetry.fillSnapshot, telemetryInputs,
      BridgeTelemetry.collectInputs, SessionShared.getStats, running]

/-- The outbound client connects, and its session starts. -/
def outboundConnects : List (FirmwareAction Config.committed) :=
  List.replicate 2 (.outbound { ret := 1 }) ++ List.replicate 7 (.outbound {})

theorem sessionCountsAgree_outboundConnects :
    ∃ firmware, (machine Config.committed).exec atStart outboundConnects = some firmware ∧
      StatusLed.baseState firmware.pipeline.shared.statusLed = .connected ∧
      firmware.SessionCountsAgree := by
  have shown : ((machine Config.committed).exec atStart outboundConnects).any (fun firmware =>
      StatusLed.baseState firmware.pipeline.shared.statusLed = .connected) = true := by decide
  obtain ⟨firmware, ran, connected⟩ := (Option.any_eq_true _ _).mp shown
  refine ⟨firmware, ran, of_decide_eq_true connected, ?_⟩
  exact sessionCountsAgree rfl ⟨atStart, outboundConnects, ⟨_, ⟨_, _, _, rfl⟩, rfl⟩, ran⟩

end Firmware

end EspNmeaBridge
