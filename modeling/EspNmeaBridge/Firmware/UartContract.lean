import EspNmeaBridge.Firmware.SessionCounts
import EspNmeaBridge.UartNmea.LineBuffer

/-!
# What the UART thread hands to the bridge

The UART thread is the only publisher.  It checks its lines against the line buffer,
the bridge against the frame buffer, and both have the same size: the bridge accepts
every line, and the counters of the two modules stay in step.
-/

namespace EspNmeaBridge

open Library

variable {config : Config}

/-- The counters of `nmea_bridge_publish_frame` are the same. -/
structure NmeaBridgeStats.SamePublished (stats stats' : NmeaBridgeStats) : Prop where
  framesIn : stats'.framesIn = stats.framesIn
  publishInvalid : stats'.publishInvalid = stats.publishInvalid
  publishOversize : stats'.publishOversize = stats.publishOversize

theorem NmeaBridgeStats.SamePublished.refl (stats : NmeaBridgeStats) :
    stats.SamePublished stats := ⟨rfl, rfl, rfl⟩

/-- The dispatcher publishes nothing. -/
theorem NmeaBridge.stepDispatcher_published {bridge next : NmeaBridge config}
    {pc nextPc : DispatcherPc config} (taken : bridge.stepDispatcher pc = some (next, nextPc)) :
    bridge.bridgeStats.SamePublished next.bridgeStats := by
  cases stepDispatcher_cases taken with
  | takes | locks | endsUnsent | ends | skips | calls | operates | returns | accounts =>
      exact ⟨rfl, rfl, rfl⟩

/-- Lines the thread has counted and the bridge has not. -/
def UartPc.uncounted : UartPc config → UInt32
  | .publish _ => 1
  | .poll | .put .. | .ledReceived => 0

/-- A byte counts a line exactly when it completes one. -/
theorem uartRxByte_linesRx (config : Config) (uart : UartRx) (ch : Byte) :
    (uartRxByte config uart ch).1.stats.linesRx =
      match (uartRxByte config uart ch).2 with
      | some _ => uart.stats.linesRx + 1
      | none => uart.stats.linesRx := by
  unfold uartRxByte
  cases uart.droppingOverlong with
  | true => by_cases closes : ch = newline <;> simp [closes]
  | false =>
      by_cases room : uart.line.length < config.nmeaFrameMaxLen
      · by_cases closes : ch = newline <;> simp [room, closes]
      · simp [room]

/-- The bridge accepts what the thread publishes. -/
theorem NmeaBridge.publishCheck_of_published (bridge : NmeaBridge config) {line : List Byte}
    (published : PublishedLine config line) :
    ∃ frame, bridge.publishCheck (some line) =
      ({ bridge with bridgeStats.framesIn := bridge.bridgeStats.framesIn + 1 }, .ok frame) := by
  have nonempty : line.length ≠ 0 := Nat.one_le_iff_ne_zero.mp published.nonempty
  have fits : ¬ line.length > config.nmeaFrameMaxLen := Nat.not_lt.mpr published.fits
  exact ⟨_, by simp only [publishCheck, dif_neg nonempty, dif_neg fits]; rfl⟩

namespace Pipeline

variable {ι : Type} {pipeline next : Pipeline config ι}

/-- The counters of the UART thread and of the bridge are in step, and the thread is
where the bytes it has received have brought it. -/
structure UartInStep (pipeline : Pipeline config ι) : Prop where
  thread : pipeline.uart = (pipeline.received.foldl (UartRun.read config) {}).uart
  calls : ∀ line, pipeline.uartPc = .publish line → PublishedLine config line
  invalid : pipeline.shared.bridge.bridgeStats.publishInvalid = 0
  oversize : pipeline.shared.bridge.bridgeStats.publishOversize = 0
  counted : pipeline.uart.stats.linesRx =
    pipeline.shared.bridge.bridgeStats.framesIn + pipeline.uartPc.uncounted

namespace UartInStep

theorem of_initial (initial : pipeline.Initial) : pipeline.UartInStep := by
  obtain ⟨fd, name, sink, rfl⟩ := initial
  constructor
  · rfl
  · intro line publishing
    cases publishing
  · rfl
  · rfl
  · rfl

/-- Steps that read no byte and publish nothing. -/
theorem congr (inStep : pipeline.UartInStep) (received : next.received = pipeline.received)
    (uart : next.uart = pipeline.uart)
    (calls : ∀ line, next.uartPc = .publish line → PublishedLine config line)
    (uncounted : next.uartPc.uncounted = pipeline.uartPc.uncounted)
    (stats : pipeline.shared.bridge.bridgeStats.SamePublished next.shared.bridge.bridgeStats) :
    next.UartInStep := by
  constructor
  · rw [uart, received]
    exact inStep.thread
  · exact calls
  · rw [stats.publishInvalid]
    exact inStep.invalid
  · rw [stats.publishOversize]
    exact inStep.oversize
  · rw [uart, uncounted, stats.framesIn]
    exact inStep.counted

/-- A byte is counted, and what it completes is to be published. -/
theorem poll (inStep : pipeline.UartInStep) (pc : pipeline.uartPc = .poll) (ch : Byte)
    (sys : SysReturn) : (pipeline.stepUart ch sys).UartInStep := by
  have unfinished := (publishedLine_of_mem config pipeline.received).1
  rw [← inStep.thread] at unfinished
  have byte := (uartRxByte_unfinished config unfinished ch).2
  have lines := uartRxByte_linesRx config pipeline.uart ch
  have thread : (uartRxByte config pipeline.uart ch).1 =
      ((pipeline.received ++ [ch]).foldl (UartRun.read config) {}).uart := by
    rw [List.foldl_append, inStep.thread]
    rfl
  have counted := inStep.counted
  rw [pc] at counted
  rcases read : uartRxByte config pipeline.uart ch with ⟨uart, _ | line⟩ <;>
    rw [read] at byte lines thread <;> simp only [Pipeline.stepUart, pc, read]
  · constructor
    · exact thread
    · intro line publishing
      cases publishing
    · exact inStep.invalid
    · exact inStep.oversize
    · exact lines.trans counted
  · constructor
    · exact thread
    · intro line publishing
      cases publishing
      exact byte line rfl
    · exact inStep.invalid
    · exact inStep.oversize
    · rw [lines, counted]
      exact congrArg (· + 1) (add_zero _)

theorem stepUart (inStep : pipeline.UartInStep) (ch : Byte) (sys : SysReturn) :
    (pipeline.stepUart ch sys).UartInStep := by
  cases pc : pipeline.uartPc with
  | poll => exact inStep.poll pc ch sys
  | publish line =>
      obtain ⟨frame, accepted⟩ := pipeline.shared.bridge.publishCheck_of_published
        (inStep.calls line pc)
      simp only [Pipeline.stepUart, pc, accepted]
      constructor
      · exact inStep.thread
      · intro line publishing
        cases publishing
      · exact inStep.invalid
      · exact inStep.oversize
      · have counted := inStep.counted
        rw [pc] at counted
        exact counted.trans (add_zero _).symm
  | put frame stage =>
      have stats : pipeline.shared.bridge.bridgeStats.SamePublished
          (pipeline.shared.bridge.ingestPut frame stage).1.bridgeStats := ⟨rfl, rfl, rfl⟩
      rcases moved : pipeline.shared.bridge.ingestPut frame stage with ⟨bridge, _ | later⟩ <;>
        · rw [moved] at stats
          simp only [Pipeline.stepUart, pc, moved]
          refine inStep.congr rfl rfl ?_ ?_ stats
          · intro line publishing
            cases publishing
          · rw [pc]
            rfl
  | ledReceived =>
      simp only [Pipeline.stepUart, pc]
      refine inStep.congr rfl rfl ?_ ?_ ?_
      · intro line publishing
        cases publishing
      · rw [pc]
        rfl
      · rw [SessionShared.observe_bridge]
        exact .refl _

/-- Every pipeline step keeps the counters in step. -/
theorem step [DecidableEq ι] (inStep : pipeline.UartInStep) {action : PipelineAction ι}
    (taken : pipeline.step action = some next) : next.UartInStep := by
  cases action with
  | uart ch sys =>
      obtain rfl := Option.some.inj taken
      exact inStep.stepUart ch sys
  | dispatcher =>
      obtain ⟨bridge, dispatcher, moved, rfl⟩ := step_dispatcher_cases taken
      exact inStep.congr rfl rfl inStep.calls rfl (NmeaBridge.stepDispatcher_published moved)
  | session id sys =>
      obtain ⟨shared, session, moved, rfl⟩ := stepSession_cases taken
      refine inStep.congr rfl rfl inStep.calls rfl ?_
      rw [(TcpNmeaSession.step_queues moved).2.1]
      exact .refl _

end UartInStep

end Pipeline

namespace Firmware

variable {firmware : Firmware config}

theorem uartInStep (reachable : (machine config).Reachable firmware) :
    firmware.pipeline.UartInStep := by
  apply reachable_pipeline Pipeline.UartInStep _ _ reachable
  · intro pipeline initial
    exact .of_initial initial
  · intro firmware pipeline reached inStep moves
    have observed : ∀ connecting, (firmware.observe connecting).pipeline.UartInStep := by
      intro connecting
      refine inStep.congr rfl rfl inStep.calls rfl ?_
      rw [observe, SessionShared.observe_bridge]
      exact .refl _
    cases moves with
    | stays => exact inStep
    | steps action moved => exact inStep.step moved
    | observes connecting => exact observed connecting
    | starts owner outside fd sinkName sink =>
        exact inStep.congr rfl rfl inStep.calls rfl (.refl _)
    | connects outside fd sinkName sink =>
        exact (observed false).congr rfl rfl (observed false).calls rfl (.refl _)

/-- How the UART thread and the bridge agree. -/
structure UartContract (config : Config) : Prop where
  /-- On every stream, whatever `line[]` contains at first, all accesses to it are in
  bounds and all calls of `nmea_bridge_publish_frame` are lines. -/
  stream : ∀ start, UartStoredRun.Initial start → ∀ stream, ∃ run,
    (UartStoredRun.machine config).exec start stream = some run ∧
      run.locals.Holds (uartRxThread config [stream]).uart ∧
      ∀ line ∈ run.published, PublishedLine config line
  /-- The thread of the firmware is that thread on what it has received. -/
  thread : ∀ firmware, (machine config).Reachable firmware →
    firmware.pipeline.uart = (uartRxThread config [firmware.pipeline.received]).uart
  call : ∀ firmware, (machine config).Reachable firmware →
    ∀ line, firmware.pipeline.uartPc = .publish line → PublishedLine config line
  /-- Between two bytes, the counters are in step. -/
  counters : ∀ firmware, (machine config).Reachable firmware → firmware.pipeline.uartPc = .poll →
    firmware.pipeline.shared.bridge.bridgeStats.publishInvalid = 0 ∧
      firmware.pipeline.shared.bridge.bridgeStats.publishOversize = 0 ∧
      firmware.pipeline.uart.stats.linesRx = firmware.pipeline.shared.bridge.bridgeStats.framesIn
  /-- Between two bytes, a snapshot warns of bad data exactly if lines were too long. -/
  dataQuality : ∀ firmware, (machine config).Reachable firmware →
    firmware.pipeline.uartPc = .poll → ∀ state staReady nowMs snapshot,
      (BridgeTelemetry.buildSnapshot (some state) (some (firmware.telemetryInputs staReady)) nowMs
        (some snapshot)).2.map (·.warnings.dataQuality) =
          some (decide (firmware.pipeline.uart.stats.overlongLines ≠ 0))

theorem uartContract (config : Config) : UartContract config := by
  constructor
  case stream =>
    intro start initial stream
    obtain ⟨run, ran, follows⟩ := UartStoredRun.exists_exec initial stream
    refine ⟨run, ran, follows.holds, ?_⟩
    rw [follows.published]
    exact (publishedLine_of_mem config stream).2
  case thread =>
    intro firmware reachable
    exact (uartInStep reachable).thread
  case call =>
    intro firmware reachable
    exact (uartInStep reachable).calls
  case counters =>
    intro firmware reachable pc
    have inStep := uartInStep reachable
    refine ⟨inStep.invalid, inStep.oversize, inStep.counted.trans ?_⟩
    rw [pc]
    exact add_zero _
  case dataQuality =>
    intro firmware reachable pc state staReady nowMs snapshot
    have inStep := uartInStep reachable
    simp [BridgeTelemetry.buildSnapshot, BridgeTelemetry.fillSnapshot, telemetryInputs,
      BridgeTelemetry.collectInputs, inStep.invalid, inStep.oversize, UInt32.pos_iff_ne_zero]

end Firmware

end EspNmeaBridge
