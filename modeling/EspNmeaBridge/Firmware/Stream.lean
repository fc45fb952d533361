import EspNmeaBridge.Firmware.PipelineMoves
import EspNmeaBridge.Pipeline.Stream

/-!
# Stream integrity of the firmware

The firmware's threads drive the pipeline: whatever they do to it is a pipeline step,
a change of the status LED, or the start of another session.  The order of the stream
is kept by all of them, so it also holds when owners run one session after another.
-/

namespace EspNmeaBridge

open Library

variable {config : Config}

namespace Pipeline

variable {ι : Type} {pipeline : Pipeline config ι}

/-- The order of the stream does not depend on what is shared beside the bridge. -/
theorem StreamOrder.withShared (order : pipeline.StreamOrder) {shared : SessionShared config}
    (bridge : shared.bridge = pipeline.shared.bridge) :
    StreamOrder { pipeline with shared } := by
  have feeds : Feeds pipeline { pipeline with shared } := by
    apply Feeds.of_sublist
    · rfl
    · intro i
      simp only [upstream, bridge]
      exact List.Sublist.refl _
  exact order.feed feeds order.flowing.holdsRest order.flowing.visitsOnce rfl

/-- A session that starts has sent nothing. -/
theorem StreamOrder.startSession [DecidableEq ι] (order : pipeline.StreamOrder) (id : ι) (fd : Int)
    (sinkName : String) (sink : NmeaBridgeSink) :
    (pipeline.startSession id fd sinkName sink).StreamOrder where
  flowing := ⟨order.flowing.holdsRest, order.flowing.visitsOnce, order.flowing.ordered⟩
  sessions other := by
    by_cases same : other = id
    · subst same
      simp only [Pipeline.startSession, Function.update_self]
      rfl
    · simp only [Pipeline.startSession, Function.update_of_ne same]
      exact order.sessions other

end Pipeline

namespace Firmware

variable {firmware : Firmware config} {pipeline : Pipeline config (Owner config)}

/-- Whatever a thread does to the pipeline keeps the stream's order. -/
theorem StreamOrder.moves (order : firmware.pipeline.StreamOrder)
    (moves : firmware.PipelineMoves pipeline) : pipeline.StreamOrder := by
  cases moves with
  | stays => exact order
  | steps action moved => exact order.step moved
  | observes connecting => exact order.withShared (SessionShared.observe_bridge _ _)
  | starts owner outside fd sinkName sink => exact order.startSession owner fd sinkName sink
  | connects outside fd sinkName sink =>
      have observed : (firmware.observe false).pipeline.StreamOrder :=
        order.withShared (SessionShared.observe_bridge _ _)
      exact observed.startSession none fd sinkName sink

theorem streamOrder (reachable : (machine config).Reachable firmware) :
    firmware.pipeline.StreamOrder := by
  apply reachable_pipeline Pipeline.StreamOrder
  · exact fun _ initial => .of_initial initial
  · exact fun _ _ _ order moves => StreamOrder.moves order moves
  · exact reachable

/-- At every moment of every run of the firmware, the socket of every owner's current
or last session has accepted whole lines of the UART stream, in stream order, and at
most a part of one more. -/
theorem sessions_sendWholeLines (reachable : (machine config).Reachable firmware)
    (owner : Owner config) :
    SendsWholeLines firmware.pipeline.received (firmware.pipeline.sessions owner) :=
  ((streamOrder reachable).sessions owner).wholeLines

end Firmware

end EspNmeaBridge
