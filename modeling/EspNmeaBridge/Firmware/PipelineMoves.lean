import EspNmeaBridge.Firmware.SinkCapacity

/-!
# What the firmware does to its pipeline

Every step of every thread is a pipeline step, a change of the status LED, the call of
`tcp_nmea_session_run` by an owner that is in no session, or none of the pipeline's
business.  What all of these keep, every run of the firmware keeps.
-/

namespace EspNmeaBridge

open Library

variable {config : Config}

namespace Firmware

/-- What one step makes of the pipeline. -/
inductive PipelineMoves (firmware : Firmware config) : Pipeline config (Owner config) → Prop where
  | stays : PipelineMoves firmware firmware.pipeline
  | steps {pipeline : Pipeline config (Owner config)} (action : PipelineAction (Owner config))
      (moved : firmware.pipeline.step action = some pipeline) : PipelineMoves firmware pipeline
  | observes (connecting : Bool) : PipelineMoves firmware (firmware.observe connecting).pipeline
  | starts (owner : Owner config) (outside : ¬ firmware.InSession owner) (fd : Int)
      (sinkName : String) (sink : NmeaBridgeSink) :
      PipelineMoves firmware (firmware.pipeline.startSession owner fd sinkName sink)
  | connects (outside : ¬ firmware.InSession none) (fd : Int) (sinkName : String)
      (sink : NmeaBridgeSink) :
      PipelineMoves firmware ((firmware.observe false).pipeline.startSession none fd sinkName sink)

variable {firmware next : Firmware config} {sys : SysReturn} {action : FirmwareAction config}

theorem stepOutbound_pipeline (taken : firmware.stepOutbound sys = some next) :
    firmware.PipelineMoves next.pipeline := by
  cases pc : firmware.outbound.pc with
  | stopped => simp [stepOutbound, pc] at taken
  | waitHost | socket =>
      simp only [stepOutbound, pc] at taken
      split at taken <;> obtain rfl := Option.some.inj taken <;> exact .stays
  | connect fd | closeFailed fd | setNonblock fd | retryBackoff =>
      simp only [stepOutbound, pc, Option.some.injEq] at taken
      subst taken
      exact .stays
  | ledConnecting | ledDisconnected =>
      simp only [stepOutbound, pc, Option.some.injEq] at taken
      subst taken
      exact .observes true
  | ledConnected fd =>
      simp only [stepOutbound, pc, Option.some.injEq] at taken
      subst taken
      apply PipelineMoves.connects
      intro inSession
      exact absurd (pc.symm.trans inSession) (by simp)
  | session =>
      simp only [stepOutbound, pc] at taken
      split at taken
      · obtain rfl := Option.some.inj taken
        exact .stays
      · obtain ⟨pipeline, moved, rfl⟩ := stepSession_cases taken
        exact .steps (.session none sys) moved

theorem stepClient_pipeline {i : Fin config.tcpNmeaServerMaxClients}
    (taken : firmware.stepClient i sys = some next) : firmware.PipelineMoves next.pipeline := by
  obtain ⟨client, pipeline, moves, rfl⟩ := stepClient_moves taken
  cases moves with
  | enter thread =>
      apply PipelineMoves.starts
      intro inSession
      exact absurd (thread.symm.trans inSession) (by simp)
  | session thread moved => exact .steps (.session (some i) sys) moved
  | returned thread ended => exact .stays
  | clearFd thread | closeFd thread | clearActive thread | logging thread => exact .stays

theorem step_pipeline (taken : firmware.step action = some next) :
    firmware.PipelineMoves next.pipeline := by
  cases action with
  | uart ch sys =>
      obtain rfl := Option.some.inj taken
      exact .steps (.uart ch sys) rfl
  | dispatcher =>
      obtain ⟨pipeline, moved, rfl⟩ := step_dispatcher taken
      exact .steps .dispatcher moved
  | server sys =>
      rw [(stepServer_others taken).1]
      exact .stays
  | client i sys => exact stepClient_pipeline taken
  | outbound sys => exact stepOutbound_pipeline taken

/-- The invariant rule for properties of the pipeline. -/
theorem reachable_pipeline (inv : Pipeline config (Owner config) → Prop)
    (initial : ∀ pipeline, pipeline.Initial → inv pipeline)
    (preserved : ∀ firmware pipeline, (machine config).Reachable firmware →
      inv firmware.pipeline → firmware.PipelineMoves pipeline → inv pipeline)
    (reachable : (machine config).Reachable firmware) : inv firmware.pipeline := by
  obtain ⟨start, actions, begins, run⟩ := reachable
  apply Machine.exec_induction (motive := fun _ firmware => inv firmware.pipeline) _ _ run
  · obtain ⟨pipeline, begins, rfl⟩ := begins
    exact initial pipeline begins
  · intro actions firmware action next reached holds taken
    exact preserved firmware next.pipeline ⟨start, actions, begins, reached⟩ holds
      (step_pipeline taken)

end Firmware

end EspNmeaBridge
