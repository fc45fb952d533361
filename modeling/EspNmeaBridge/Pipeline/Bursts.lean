import EspNmeaBridge.Pipeline.Losses

/-!
# Bursts

As many lines as both queues have room for are delivered whatever the schedule: while
no more lines are on the way to a session, or have been published since it registered,
than the shorter of its two queues holds, `put_drop_oldest` never finds a queue full.
-/

namespace EspNmeaBridge

open Library

variable {config : Config} {ι : Type}

/-- The first `k_msgq_put` fails only on a full queue. -/
theorem PutPc.length_of_refused {α : Type} {capacity : Nat} {frame : α}
    {msgq msgq' : BoundedQueue α capacity} {dropCounter dropCounter' : UInt32} {later : PutPc}
    (moved : PutPc.put.step frame msgq dropCounter = (msgq', dropCounter', some later)) :
    msgq.items.length = capacity := by
  cases stored : msgq.put frame with
  | none => exact BoundedQueue.put_eq_none_iff.mp stored
  | some next => simp [step, stored] at moved

namespace Pipeline

variable {opened pipeline next : Pipeline config ι} {i : Fin config.nmeaSinksMax}

/-- No call of `put_drop_oldest` on the way to slot `i` has found its queue full. -/
structure Unhindered (i : Fin config.nmeaSinksMax) (pipeline : Pipeline config ι) : Prop where
  uart : ∀ frame pc, pipeline.uartPc = .put frame pc → pc = .put
  dispatcher : ∀ frame slots before pc,
    pipeline.dispatcher = .putting frame i slots before pc → pc = .put

/-- There is room for everything on its way to slot `i`. -/
structure HasRoomFor (i : Fin config.nmeaSinksMax) (pipeline : Pipeline config ι) : Prop where
  ingest : (pipeline.upstream i).length ≤ config.ingestQueueDepth
  sink : (pipeline.upstream i).length ≤ config.sinkQueueDepth

namespace Unhindered

/-- Nothing is counted or about to be. -/
theorem counts (unhindered : pipeline.Unhindered i) (action : PipelineAction ι) :
    pipeline.countsIngest action = false ∧ pipeline.countsSink i action = false ∧
      pipeline.unsettled i = 0 := by
  have uart : pipeline.uartPc.unsettled = 0 ∧
      ∀ ch sys, pipeline.countsIngest (.uart ch sys) = false := by
    cases pc : pipeline.uartPc with
    | poll | publish | ledReceived => simp [UartPc.unsettled, countsIngest, pc]
    | put frame stage =>
        obtain rfl := unhindered.uart frame stage pc
        simp [UartPc.unsettled, PutPc.unsettled, countsIngest, PutPc.counts, pc]
  have dispatcher : pipeline.dispatcher.unsettled i = 0 ∧
      pipeline.dispatcher.counts i = false := by
    cases pc : pipeline.dispatcher with
    | waiting | locking | scanning | accounting => exact ⟨rfl, rfl⟩
    | putting frame j slots before stage =>
        by_cases here : i = j
        · subst here
          obtain rfl := unhindered.dispatcher frame slots before stage pc
          simp [DispatcherPc.unsettled, PutPc.unsettled, DispatcherPc.counts, PutPc.counts]
        · simp [DispatcherPc.unsettled, DispatcherPc.counts, here]
  refine ⟨?_, ?_, ?_⟩
  · cases action with
    | uart ch sys => exact uart.2 ch sys
    | dispatcher | session => rfl
  · cases action with
    | dispatcher => exact dispatcher.2
    | uart | session => rfl
  · rw [unsettled, uart.1, dispatcher.1]

theorem stepUart (unhindered : pipeline.Unhindered i) (room : pipeline.HasRoomFor i) (ch : Byte)
    (sys : SysReturn) : (pipeline.stepUart ch sys).Unhindered i := by
  have others := (pipeline.stepUart_others ch sys).2.1
  have step := pipeline.stepUart_cases ch sys
  generalize pipeline.stepUart ch sys = next at step others
  refine ⟨?_, ?_⟩
  · cases step with
    | reads pc => exact unhindered.uart
    | completes pc | rejects pc | returns pc | reports pc =>
        intro frame stage put
        cases put
    | accepts pc =>
        intro frame stage put
        cases put
        rfl
    | @operates frame stage bridge later pc moved =>
        obtain rfl := unhindered.uart frame stage pc
        rcases put : PutPc.put.step frame pipeline.shared.bridge.ingestMsgq
          pipeline.shared.bridge.bridgeStats.ingestDroppedOldest with ⟨msgq, dropped, rest⟩
        simp only [NmeaBridge.ingestPut, put, Prod.mk.injEq] at moved
        obtain ⟨rfl, rfl⟩ := moved
        have full := PutPc.length_of_refused put
        have fits := room.ingest
        simp only [upstream, NmeaBridge.toward, NmeaBridge.flow, pc, UartPc.inHand,
          List.length_append, List.length_map, List.length_singleton] at fits
        omega
  · rw [others]
    exact unhindered.dispatcher

theorem stepDispatcher [DecidableEq ι] (unhindered : pipeline.Unhindered i)
    (room : pipeline.HasRoomFor i) (taken : pipeline.step .dispatcher = some next) :
    next.Unhindered i := by
  obtain ⟨bridge, dispatcher, moved, rfl⟩ := step_dispatcher_cases taken
  refine ⟨unhindered.uart, ?_⟩
  have step := NmeaBridge.stepDispatcher_cases moved
  generalize pc : pipeline.dispatcher = dispatcherPc at step
  cases step with
  | takes | locks | endsUnsent | ends | skips | returns | accounts =>
      intro frame slots before stage putting
      cases putting
  | calls =>
      intro frame slots before stage putting
      cases putting
      rfl
  | @operates frame j slots before stage msgq dropped later put =>
      intro frame' slots' before' stage' putting
      cases putting
      obtain rfl := unhindered.dispatcher frame slots before stage pc
      have full := PutPc.length_of_refused put
      have fits := room.sink
      simp only [upstream, NmeaBridge.toward, NmeaBridge.flow, pc, DispatcherPc.pendingFor,
        true_or, if_true, List.length_append, List.length_map, List.length_singleton] at fits
      omega

/-- While there is room, no step of any thread finds a queue full. -/
theorem step [DecidableEq ι] (unhindered : pipeline.Unhindered i) (room : pipeline.HasRoomFor i)
    {action : PipelineAction ι} (taken : pipeline.step action = some next) :
    next.Unhindered i := by
  cases action with
  | uart ch sys =>
      cases taken
      exact unhindered.stepUart room ch sys
  | dispatcher => exact unhindered.stepDispatcher room taken
  | session id sys =>
      obtain ⟨shared, session, -, rfl⟩ := stepSession_cases taken
      exact ⟨unhindered.uart, unhindered.dispatcher⟩

end Unhindered

section Runs

variable [DecidableEq ι] {actions : List (PipelineAction ι)} {id : ι}

end Runs

end Pipeline

end EspNmeaBridge
