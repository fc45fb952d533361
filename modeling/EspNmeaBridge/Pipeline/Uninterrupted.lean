import EspNmeaBridge.Pipeline

/-!
# Uninterrupted calls

The bridge's functions exist twice: as atomic functions on `NmeaBridge`, and taken
apart into the steps of the threads that call them.  A thread that runs through a
call without interruption has the effect of the atomic function.  For each position
inside a call, `finish` or `outcome` is what the rest of the call makes of the
current state; every step of the thread keeps it.
-/

namespace EspNmeaBridge

open Library

variable {config : Config} {ι : Type}

namespace PutPc

section

variable {α : Type} {capacity : Nat}

/-- The second `k_msgq_put` of `put_drop_oldest` and what follows it. -/
def finishAgain (frame : α) (msgq : BoundedQueue α capacity) (dropCounter : UInt32) :
    BoundedQueue α capacity × UInt32 :=
  match msgq.put frame with
  | some msgq => (msgq, dropCounter)
  | none => (msgq, dropCounter + 1)

/-- `put_drop_oldest` from this position on. -/
def finish (frame : α) (msgq : BoundedQueue α capacity) (dropCounter : UInt32) :
    PutPc → BoundedQueue α capacity × UInt32
  | .put => putDropOldest msgq frame dropCounter
  | .get =>
      match msgq.get with
      | some (_, msgq) => finishAgain frame msgq (dropCounter + 1)
      | none => finishAgain frame msgq (dropCounter + 1)
  | .count => finishAgain frame msgq (dropCounter + 1)
  | .putAgain => finishAgain frame msgq dropCounter
  | .countAgain => (msgq, dropCounter + 1)

/-- Operations still to come after the one at this position, at most. -/
def remaining : PutPc → Nat
  | .put => 4
  | .get => 3
  | .count => 2
  | .putAgain => 1
  | .countAgain => 0

/-- An operation that is not the last keeps what `put_drop_oldest` will have done. -/
theorem finish_step_some {frame : α} {msgq msgq' : BoundedQueue α capacity}
    {dropCounter dropCounter' : UInt32} {pc next : PutPc}
    (moved : pc.step frame msgq dropCounter = (msgq', dropCounter', some next)) :
    next.finish frame msgq' dropCounter' = pc.finish frame msgq dropCounter ∧
      next.remaining < pc.remaining := by
  cases pc with
  | put =>
      cases stored : msgq.put frame with
      | some stored' => simp [step, stored] at moved
      | none =>
          simp only [step, stored, Prod.mk.injEq, Option.some.injEq] at moved
          obtain ⟨rfl, rfl, rfl⟩ := moved
          constructor
          · cases got : msgq.get with
            | none => simp [finish, finishAgain, putDropOldest, stored, got]
            | some pair =>
                cases again : pair.2.put frame <;>
                  simp [finish, finishAgain, putDropOldest, stored, got, again]
          · decide
  | get =>
      cases got : msgq.get with
      | some pair =>
          simp only [step, got, Prod.mk.injEq, Option.some.injEq] at moved
          obtain ⟨rfl, rfl, rfl⟩ := moved
          constructor
          · simp [finish, got]
          · decide
      | none =>
          simp only [step, got, Prod.mk.injEq, Option.some.injEq] at moved
          obtain ⟨rfl, rfl, rfl⟩ := moved
          constructor
          · simp [finish, got]
          · decide
  | count =>
      simp only [step, Prod.mk.injEq, Option.some.injEq] at moved
      obtain ⟨rfl, rfl, rfl⟩ := moved
      exact ⟨rfl, by decide⟩
  | putAgain =>
      cases stored : msgq.put frame with
      | some stored' => simp [step, stored] at moved
      | none =>
          simp only [step, stored, Prod.mk.injEq, Option.some.injEq] at moved
          obtain ⟨rfl, rfl, rfl⟩ := moved
          constructor
          · simp [finish, finishAgain, stored]
          · decide
  | countAgain => simp [step] at moved

/-- The last operation leaves what `put_drop_oldest` has done. -/
theorem finish_step_none {frame : α} {msgq msgq' : BoundedQueue α capacity}
    {dropCounter dropCounter' : UInt32} {pc : PutPc}
    (moved : pc.step frame msgq dropCounter = (msgq', dropCounter', none)) :
    (msgq', dropCounter') = pc.finish frame msgq dropCounter := by
  cases pc with
  | put | putAgain =>
      cases stored : msgq.put frame with
      | some stored' =>
          simp only [step, stored, Prod.mk.injEq, and_true] at moved
          simp [finish, finishAgain, putDropOldest, stored, moved]
      | none => simp [step, stored] at moved
  | get => cases got : msgq.get <;> simp [step, got] at moved
  | count => simp [step] at moved
  | countAgain =>
      simp only [step, Prod.mk.injEq, and_true] at moved
      simp [finish, moved]

end

end PutPc

section Dispatcher

namespace NmeaBridge

/-- The rest of the dispatcher's pass from its loop over the sinks on. -/
def finishScan (bridge : NmeaBridge config) (frame : NmeaFrame config)
    (slots : List (Fin config.nmeaSinksMax)) (any : Bool) : NmeaBridge config :=
  let (bridge, any) := slots.foldl (dispatchTo frame) (bridge, any)
  if !any then
    { bridge with bridgeStats.publishNoSinks := bridge.bridgeStats.publishNoSinks + 1 }
  else bridge

/-- The slot at hand with its frame put into the queue. -/
def finishPut (bridge : NmeaBridge config) (frame : NmeaFrame config)
    (i : Fin config.nmeaSinksMax) (pc : PutPc) : NmeaBridge config :=
  let slot := bridge.sinks i
  let (msgq, droppedOldest) := pc.finish frame slot.msgq slot.stats.droppedOldest
  bridge.setSlot i { slot with msgq, stats.droppedOldest := droppedOldest }

/-- The dispatcher's pass from this position on. -/
def outcome (bridge : NmeaBridge config) : DispatcherPc config → NmeaBridge config
  | .waiting => bridge
  | .locking frame => bridge.dispatch frame
  | .scanning frame slots any => bridge.finishScan frame slots any
  | .putting frame i slots before pc =>
      ((bridge.finishPut frame i pc).sinkAccount i before).finishScan frame slots true
  | .accounting frame i slots before => (bridge.sinkAccount i before).finishScan frame slots true

end NmeaBridge

/-- Steps still to come in the dispatcher's pass, at most. -/
def DispatcherPc.remaining : DispatcherPc config → Nat
  | .waiting => 0
  | .locking _ => 8 * config.nmeaSinksMax + 2
  | .scanning _ slots _ => 8 * slots.length + 1
  | .putting _ _ slots _ pc => 8 * slots.length + pc.remaining + 3
  | .accounting _ _ slots _ => 8 * slots.length + 2

/-- Putting a frame and accounting for it is the atomic step of the loop. -/
theorem NmeaBridge.dispatchTo_of_active {bridge : NmeaBridge config} {frame : NmeaFrame config}
    {i : Fin config.nmeaSinksMax} {any : Bool} (active : (bridge.sinks i).active = true) :
    dispatchTo frame (bridge, any) i =
      ((bridge.finishPut frame i .put).sinkAccount i (bridge.sinks i).stats.droppedOldest,
        true) := by
  rcases stored : putDropOldest (bridge.sinks i).msgq frame
    (bridge.sinks i).stats.droppedOldest with ⟨msgq, droppedOldest⟩
  simp [dispatchTo, finishPut, sinkAccount, PutPc.finish, stored, active, setSlot]

/-- A step of a pass keeps its outcome and brings its end closer. -/
theorem NmeaBridge.outcome_step (bridge : NmeaBridge config) {pc : DispatcherPc config}
    (busy : pc ≠ .waiting) :
    ∃ next nextPc, bridge.stepDispatcher pc = some (next, nextPc) ∧
      next.outcome nextPc = bridge.outcome pc ∧ nextPc.remaining < pc.remaining := by
  cases pc with
  | waiting => contradiction
  | locking frame =>
      refine ⟨_, _, rfl, rfl, ?_⟩
      simp [DispatcherPc.remaining]
  | scanning frame slots any =>
      cases slots with
      | nil =>
          cases any <;> exact ⟨_, _, rfl, rfl, by simp [DispatcherPc.remaining]⟩
      | cons i slots =>
          cases active : (bridge.sinks i).active with
          | false =>
              refine ⟨bridge, .scanning frame slots any, by simp [stepDispatcher, active], ?_, ?_⟩
              · simp [outcome, finishScan, dispatchTo, active]
              · simp [DispatcherPc.remaining]
          | true =>
              refine ⟨bridge, .putting frame i slots (bridge.sinks i).stats.droppedOldest .put,
                by simp [stepDispatcher, active], ?_, ?_⟩
              · simp only [outcome, finishScan, List.foldl_cons, dispatchTo_of_active active]
              · simp only [DispatcherPc.remaining, PutPc.remaining, List.length_cons]
                omega
  | putting frame i slots before stage =>
      rcases moved : stage.step frame (bridge.sinks i).msgq (bridge.sinks i).stats.droppedOldest
        with ⟨msgq, droppedOldest, _ | later⟩
      · refine ⟨bridge.setSlot i
            { bridge.sinks i with msgq, stats.droppedOldest := droppedOldest },
          .accounting frame i slots before, by simp only [stepDispatcher, sinkPut, moved], ?_, ?_⟩
        · have done := PutPc.finish_step_none moved
          simp only [outcome, finishPut, ← done]
        · simp only [DispatcherPc.remaining]
          omega
      · refine ⟨bridge.setSlot i
            { bridge.sinks i with msgq, stats.droppedOldest := droppedOldest },
          .putting frame i slots before later, by simp only [stepDispatcher, sinkPut, moved],
          ?_, ?_⟩
        · have kept := (PutPc.finish_step_some moved).1
          simp [outcome, finishPut, kept, setSlot]
        · have fewer := (PutPc.finish_step_some moved).2
          simp only [DispatcherPc.remaining]
          omega
  | accounting frame i slots before =>
      refine ⟨_, _, rfl, rfl, ?_⟩
      simp [DispatcherPc.remaining]

end Dispatcher

section Uart

namespace NmeaBridge

/-- The bridge when the UART thread has finished publishing from this position on. -/
def publishOutcome (bridge : NmeaBridge config) : UartPc config → NmeaBridge config
  | .poll | .ledReceived => bridge
  | .publish line => (bridge.publishFrame (some line)).1
  | .put frame pc =>
      let (ingestMsgq, ingestDroppedOldest) :=
        pc.finish frame bridge.ingestMsgq bridge.bridgeStats.ingestDroppedOldest
      { bridge with ingestMsgq, bridgeStats.ingestDroppedOldest := ingestDroppedOldest }

end NmeaBridge

namespace UartPc

/-- Steps still to come until a line is published, at most. -/
def remaining : UartPc config → Nat
  | .poll | .ledReceived => 0
  | .publish _ => 6
  | .put _ pc => pc.remaining + 1

/-- The thread is inside `nmea_bridge_publish_frame`. -/
def Publishing : UartPc config → Prop
  | .poll | .ledReceived => False
  | .publish _ | .put _ _ => True

end UartPc

/-- A step of a publication keeps its outcome and brings its end closer. -/
theorem Pipeline.publishOutcome_step (pipeline : Pipeline config ι)
    (publishing : pipeline.uartPc.Publishing) (ch : Byte) (sys : SysReturn) :
    ∃ bridge uartPc,
      pipeline.stepUart ch sys = { pipeline with shared.bridge := bridge, uartPc } ∧
      bridge.publishOutcome uartPc = pipeline.shared.bridge.publishOutcome pipeline.uartPc ∧
      (uartPc.Publishing ∨ uartPc = .ledReceived) ∧
      uartPc.remaining < pipeline.uartPc.remaining := by
  cases pc : pipeline.uartPc with
  | poll => simp [pc, UartPc.Publishing] at publishing
  | ledReceived => simp [pc, UartPc.Publishing] at publishing
  | publish line =>
      rcases checked : pipeline.shared.bridge.publishCheck (some line) with ⟨bridge, errno | frame⟩
      · refine ⟨bridge, .ledReceived, by simp only [stepUart, pc, checked], ?_, Or.inr rfl, ?_⟩
        · simp [NmeaBridge.publishOutcome, NmeaBridge.publishFrame, checked]
        · simp [UartPc.remaining]
      · refine ⟨bridge, .put frame .put, by simp only [stepUart, pc, checked], ?_,
          Or.inl trivial, ?_⟩
        · simp [NmeaBridge.publishOutcome, NmeaBridge.publishFrame, checked, PutPc.finish]
        · simp [UartPc.remaining, PutPc.remaining]
  | put frame stage =>
      rcases moved : stage.step frame pipeline.shared.bridge.ingestMsgq
        pipeline.shared.bridge.bridgeStats.ingestDroppedOldest with
        ⟨ingestMsgq, ingestDroppedOldest, _ | later⟩
      · refine ⟨{ pipeline.shared.bridge with
            ingestMsgq, bridgeStats.ingestDroppedOldest := ingestDroppedOldest }, .ledReceived,
          by simp only [stepUart, pc, NmeaBridge.ingestPut, moved], ?_, Or.inr rfl, ?_⟩
        · simp only [NmeaBridge.publishOutcome, ← PutPc.finish_step_none moved]
        · simp [UartPc.remaining]
      · obtain ⟨kept, fewer⟩ := PutPc.finish_step_some moved
        refine ⟨{ pipeline.shared.bridge with
            ingestMsgq, bridgeStats.ingestDroppedOldest := ingestDroppedOldest },
          .put frame later, by simp only [stepUart, pc, NmeaBridge.ingestPut, moved], ?_,
          Or.inl trivial, ?_⟩
        · simp only [NmeaBridge.publishOutcome, kept]
        · simpa [UartPc.remaining] using fewer

end Uart

namespace Pipeline

/-- The dispatcher is in the pass it was in at `start`, and nobody else has moved. -/
def InPass (start pipeline : Pipeline config ι) : Prop :=
  ∃ bridge dispatcher, pipeline = { start with shared.bridge := bridge, dispatcher } ∧
    bridge.outcome dispatcher = start.shared.bridge.outcome start.dispatcher

/-- The UART thread is in the publication it was in at `start`, or past it, and nobody
else has moved. -/
def InPublication (start pipeline : Pipeline config ι) : Prop :=
  ∃ bridge uartPc, pipeline = { start with shared.bridge := bridge, uartPc } ∧
    bridge.publishOutcome uartPc = start.shared.bridge.publishOutcome start.uartPc ∧
    (uartPc.Publishing ∨ uartPc = .ledReceived)

variable [DecidableEq ι] (start : Pipeline config ι)

/-- Left to itself, the dispatcher finishes its pass, with the outcome of the pass. -/
theorem exec_dispatcher :
    ∃ count, (machine config ι).exec start (List.replicate count .dispatcher) =
      some { start with
        shared.bridge := start.shared.bridge.outcome start.dispatcher
        dispatcher := .waiting } := by
  have progress : ∀ pipeline : Pipeline config ι, start.InPass pipeline →
      ¬ pipeline.dispatcher = .waiting →
      ∃ next, (machine config ι).step pipeline .dispatcher = some next ∧ start.InPass next ∧
        next.dispatcher.remaining < pipeline.dispatcher.remaining := by
    rintro _ ⟨bridge, dispatcher, rfl, same⟩ busy
    obtain ⟨bridge', dispatcher', taken, kept, fewer⟩ := bridge.outcome_step busy
    refine ⟨_, ?_, ⟨bridge', dispatcher', rfl, kept.trans same⟩, fewer⟩
    simp only [machine, step, taken]
  obtain ⟨count, finish, run, ⟨bridge, dispatcher, rfl, same⟩, waiting⟩ :=
    Machine.exists_exec_replicate start.InPass (·.dispatcher = .waiting) (·.dispatcher.remaining)
      PipelineAction.dispatcher progress ⟨start.shared.bridge, start.dispatcher, rfl, rfl⟩
  obtain rfl : dispatcher = .waiting := waiting
  refine ⟨count, ?_⟩
  rw [run, ← same]
  rfl

/-- An uninterrupted pass over a frame is the atomic pass. -/
theorem exec_dispatcherThread {frame : NmeaFrame config} {bridge : NmeaBridge config}
    (waiting : start.dispatcher = .waiting)
    (pass : start.shared.bridge.dispatcherThread = some (frame, bridge)) :
    ∃ count, (machine config ι).exec start (List.replicate count .dispatcher) =
      some { start with shared.bridge := bridge, dispatcher := .waiting } := by
  unfold NmeaBridge.dispatcherThread at pass
  cases got : start.shared.bridge.ingestMsgq.get with
  | none => simp [got] at pass
  | some pair =>
      simp only [got, Option.some.injEq, Prod.mk.injEq] at pass
      obtain ⟨rfl, rfl⟩ := pass
      obtain ⟨count, run⟩ := exec_dispatcher { start with
        shared.bridge := { start.shared.bridge with ingestMsgq := pair.2 }
        dispatcher := .locking pair.1 }
      refine ⟨count + 1, ?_⟩
      rw [List.replicate_succ, Machine.exec_cons]
      simp only [machine, step, waiting, NmeaBridge.stepDispatcher, got, Option.bind_some]
      exact run

/-- An uninterrupted publication is the atomic one, after which the thread reports
the frame to the status LED and reads on. -/
theorem exec_publish {line : List Byte} (publish : start.uartPc = .publish line) (ch : Byte)
    (sys : SysReturn) :
    ∃ count, (machine config ι).exec start (List.replicate count (.uart ch sys)) =
      some { start with
        shared := SessionShared.observe
          { start.shared with bridge := (start.shared.bridge.publishFrame (some line)).1 }
          (StatusLed.nmeaFrameReceived · sys.nowMs)
        uartPc := .poll } := by
  have progress : ∀ pipeline : Pipeline config ι, start.InPublication pipeline →
      ¬ pipeline.uartPc = .ledReceived →
      ∃ next, (machine config ι).step pipeline (.uart ch sys) = some next ∧
        start.InPublication next ∧ next.uartPc.remaining < pipeline.uartPc.remaining := by
    rintro _ ⟨bridge, uartPc, rfl, same, publishing⟩ busy
    obtain ⟨bridge', uartPc', taken, kept, later, fewer⟩ :=
      publishOutcome_step { start with shared.bridge := bridge, uartPc }
        (publishing.resolve_right busy) ch sys
    exact ⟨_, congrArg some taken, ⟨bridge', uartPc', rfl, kept.trans same, later⟩, fewer⟩
  have begun : start.InPublication start := by
    refine ⟨start.shared.bridge, start.uartPc, rfl, rfl, Or.inl ?_⟩
    rw [publish]
    trivial
  obtain ⟨count, finish, run, ⟨bridge, uartPc, rfl, same, _⟩, published⟩ :=
    Machine.exists_exec_replicate start.InPublication (·.uartPc = .ledReceived)
      (·.uartPc.remaining) (PipelineAction.uart ch sys) progress begun
  obtain rfl : uartPc = .ledReceived := published
  rw [publish] at same
  have outcome : bridge = (start.shared.bridge.publishFrame (some line)).1 := same
  refine ⟨count + 1, ?_⟩
  rw [List.replicate_succ', Machine.exec_append, run, ← outcome]
  rfl

end Pipeline

section Take

/-- Where a session goes on after a take. -/
def SessionPc.afterTake : Except Errno (NmeaFrame config) → SessionPc config
  | .ok frame => .send frame 0
  | .error errno => if errno = .enotconn then .ledEnded else .drain

/-- An uninterrupted take is the atomic one. -/
theorem Pipeline.exec_sinkTake [DecidableEq ι] (pipeline : Pipeline config ι) {id : ι}
    (sys : SysReturn) (pc : (pipeline.sessions id).pc = .takeCheck)
    (unlocked : pipeline.dispatcher.locked = false) {bridge : NmeaBridge config}
    {result : Except Errno (NmeaFrame config)}
    (take : pipeline.shared.bridge.sinkTake (some (pipeline.sessions id).sink) true .wait =
      some (bridge, result)) :
    ∃ count, (machine config ι).exec pipeline (List.replicate count (.session id sys)) =
      some { pipeline with
        shared.bridge := bridge
        sessions := Function.update pipeline.sessions id
          { pipeline.sessions id with pc := .afterTake result } } := by
  cases checked : pipeline.shared.bridge.takeCheck (pipeline.sessions id).sink with
  | error errno =>
      simp only [NmeaBridge.sinkTake, checked, Option.some.injEq, Prod.mk.injEq] at take
      obtain ⟨rfl, rfl⟩ := take
      refine ⟨1, ?_⟩
      simp [machine, step, stepSession, TcpNmeaSession.step, pc, checked, unlocked,
        SessionPc.afterTake]
  | ok slot =>
      cases got : pipeline.shared.bridge.takeGet slot .wait with
      | none => simp [NmeaBridge.sinkTake, checked, got] at take
      | some outcome =>
          rcases outcome with ⟨middle, errno | frame⟩
          · simp only [NmeaBridge.sinkTake, checked, got, Option.some.injEq, Prod.mk.injEq] at take
            obtain ⟨rfl, rfl⟩ := take
            refine ⟨2, ?_⟩
            simp [List.replicate, machine, step, stepSession, TcpNmeaSession.step, pc, checked,
              got, unlocked, SessionPc.afterTake, TcpNmeaSession.needsSinksLock]
          · simp only [NmeaBridge.sinkTake, checked, got, Option.some.injEq, Prod.mk.injEq] at take
            obtain ⟨rfl, rfl⟩ := take
            refine ⟨3, ?_⟩
            simp [List.replicate, machine, step, stepSession, TcpNmeaSession.step, pc, checked,
              got, unlocked, SessionPc.afterTake, TcpNmeaSession.needsSinksLock]

end Take

namespace Pipeline

variable [DecidableEq ι]

/-- The calls of the threads, not interrupted, are the atomic functions of the bridge. -/
structure CallsAtomic (start : Pipeline config ι) : Prop where
  dispatcherThread : ∀ frame bridge, start.dispatcher = .waiting →
    start.shared.bridge.dispatcherThread = some (frame, bridge) →
    ∃ count, (machine config ι).exec start (List.replicate count .dispatcher) =
      some { start with shared.bridge := bridge, dispatcher := .waiting }
  /-- Also when the thread is first left to itself in the middle of a pass. -/
  pass : ∃ count, (machine config ι).exec start (List.replicate count .dispatcher) =
    some { start with
      shared.bridge := start.shared.bridge.outcome start.dispatcher
      dispatcher := .waiting }
  publishFrame : ∀ line ch sys, start.uartPc = .publish line →
    ∃ count, (machine config ι).exec start (List.replicate count (.uart ch sys)) =
      some { start with
        shared := SessionShared.observe
          { start.shared with bridge := (start.shared.bridge.publishFrame (some line)).1 }
          (StatusLed.nmeaFrameReceived · sys.nowMs)
        uartPc := .poll }
  sinkTake : ∀ id sys bridge result, (start.sessions id).pc = .takeCheck →
    start.dispatcher.locked = false →
    start.shared.bridge.sinkTake (some (start.sessions id).sink) true .wait =
      some (bridge, result) →
    ∃ count, (machine config ι).exec start (List.replicate count (.session id sys)) =
      some { start with
        shared.bridge := bridge
        sessions := Function.update start.sessions id
          { start.sessions id with pc := .afterTake result } }
  sinkOpen : ∀ id sys bridge sink result, (start.sessions id).pc = .sinkOpen →
    start.dispatcher.locked = false →
    start.shared.bridge.sinkOpen (some (start.sessions id).sink) (start.sessions id).sinkName =
      (bridge, some sink, result) →
    start.step (.session id sys) = some { start with
      shared.bridge := bridge
      sessions := Function.update start.sessions id { start.sessions id with
        sink, pc := if result = .ok () then .incActive else .closeUnopened } }
  sinkClose : ∀ id sys bridge sink, (start.sessions id).pc = .sinkClose →
    start.dispatcher.locked = false →
    start.shared.bridge.sinkClose (some (start.sessions id).sink) = (bridge, some sink) →
    start.step (.session id sys) = some { start with
      shared.bridge := bridge
      sessions := Function.update start.sessions id
        { start.sessions id with sink, pc := .closeFd } }

/-- From every state, a thread that runs through a call of the bridge without interruption
does what the atomic function does. -/
theorem callsAtomic (start : Pipeline config ι) : CallsAtomic start := by
  constructor
  case dispatcherThread =>
    intro frame bridge waiting pass
    exact exec_dispatcherThread start waiting pass
  case pass => exact exec_dispatcher start
  case publishFrame =>
    intro line ch sys publish
    exact exec_publish start publish ch sys
  case sinkTake =>
    intro id sys bridge result pc unlocked take
    exact exec_sinkTake start sys pc unlocked take
  case sinkOpen =>
    intro id sys bridge sink result pc unlocked opened
    simp [step, stepSession, TcpNmeaSession.step, pc, unlocked, opened]
  case sinkClose =>
    intro id sys bridge sink pc unlocked closed
    simp [step, stepSession, TcpNmeaSession.step, pc, unlocked, closed]

end Pipeline

end EspNmeaBridge
