import EspNmeaBridge.Firmware.SessionCounts
import EspNmeaBridge.Firmware.Stream
import EspNmeaBridge.Library.Counter
import EspNmeaBridge.Pipeline.Losses

/-!
# The warning of lost frames

Telemetry warns of lost frames when one of two counters is not zero: that of the ingest
queue, and the one to which the dispatcher adds the drops of all sinks after each put.
Between two passes of the dispatcher they hold every overflow since the start, those of
closed sinks too.  An overflow has cost a frame unless a session emptied the queue before
`put_drop_oldest` came to make room.  So the warning is given exactly when a queue has
overflowed, and while it is not given every client gets an unbroken piece of the stream.
-/

namespace EspNmeaBridge

open Library

variable {config : Config} {ι : Type}

/-- The frame the dispatcher has taken and not begun to hand out. -/
def DispatcherPc.inHand : DispatcherPc config → List (NmeaFrame config)
  | .locking frame => [frame]
  | .waiting | .scanning .. | .putting .. | .accounting .. => []

/-- The position of the call of `put_drop_oldest` the UART thread is in. -/
def UartPc.putPc : UartPc config → Option PutPc
  | .put _ pc => some pc
  | .poll | .publish _ | .ledReceived => none

/-- The position of the call of `put_drop_oldest` the dispatcher is in. -/
def DispatcherPc.putPc : DispatcherPc config → Option PutPc
  | .putting _ _ _ _ pc => some pc
  | .waiting | .locking _ | .scanning .. | .accounting .. => none

namespace PutPc

variable {α : Type} {capacity : Nat}

/-- An overflow that the call has yet to count. -/
def uncounted : Option PutPc → Nat
  | some .get | some .count => 1
  | some .put | some .putAgain | some .countAgain | none => 0

/-- An overflow that the call has yet to throw a frame away for. -/
def unanswered : Option PutPc → Nat
  | some .get => 1
  | some .put | some .count | some .putAgain | some .countAgain | none => 0

/-- What an operation adds to the overflows, to those counted and to those answered. -/
structure Overflows (pc : PutPc) (event : PutEvent α ι) (later : Option PutPc) : Prop where
  accepted : event ≠ .refusedAgain
  counted : event.isRefused.toNat + uncounted (some pc) = pc.counts.toNat + uncounted later
  answered : event.isRefused.toNat + unanswered (some pc) =
    event.discarded?.toList.length + event.isFoundEmpty.toNat + unanswered later

/-- With the room kept for it, the frame is not refused again. -/
theorem step_overflows (pc : PutPc) (frame : α) (msgq : BoundedQueue α capacity)
    (dropCounter : UInt32) (room : PutState.HasRoom ⟨msgq, dropCounter, some (frame, pc)⟩) :
    pc.Overflows (pc.event (ι := ι) frame msgq) (pc.step frame msgq dropCounter).2.2 := by
  cases pc with
  | put =>
      cases stored : msgq.put frame <;>
        constructor <;> simp [event, step, stored, counts, uncounted, unanswered]
  | get =>
      cases got : msgq.get <;>
        constructor <;> simp [event, step, got, counts, uncounted, unanswered]
  | count => constructor <;> simp [event, step, counts, uncounted, unanswered]
  | putAgain =>
      cases stored : msgq.put frame with
      | none => exact absurd (BoundedQueue.put_eq_none_iff.mp stored) (Nat.ne_of_lt room)
      | some next => constructor <;> simp [event, step, stored, counts, uncounted, unanswered]
  | countAgain => exact room.elim

end PutPc

namespace Pipeline

/-- Lines on their way to every session, oldest first. -/
def undispatched (pipeline : Pipeline config ι) : List (List Byte) :=
  pipeline.dispatcher.inHand.map NmeaFrame.data ++ pipeline.incoming

/-- The step increments the drop counter of some slot. -/
def countsAnySink (pipeline : Pipeline config ι) : PipelineAction ι → Bool
  | .dispatcher =>
      match pipeline.dispatcher with
      | .putting _ _ _ _ pc => pc.counts
      | .waiting | .locking _ | .scanning .. | .accounting .. => false
  | .uart .. | .session .. => false

/-- Drops of the slot at hand that the dispatcher has yet to add to the counter of the bridge. -/
def unaccounted (pipeline : Pipeline config ι) : UInt32 :=
  match pipeline.dispatcher with
  | .putting _ i _ before _ | .accounting _ i _ before =>
      (pipeline.shared.bridge.sinks i).stats.droppedOldest - before
  | .waiting | .locking _ | .scanning .. => 0

/-- What a step makes of the two counters of lost frames. -/
structure AddsUp (pipeline : Pipeline config ι) (action : PipelineAction ι)
    (next : Pipeline config ι) : Prop where
  ingest : next.shared.bridge.bridgeStats.ingestDroppedOldest =
    pipeline.shared.bridge.bridgeStats.ingestDroppedOldest +
      UInt32.ofNat (pipeline.countsIngest action).toNat
  sinks : next.shared.bridge.bridgeStats.sinkDroppedOldest + next.unaccounted =
    pipeline.shared.bridge.bridgeStats.sinkDroppedOldest + pipeline.unaccounted +
      UInt32.ofNat (pipeline.countsAnySink action).toNat

section Counters

variable {pipeline next : Pipeline config ι}

theorem unaccounted_of_unlocked (unlocked : pipeline.dispatcher.locked = false) :
    pipeline.unaccounted = 0 := by
  cases pc : pipeline.dispatcher with
  | waiting | locking => simp [unaccounted, pc]
  | scanning | putting | accounting => simp [DispatcherPc.locked, pc] at unlocked

theorem unaccounted_add (total dropped before counted : UInt32) :
    total + (dropped + counted - before) = total + (dropped - before) + counted := by
  rw [UInt32.sub_eq_add_neg, UInt32.sub_eq_add_neg, UInt32.add_assoc dropped,
    UInt32.add_comm counted, ← UInt32.add_assoc dropped, ← UInt32.add_assoc]

/-- The checks of a publish lose no frame. -/
theorem publishCheck_sinkDropped (bridge : NmeaBridge config) (data : Option (List Byte)) :
    (bridge.publishCheck data).1.bridgeStats.sinkDroppedOldest =
      bridge.bridgeStats.sinkDroppedOldest := by
  unfold NmeaBridge.publishCheck
  split
  · rfl
  · split
    · rfl
    · split <;> rfl

theorem addsUp_stepUart (inStep : pipeline.UartInStep) (ch : Byte) (sys : SysReturn) :
    AddsUp pipeline (.uart ch sys) (pipeline.stepUart ch sys) := by
  refine ⟨(receives_stepUart inStep ch sys).ingest, ?_⟩
  have others : (pipeline.stepUart ch sys).sessions = pipeline.sessions ∧ _ ∧ _ :=
    stepUart_others ch sys
  have same : (pipeline.stepUart ch sys).shared.bridge.bridgeStats.sinkDroppedOldest =
      pipeline.shared.bridge.bridgeStats.sinkDroppedOldest := by
    have step := pipeline.stepUart_cases ch sys
    generalize pipeline.stepUart ch sys = next at step
    cases step with
    | reads | completes => rfl
    | @rejects line bridge errno pc checked | @accepts line bridge frame pc checked =>
        have kept := publishCheck_sinkDropped pipeline.shared.bridge (some line)
        rw [checked] at kept
        exact kept
    | operates pc moved | returns pc moved =>
        cases congrArg Prod.fst moved
        rfl
    | reports => rw [SessionShared.observe_bridge]
  simp only [unaccounted, others.2.1, others.2.2, same, countsAnySink]
  exact (add_zero _).symm

theorem addsUp_stepDispatcher [DecidableEq ι] (taken : pipeline.step .dispatcher = some next) :
    AddsUp pipeline .dispatcher next := by
  obtain ⟨bridge, dispatcher, moved, rfl⟩ := step_dispatcher_cases taken
  constructor
  · rw [(NmeaBridge.stepDispatcher_ingest moved).1]
    exact (add_zero _).symm
  · have step := NmeaBridge.stepDispatcher_cases moved
    generalize pc : pipeline.dispatcher = dispatcherPc at step
    cases step with
    | takes | locks | endsUnsent | ends | skips | calls => simp [unaccounted, countsAnySink, pc]
    | @operates frame i slots before stage msgq dropped later put
    | @returns frame i slots before stage msgq dropped put =>
        have counted := (stage.step_thins frame (pipeline.shared.bridge.sinks i).msgq
          (pipeline.shared.bridge.sinks i).stats.droppedOldest).2
        rw [put] at counted
        change dropped = _ at counted
        simp only [unaccounted, countsAnySink, pc, NmeaBridge.setSlot_sinks, Function.update_self,
          counted]
        exact unaccounted_add _ _ _ _
    | accounts frame i slots before =>
        simp only [unaccounted, countsAnySink, pc, NmeaBridge.sinkAccount, Bool.toNat_false]
        by_cases same : (pipeline.shared.bridge.sinks i).stats.droppedOldest = before
        · simp [same]
        · simp [same]

/-- Sessions that take from the slot at hand do not touch its drop counter, and the others
wait for the lock. -/
theorem addsUp_stepSession [DecidableEq ι] {id : ι} {sys : SysReturn}
    (taken : pipeline.step (.session id sys) = some next) :
    AddsUp pipeline (.session id sys) next := by
  have letIn : pipeline.dispatcher.locked = true →
      (pipeline.sessions id).needsSinksLock = false := by
    intro locked
    cases needs : (pipeline.sessions id).needsSinksLock with
    | false => rfl
    | true => simp [step, stepSession, needs, locked] at taken
  obtain ⟨shared, session, moved, shape⟩ := stepSession_cases taken
  obtain ⟨-, stats, reads⟩ := TcpNmeaSession.step_queues moved
  constructor
  · rw [shape, stats]
    exact (add_zero _).symm
  · cases locked : pipeline.dispatcher.locked with
    | false =>
        have later : next.unaccounted = 0 := by
          apply unaccounted_of_unlocked
          rw [shape]
          exact locked
        rw [later, unaccounted_of_unlocked locked, shape, stats]
        exact (add_zero _).symm
    | true =>
        have dropped := fun i => (reads (letIn locked) i).dropped
        rw [shape]
        simp only [unaccounted, stats, dropped, countsAnySink]
        exact (add_zero _).symm

theorem addsUp_step [DecidableEq ι] (inStep : pipeline.UartInStep) {action : PipelineAction ι}
    (taken : pipeline.step action = some next) : AddsUp pipeline action next := by
  cases action with
  | uart ch sys =>
      cases taken
      exact addsUp_stepUart inStep ch sys
  | dispatcher => exact addsUp_stepDispatcher taken
  | session id sys => exact addsUp_stepSession taken

/-- What is counted for one slot is counted. -/
theorem countsSink_le (pipeline : Pipeline config ι) (i : Fin config.nmeaSinksMax)
    (action : PipelineAction ι) :
    (pipeline.countsSink i action).toNat ≤ (pipeline.countsAnySink action).toNat := by
  cases action with
  | uart | session => exact Nat.le_refl _
  | dispatcher =>
      cases pc : pipeline.dispatcher with
      | waiting | locking | scanning | accounting =>
          simp [countsSink, DispatcherPc.counts, pc]
      | putting frame j slots before stage =>
          by_cases here : i = j <;> simp [countsSink, countsAnySink, DispatcherPc.counts, pc, here]

end Counters

section Overflows

variable {pipeline next : Pipeline config ι} {action : PipelineAction ι} {counted : Nat}
  {events : List (PutEvent (NmeaFrame config) ι)}

/-- What is shared beside the bridge does not matter. -/
theorem HasRoom.withShared (room : pipeline.HasRoom) {shared : SessionShared config}
    (bridge : shared.bridge = pipeline.shared.bridge) : HasRoom { pipeline with shared } := by
  have same : ingestView { pipeline with shared } = pipeline.ingestView ∧
      ∀ i, sinkView i { pipeline with shared } = sinkView i pipeline := by
    simp [ingestView, sinkView, uartCall, dispatcherCall, bridge]
  constructor
  · rw [same.1]
    exact room.1
  · intro i
    rw [same.2]
    exact room.2 i

theorem HasRoom.startSession [DecidableEq ι] (room : pipeline.HasRoom) (id : ι) (fd : Int)
    (sinkName : String) (sink : NmeaBridgeSink) :
    (pipeline.startSession id fd sinkName sink).HasRoom := room

/-- The positions of the two calls of `put_drop_oldest` that may be on their way, weighed. -/
def pendingPuts (weight : Option PutPc → Nat) (pipeline : Pipeline config ι) : Nat :=
  weight pipeline.uartPc.putPc + weight pipeline.dispatcher.putPc

/-- What a step does as an operation of `put_drop_oldest`. -/
def putEvent? (pipeline : Pipeline config ι) :
    PipelineAction ι → Option (PutEvent (NmeaFrame config) ι)
  | .uart .. =>
      match pipeline.uartPc with
      | .put frame pc => some (pc.event frame pipeline.shared.bridge.ingestMsgq)
      | .poll | .publish _ | .ledReceived => none
  | .dispatcher =>
      match pipeline.dispatcher with
      | .putting frame i _ _ pc => some (pc.event frame (pipeline.shared.bridge.sinks i).msgq)
      | .waiting | .locking _ | .scanning .. | .accounting .. => none
  | .session .. => none

/-- A step is an operation of `put_drop_oldest`, or leaves the overflows alone. -/
inductive PutsIn (pipeline : Pipeline config ι) (action : PipelineAction ι)
    (next : Pipeline config ι) : Prop where
  | quiet (silent : pipeline.putEvent? action = none)
      (counts : (pipeline.countsIngest action).toNat + (pipeline.countsAnySink action).toNat = 0)
      (pending : ∀ weight : Option PutPc → Nat, weight (some .put) = weight none →
        next.pendingPuts weight = pipeline.pendingPuts weight)
  | operates (pc : PutPc) (later : Option PutPc) (event : PutEvent (NmeaFrame config) ι)
      (seen : pipeline.putEvent? action = some event) (overflows : pc.Overflows event later)
      (counts : (pipeline.countsIngest action).toNat + (pipeline.countsAnySink action).toNat =
        pc.counts.toNat)
      (pending : ∀ weight : Option PutPc → Nat,
        next.pendingPuts weight + weight (some pc) = pipeline.pendingPuts weight + weight later)

theorem putsIn_stepUart (room : pipeline.HasRoom) (ch : Byte) (sys : SysReturn) :
    PutsIn pipeline (.uart ch sys) (pipeline.stepUart ch sys) := by
  have room := room.1
  have step := pipeline.stepUart_cases ch sys
  generalize pipeline.stepUart ch sys = next at step
  cases step with
  | reads pc | completes pc | rejects pc | reports pc =>
      apply PutsIn.quiet
      · simp [putEvent?, pc]
      · simp [countsIngest, countsAnySink, pc]
      · simp [pendingPuts, UartPc.putPc, pc]
  | accepts pc =>
      apply PutsIn.quiet
      · simp [putEvent?, pc]
      · simp [countsIngest, countsAnySink, pc]
      · intro weight idle
        simp [pendingPuts, UartPc.putPc, pc, idle]
  | @operates frame stage bridge later pc moved | @returns frame stage bridge pc moved =>
      have staged : pipeline.ingestView = ⟨pipeline.shared.bridge.ingestMsgq,
          pipeline.shared.bridge.bridgeStats.ingestDroppedOldest, some (frame, stage)⟩ := by
        simp [ingestView, uartCall, pc]
      rw [staged] at room
      have overflows := stage.step_overflows (ι := ι) frame _ _ room
      rcases put : stage.step frame pipeline.shared.bridge.ingestMsgq
        pipeline.shared.bridge.bridgeStats.ingestDroppedOldest with ⟨msgq, dropped, rest⟩
      simp only [NmeaBridge.ingestPut, put, Prod.mk.injEq] at moved
      obtain ⟨rfl, rfl⟩ := moved
      rw [put] at overflows
      apply PutsIn.operates stage _ _ _ overflows
      · simp [countsIngest, countsAnySink, pc]
      · intro weight
        simp only [pendingPuts, UartPc.putPc, pc]
        omega
      · simp [putEvent?, pc]

theorem putsIn_stepDispatcher [DecidableEq ι] (room : pipeline.HasRoom)
    (taken : pipeline.step .dispatcher = some next) : PutsIn pipeline .dispatcher next := by
  obtain ⟨bridge, dispatcher, moved, rfl⟩ := step_dispatcher_cases taken
  have room := room.2
  have step := NmeaBridge.stepDispatcher_cases moved
  generalize pc : pipeline.dispatcher = dispatcherPc at step
  cases step with
  | takes | locks | endsUnsent | ends | skips | accounts =>
      apply PutsIn.quiet
      · simp [putEvent?, pc]
      · simp [countsIngest, countsAnySink, pc]
      · simp [pendingPuts, DispatcherPc.putPc, pc]
  | calls =>
      apply PutsIn.quiet
      · simp [putEvent?, pc]
      · simp [countsIngest, countsAnySink, pc]
      · intro weight idle
        simp [pendingPuts, DispatcherPc.putPc, pc, idle]
  | @operates frame i slots before stage msgq dropped later put
  | @returns frame i slots before stage msgq dropped put =>
      have room := room i
      have staged : pipeline.sinkView i = ⟨(pipeline.shared.bridge.sinks i).msgq,
          (pipeline.shared.bridge.sinks i).stats.droppedOldest, some (frame, stage)⟩ := by
        simp [sinkView, dispatcherCall, pc]
      rw [staged] at room
      have overflows := stage.step_overflows (ι := ι) frame _ _ room
      rw [put] at overflows
      apply PutsIn.operates stage _ _ _ overflows
      · simp [countsIngest, countsAnySink, pc]
      · intro weight
        simp only [pendingPuts, DispatcherPc.putPc, pc]
        omega
      · simp [putEvent?, pc]

theorem putsIn_step [DecidableEq ι] (room : pipeline.HasRoom)
    (taken : pipeline.step action = some next) : PutsIn pipeline action next := by
  cases action with
  | uart ch sys =>
      cases taken
      exact putsIn_stepUart room ch sys
  | dispatcher => exact putsIn_stepDispatcher room taken
  | session id sys =>
      obtain ⟨shared, session, -, rfl⟩ := stepSession_cases taken
      apply PutsIn.quiet
      · rfl
      · rfl
      · exact fun _ _ => rfl

/-- Every overflow is counted, or about to be, and has been answered with one frame thrown
away or an empty queue, or is about to be. -/
structure OverflowsTold (events : List (PutEvent (NmeaFrame config) ι)) (counted : Nat)
    (pipeline : Pipeline config ι) : Prop where
  accepted : .refusedAgain ∉ events
  counted : events.countP PutEvent.isRefused = counted + pipeline.pendingPuts PutPc.uncounted
  answered : events.countP PutEvent.isRefused =
    (events.filterMap PutEvent.discarded?).length + events.countP PutEvent.isFoundEmpty +
      pipeline.pendingPuts PutPc.unanswered

namespace OverflowsTold

theorem of_initial (initial : pipeline.Initial) :
    OverflowsTold ([] : List (PutEvent (NmeaFrame config) ι)) 0 pipeline := by
  obtain ⟨fd, name, sink, rfl⟩ := initial
  constructor <;> simp [pendingPuts, UartPc.putPc, DispatcherPc.putPc, PutPc.uncounted,
    PutPc.unanswered]

theorem step (told : OverflowsTold events counted pipeline)
    (puts : PutsIn pipeline action next) :
    OverflowsTold (events ++ (pipeline.putEvent? action).toList)
      (counted + (pipeline.countsIngest action).toNat + (pipeline.countsAnySink action).toNat)
      next := by
  cases puts with
  | quiet silent counts pending =>
      rw [silent, Option.toList_none, List.append_nil, Nat.add_assoc, counts]
      constructor
      · exact told.accepted
      · rw [pending _ rfl]
        exact told.counted
      · rw [pending _ rfl]
        exact told.answered
  | operates pc later event seen overflows counts pending =>
      rw [seen, Option.toList_some, Nat.add_assoc, counts]
      constructor
      · rw [List.mem_append, List.mem_singleton, not_or]
        exact ⟨told.accepted, overflows.accepted.symm⟩
      · have before := told.counted
        have added := overflows.counted
        have moved := pending PutPc.uncounted
        rw [PutState.countP_concat]
        omega
      · have before := told.answered
        have added := overflows.answered
        have moved := pending PutPc.unanswered
        rw [PutState.countP_concat, PutState.countP_concat, PutState.filterMap_concat,
          List.length_append]
        omega

/-- Steps that leave both calls where they are. -/
theorem quiet (told : OverflowsTold events counted pipeline)
    (uartPc : next.uartPc = pipeline.uartPc) (dispatcher : next.dispatcher = pipeline.dispatcher) :
    OverflowsTold (events ++ []) counted next := by
  rw [List.append_nil]
  have pending : ∀ weight, next.pendingPuts weight = pipeline.pendingPuts weight := by
    simp [pendingPuts, uartPc, dispatcher]
  constructor
  · exact told.accepted
  · rw [pending]
    exact told.counted
  · rw [pending]
    exact told.answered

/-- Between two bytes and two passes of the dispatcher nothing is pending. -/
theorem settled (told : OverflowsTold events counted pipeline)
    (reading : pipeline.uartPc = .poll) (unlocked : pipeline.dispatcher.locked = false) :
    counted = events.countP PutEvent.isRefused ∧
      events.countP PutEvent.isRefused =
        (events.filterMap PutEvent.discarded?).length + events.countP PutEvent.isFoundEmpty := by
  have none : ∀ weight : Option PutPc → Nat, weight .none = 0 →
      pipeline.pendingPuts weight = 0 := by
    intro weight idle
    cases pc : pipeline.dispatcher with
    | waiting | locking => simp [pendingPuts, UartPc.putPc, DispatcherPc.putPc, reading, pc, idle]
    | scanning | putting | accounting => simp [DispatcherPc.locked, pc] at unlocked
  have counted := told.counted
  have answered := told.answered
  rw [none _ rfl] at counted answered
  exact ⟨counted.symm, answered⟩

end OverflowsTold

end Overflows

section Contiguity

variable {pipeline next : Pipeline config ι} {losses : Nat}

/-- With at most `losses` lines missing, what is on its way to every session is an end of what
was published, and so is what a session has sent together with what is on its way to it. -/
structure Contiguous (losses : Nat) (pipeline : Pipeline config ι) : Prop where
  undispatched : ThinsEnd pipeline.published pipeline.undispatched
    (losses + pipeline.uartPc.unsettled)
  sessions : ∀ id i, (pipeline.sessions id).pc.phase = .streaming →
    (pipeline.sessions id).ownedSink = some i →
    ∃ delivered, Sends (pipeline.sessions id) i delivered ∧
      ThinsEnd pipeline.published
        (delivered ++ (pipeline.sessions id).pc.inHand ++ pipeline.upstream i)
        (losses + pipeline.unsettled i)

namespace Contiguous

theorem of_initial (initial : pipeline.Initial) : Contiguous 0 pipeline := by
  obtain ⟨fd, name, sink, rfl⟩ := initial
  constructor
  · exact .start _
  · intro id i streaming
    contradiction

/-- Steps that are neither those of the UART thread nor of the dispatcher. -/
theorem undispatched_of_same (contiguous : Contiguous losses pipeline)
    (received : next.received = pipeline.received) (uartPc : next.uartPc = pipeline.uartPc)
    (dispatcher : next.dispatcher = pipeline.dispatcher)
    (ingest : next.shared.bridge.ingestMsgq = pipeline.shared.bridge.ingestMsgq) :
    ThinsEnd next.published next.undispatched (losses + next.uartPc.unsettled) := by
  have same := contiguous.undispatched
  unfold Pipeline.undispatched incoming published at same ⊢
  rw [received, uartPc, dispatcher, ingest]
  exact same

theorem undispatched_stepUart (contiguous : Contiguous losses pipeline)
    (inStep : pipeline.UartInStep) (ch : Byte) (sys : SysReturn) :
    ThinsEnd (pipeline.stepUart ch sys).published (pipeline.stepUart ch sys).undispatched
      (losses + (pipeline.countsIngest (.uart ch sys)).toNat +
        (pipeline.stepUart ch sys).uartPc.unsettled) := by
  obtain ⟨⟨completed, lost, published, thins, settled⟩, -⟩ := receives_stepUart inStep ch sys
  have dispatcher := (pipeline.stepUart_others ch sys).2.1
  rw [published, Pipeline.undispatched, dispatcher]
  have later := thins.append_left (pipeline.dispatcher.inHand.map NmeaFrame.data)
  rw [← List.append_assoc] at later
  apply (contiguous.undispatched.extend later).mono
  omega

/-- The dispatcher takes a frame into its hands and begins to hand it out. -/
theorem undispatched_stepDispatcher [DecidableEq ι] (contiguous : Contiguous losses pipeline)
    (taken : pipeline.step .dispatcher = some next) :
    ThinsEnd next.published next.undispatched (losses + next.uartPc.unsettled) := by
  obtain ⟨bridge, dispatcher, moved, rfl⟩ := step_dispatcher_cases taken
  have before := contiguous.undispatched
  change ThinsEnd pipeline.published _ (losses + pipeline.uartPc.unsettled)
  have step := NmeaBridge.stepDispatcher_cases moved
  generalize pc : pipeline.dispatcher = dispatcherPc at step
  simp only [Pipeline.undispatched, incoming, pc] at before ⊢
  cases step with
  | takes head => simpa [DispatcherPc.inHand, head] using before
  | locks frame => exact before.tail
  | endsUnsent | ends | skips | calls | operates | returns | accounts => exact before

/-- What is on its way to a sink that has just been opened is what is on its way to all. -/
theorem sends_of_registers [DecidableEq ι] {id : ι} {sys : SysReturn}
    {i : Fin config.nmeaSinksMax} (opens : (pipeline.sessions id).pc = .sinkOpen)
    (unsent : (pipeline.sessions id).accepted = [])
    (taken : pipeline.step (.session id sys) = some next)
    (streaming : (next.sessions id).pc.phase = .streaming)
    (owned : (next.sessions id).ownedSink = some i) :
    Sends (next.sessions id) i [] ∧
      (next.sessions id).pc.inHand ++ next.upstream i = pipeline.undispatched := by
  have unlocked : pipeline.dispatcher.locked = false := by
    by_contra locked
    simp [Pipeline.step, stepSession, TcpNmeaSession.needsSinksLock, opens, locked] at taken
  obtain ⟨shared, session, moved, shape⟩ := stepSession_cases taken
  have self : next.sessions id = session := by
    rw [shape]
    exact Function.update_self id session pipeline.sessions
  rw [self] at streaming owned ⊢
  rcases TcpNmeaSession.step_sinkOpen opens moved with ⟨j, -, rfl, rfl⟩ | ⟨-, -, rfl⟩
  · have same : j = i := by
      simpa [TcpNmeaSession.ownedSink, SessionPc.holdsSink] using owned
    subst same
    refine ⟨⟨rfl, rfl, trivial, unsent⟩, ?_⟩
    rw [shape, upstream_eq]
    cases pc : pipeline.dispatcher with
    | waiting | locking =>
        simp [Pipeline.undispatched, incoming, DispatcherPc.pendingFor, DispatcherPc.inHand, pc,
          SessionPc.inHand]
    | scanning | putting | accounting => simp [DispatcherPc.locked, pc] at unlocked
  · contradiction

/-- A step of the session itself sends on, or registers it. -/
theorem sessions_stepSession [DecidableEq ι] (contiguous : Contiguous losses pipeline)
    (delivers : pipeline.Delivers) {id : ι} {sys : SysReturn} {i : Fin config.nmeaSinksMax}
    (taken : pipeline.step (.session id sys) = some next)
    (streaming : (next.sessions id).pc.phase = .streaming)
    (owned : (next.sessions id).ownedSink = some i) :
    ∃ delivered, Sends (next.sessions id) i delivered ∧
      ThinsEnd next.published (delivered ++ (next.sessions id).pc.inHand ++ next.upstream i)
        (losses + next.unsettled i) := by
  have quiet : next.published = pipeline.published ∧
      next.unsettled i = pipeline.unsettled i := by
    obtain ⟨shared, session, -, rfl⟩ := stepSession_cases taken
    exact ⟨rfl, rfl⟩
  rw [quiet.1, quiet.2]
  cases phase : (pipeline.sessions id).pc.phase with
  | before =>
      have inOrder := delivers.order.sessions id
      rw [InOrder, phase] at inOrder
      cases pc : (pipeline.sessions id).pc with
      | sinkOpen =>
          obtain ⟨sends, same⟩ := sends_of_registers pc inOrder taken streaming owned
          use [], sends
          rw [List.nil_append, same]
          apply contiguous.undispatched.mono
          unfold unsettled
          omega
      | closeUnopened =>
          obtain ⟨shared, session, moved, rfl⟩ := stepSession_cases taken
          simp only [TcpNmeaSession.step, pc, Option.some.injEq, Prod.mk.injEq] at moved
          obtain ⟨-, rfl⟩ := moved
          simp [SessionPc.phase] at streaming
      | _ => simp [SessionPc.phase, pc] at phase
  | streaming =>
      obtain ⟨j, ownedBefore⟩ : ∃ j, (pipeline.sessions id).ownedSink = some j := by
        apply delivers.owned.holderOwns
        cases pc : (pipeline.sessions id).pc <;> rw [pc] at phase <;> first | rfl | contradiction
      obtain ⟨delivered, sends, thins⟩ := contiguous.sessions id j phase ownedBefore
      obtain ⟨shared, session, moved, shape⟩ := stepSession_cases taken
      have self : next.sessions id = session := by
        rw [shape]
        exact Function.update_self id session pipeline.sessions
      rw [self] at streaming owned ⊢
      obtain ⟨delivered, sends, same⟩ :=
        sends.step pipeline.dispatcher pipeline.uartPc.inHand moved streaming
      obtain rfl : j = i := Option.some.inj (sends.ownedSink.symm.trans owned)
      use delivered, sends
      have upstream : next.upstream j =
          shared.bridge.toward pipeline.dispatcher pipeline.uartPc.inHand j := by
        rw [shape]
        rfl
      rw [upstream, same]
      exact thins
  | ended =>
      have begun : (pipeline.sessions id).pc.phase ≠ .before := by simp [phase]
      have before := (step_phase begun taken).2 streaming
      rw [phase] at before
      contradiction

/-- Every step loses no more than it counts. -/
theorem step [DecidableEq ι] (contiguous : Contiguous losses pipeline)
    (delivers : pipeline.Delivers) {action : PipelineAction ι}
    (taken : pipeline.step action = some next) :
    Contiguous (losses + (pipeline.countsIngest action).toNat +
      (pipeline.countsAnySink action).toNat) next := by
  constructor
  · cases action with
    | uart ch sys =>
        cases taken
        exact contiguous.undispatched_stepUart delivers.inStep ch sys
    | dispatcher =>
        apply (contiguous.undispatched_stepDispatcher taken).mono
        omega
    | session id sys =>
        obtain ⟨shared, session, moved, rfl⟩ := stepSession_cases taken
        exact contiguous.undispatched_of_same rfl rfl rfl (TcpNmeaSession.step_queues moved).1
  · intro id i streaming owned
    by_cases own : ∃ sys, action = .session id sys
    · obtain ⟨sys, rfl⟩ := own
      exact contiguous.sessions_stepSession delivers taken streaming owned
    · have others : ∀ sys, action ≠ .session id sys := fun sys own' => own ⟨sys, own'⟩
      have same : next.sessions id = pipeline.sessions id := sessions_of_other others taken
      rw [same] at streaming owned ⊢
      obtain ⟨delivered, sends, thins⟩ := contiguous.sessions id i streaming owned
      obtain ⟨completed, lost, published, passed, settled⟩ :=
        (passes_step delivers owned others taken).lines
      use delivered, sends
      have later := passed.append_left (delivered ++ (pipeline.sessions id).pc.inHand)
      rw [← List.append_assoc] at later
      rw [published]
      apply (thins.extend later).mono
      have counts := pipeline.countsSink_le i action
      omega

/-- What is shared beside the bridge does not matter. -/
theorem withShared (contiguous : Contiguous losses pipeline) {shared : SessionShared config}
    (bridge : shared.bridge = pipeline.shared.bridge) :
    Contiguous losses { pipeline with shared } := by
  constructor
  · apply contiguous.undispatched_of_same
    · rfl
    · rfl
    · rfl
    · rw [bridge]
  · intro id i streaming owned
    obtain ⟨delivered, sends, thins⟩ := contiguous.sessions id i streaming owned
    use delivered, sends
    unfold Pipeline.upstream at thins ⊢
    rw [bridge]
    exact thins

/-- A session that starts has nothing yet. -/
theorem startSession [DecidableEq ι] (contiguous : Contiguous losses pipeline) (id : ι) (fd : Int)
    (sinkName : String) (sink : NmeaBridgeSink) :
    Contiguous losses (pipeline.startSession id fd sinkName sink) := by
  constructor
  · exact contiguous.undispatched_of_same rfl rfl rfl rfl
  · intro other i streaming owned
    by_cases same : other = id
    · subst same
      simp [Pipeline.startSession, SessionPc.phase] at streaming
    · simp only [Pipeline.startSession, Function.update_of_ne same] at streaming owned ⊢
      exact contiguous.sessions other i streaming owned

end Contiguous

/-- With `ingest` and `sinks` frames counted as lost, the counters say so, and no more are
missing. -/
structure LossesTold (ingest sinks : Nat) (pipeline : Pipeline config ι) : Prop where
  contiguous : Contiguous (ingest + sinks) pipeline
  ingest : pipeline.shared.bridge.bridgeStats.ingestDroppedOldest = UInt32.ofNat ingest
  sinks : pipeline.shared.bridge.bridgeStats.sinkDroppedOldest + pipeline.unaccounted =
    UInt32.ofNat sinks

namespace LossesTold

variable {ingest sinks : Nat}

theorem of_initial (initial : pipeline.Initial) : LossesTold 0 0 pipeline := by
  refine ⟨.of_initial initial, ?_, ?_⟩ <;>
    · obtain ⟨fd, name, sink, rfl⟩ := initial
      rfl

theorem step [DecidableEq ι] (told : LossesTold ingest sinks pipeline)
    (delivers : pipeline.Delivers) {action : PipelineAction ι}
    (taken : pipeline.step action = some next) :
    LossesTold (ingest + (pipeline.countsIngest action).toNat)
      (sinks + (pipeline.countsAnySink action).toNat) next := by
  have adds := addsUp_step delivers.inStep taken
  constructor
  · have contiguous := told.contiguous.step delivers taken
    rwa [Nat.add_right_comm ingest, Nat.add_assoc] at contiguous
  · rw [adds.ingest, told.ingest, UInt32.ofNat_add]
  · rw [adds.sinks, told.sinks, UInt32.ofNat_add]

theorem withShared (told : LossesTold ingest sinks pipeline) {shared : SessionShared config}
    (bridge : shared.bridge = pipeline.shared.bridge) :
    LossesTold ingest sinks { pipeline with shared } := by
  refine ⟨told.contiguous.withShared bridge, ?_, ?_⟩
  · rw [bridge]
    exact told.ingest
  · unfold unaccounted
    rw [bridge]
    exact told.sinks

theorem startSession [DecidableEq ι] (told : LossesTold ingest sinks pipeline) (id : ι) (fd : Int)
    (sinkName : String) (sink : NmeaBridgeSink) :
    LossesTold ingest sinks (pipeline.startSession id fd sinkName sink) :=
  ⟨told.contiguous.startSession id fd sinkName sink, told.ingest, told.sinks⟩

end LossesTold

end Contiguity

end Pipeline

namespace Firmware

/-- The step increments the drop counter of the ingest queue. -/
def countsIngest (firmware : Firmware config) : FirmwareAction config → Bool
  | .uart ch sys => firmware.pipeline.countsIngest (.uart ch sys)
  | .dispatcher | .server _ | .client .. | .outbound _ => false

/-- The step increments the drop counter of a sink. -/
def countsSink (firmware : Firmware config) : FirmwareAction config → Bool
  | .dispatcher => firmware.pipeline.countsAnySink .dispatcher
  | .uart .. | .server _ | .client .. | .outbound _ => false

/-- What a step does as an operation of `put_drop_oldest`. -/
def putEvent? (firmware : Firmware config) :
    FirmwareAction config → Option (PutEvent (NmeaFrame config) (Owner config))
  | .uart ch sys => firmware.pipeline.putEvent? (.uart ch sys)
  | .dispatcher => firmware.pipeline.putEvent? .dispatcher
  | .server _ | .client .. | .outbound _ => none

/-- What a run does as operations of `put_drop_oldest`, on whatever queue. -/
def putEvents (start : Firmware config) (actions : List (FirmwareAction config)) :
    List (PutEvent (NmeaFrame config) (Owner config)) :=
  ((machine config).trail start actions).filterMap fun entry => entry.1.putEvent? entry.2

/-- Calls of `put_drop_oldest` in a run that found their queue full. -/
def overflows (start : Firmware config) (actions : List (FirmwareAction config)) : Nat :=
  (putEvents start actions).countP PutEvent.isRefused

/-- Increments of the drop counter of the ingest queue in a run. -/
def ingestCounted (start : Firmware config) (actions : List (FirmwareAction config)) : Nat :=
  ((machine config).trail start actions).countP fun entry => entry.1.countsIngest entry.2

/-- Increments of the drop counters of all sinks in a run. -/
def sinksCounted (start : Firmware config) (actions : List (FirmwareAction config)) : Nat :=
  ((machine config).trail start actions).countP fun entry => entry.1.countsSink entry.2

variable {start firmware next : Firmware config} {action : FirmwareAction config}
  {actions : List (FirmwareAction config)}

theorem delivers (reachable : (machine config).Reachable firmware) :
    firmware.pipeline.Delivers where
  order := streamOrder reachable
  inStep := uartInStep reachable
  owned := (reachable_covered reachable).2.2.owned

open Pipeline in
/-- Only the UART thread and the dispatcher lose frames. -/
theorem told_step {ingest sinks : Nat} (told : LossesTold ingest sinks firmware.pipeline)
    (delivers : firmware.pipeline.Delivers) (taken : firmware.step action = some next) :
    LossesTold (ingest + (firmware.countsIngest action).toNat)
      (sinks + (firmware.countsSink action).toNat) next.pipeline := by
  cases action with
  | uart ch sys =>
      obtain rfl := Option.some.inj taken
      have moved : firmware.pipeline.step (.uart ch sys) =
        some (firmware.pipeline.stepUart ch sys) := rfl
      exact told.step delivers moved
  | dispatcher =>
      obtain ⟨pipeline, moved, rfl⟩ := step_dispatcher taken
      exact told.step delivers moved
  | server sys =>
      rw [(stepServer_others taken).1]
      exact told
  | client i sys =>
      obtain ⟨client, pipeline, moves, rfl⟩ := stepClient_moves taken
      cases moves with
      | enter thread => exact told.startSession _ _ _ _
      | session thread moved =>
          have step : firmware.pipeline.step (.session (some i) sys) = some pipeline := moved
          exact told.step delivers step
      | returned | clearFd | closeFd | clearActive | logging => exact told
  | outbound sys =>
      obtain ⟨outbound, pipeline, nextFd, moves, rfl⟩ := stepOutbound_moves taken
      cases moves with
      | waits before after bridge => exact told.withShared bridge
      | enter pc bridge => exact (told.withShared bridge).startSession _ _ _ _
      | session pc moved =>
          have step : firmware.pipeline.step (.session none sys) = some pipeline := moved
          exact told.step delivers step
      | returned => exact told

theorem HasRoom.moves {pipeline : Pipeline config (Owner config)}
    (room : firmware.pipeline.HasRoom) (moves : firmware.PipelineMoves pipeline) :
    pipeline.HasRoom := by
  cases moves with
  | stays => exact room
  | steps action moved => exact room.step moved
  | observes connecting => exact room.withShared (SessionShared.observe_bridge _ _)
  | starts owner outside fd sinkName sink => exact room.startSession owner fd sinkName sink
  | connects outside fd sinkName sink =>
      have observed : (firmware.observe false).pipeline.HasRoom :=
        room.withShared (SessionShared.observe_bridge _ _)
      exact observed.startSession none fd sinkName sink

theorem hasRoom (reachable : (machine config).Reachable firmware) : firmware.pipeline.HasRoom := by
  apply reachable_pipeline Pipeline.HasRoom
  · exact fun _ initial => .of_initial initial
  · exact fun _ _ _ room moves => HasRoom.moves room moves
  · exact reachable

open Pipeline in
/-- Only the UART thread and the dispatcher call `put_drop_oldest`. -/
theorem overflowsTold_step {events : List (PutEvent (NmeaFrame config) (Owner config))}
    {counted : Nat} (told : OverflowsTold events counted firmware.pipeline)
    (room : firmware.pipeline.HasRoom) (taken : firmware.step action = some next) :
    OverflowsTold (events ++ (firmware.putEvent? action).toList)
      (counted + (firmware.countsIngest action).toNat + (firmware.countsSink action).toNat)
      next.pipeline := by
  cases action with
  | uart ch sys =>
      obtain rfl := Option.some.inj taken
      have moved : firmware.pipeline.step (.uart ch sys) =
        some (firmware.pipeline.stepUart ch sys) := rfl
      exact told.step (putsIn_step room moved)
  | dispatcher =>
      obtain ⟨pipeline, moved, rfl⟩ := step_dispatcher taken
      exact told.step (putsIn_step room moved)
  | server sys =>
      rw [(stepServer_others taken).1]
      exact told.quiet rfl rfl
  | client i sys =>
      obtain ⟨client, pipeline, moves, rfl⟩ := stepClient_moves taken
      cases moves with
      | enter thread => exact told.quiet rfl rfl
      | session thread moved =>
          have step : firmware.pipeline.step (.session (some i) sys) = some pipeline := moved
          exact told.step (putsIn_step room step)
      | returned | clearFd | closeFd | clearActive | logging => exact told.quiet rfl rfl
  | outbound sys =>
      obtain ⟨outbound, pipeline, nextFd, moves, rfl⟩ := stepOutbound_moves taken
      cases moves with
      | session pc moved =>
          have step : firmware.pipeline.step (.session none sys) = some pipeline := moved
          exact told.step (putsIn_step room step)
      | waits | enter | returned => exact told.quiet rfl rfl

/-- After a run from the start, its operations of `put_drop_oldest` are told. -/
theorem overflowsTold_of_exec (initial : (machine config).init start)
    (run : (machine config).exec start actions = some firmware) :
    Pipeline.OverflowsTold (putEvents start actions)
      (ingestCounted start actions + sinksCounted start actions) firmware.pipeline := by
  apply Machine.exec_induction (motive := fun actions firmware =>
    Pipeline.OverflowsTold (putEvents start actions)
      (ingestCounted start actions + sinksCounted start actions) firmware.pipeline) _ _ run
  · obtain ⟨pipeline, begins, rfl⟩ := initial
    exact .of_initial begins
  · intro actions firmware action next reached told taken
    have step := overflowsTold_step told (hasRoom ⟨start, actions, initial, reached⟩) taken
    simp only [putEvents, ingestCounted, sinksCounted, Machine.trail_concat action reached,
      PutState.countP_concat, PutState.filterMap_concat] at step ⊢
    rwa [Nat.add_add_add_comm, ← Nat.add_assoc]

/-- After a run from the start, what the run has counted is told. -/
theorem told_of_exec (initial : (machine config).init start)
    (run : (machine config).exec start actions = some firmware) :
    firmware.pipeline.LossesTold (ingestCounted start actions) (sinksCounted start actions) := by
  apply Machine.exec_induction (motive := fun actions firmware =>
    firmware.pipeline.LossesTold (ingestCounted start actions) (sinksCounted start actions)) _ _ run
  · obtain ⟨pipeline, begins, rfl⟩ := initial
    exact .of_initial begins
  · intro actions firmware action next reached told taken
    have step := told_step told (delivers ⟨start, actions, initial, reached⟩) taken
    simpa only [ingestCounted, sinksCounted, Machine.trail_concat action reached,
      PutState.countP_concat] using step

/-- While nothing was lost, what a session has sent and what is on its way to it are an
unbroken end of what was published. -/
theorem unbroken_of_told (told : firmware.pipeline.LossesTold 0 0)
    (delivers : firmware.pipeline.Delivers) (reading : firmware.pipeline.uartPc = .poll)
    (unlocked : firmware.pipeline.dispatcher.locked = false)
    {owner : Option (Fin config.tcpNmeaServerMaxClients)}
    (streaming : (firmware.pipeline.sessions owner).pc.phase = .streaming) :
    ∃ i delivered, (firmware.pipeline.sessions owner).ownedSink = some i ∧
      (firmware.pipeline.sessions owner).accepted =
        delivered.flatten ++ (firmware.pipeline.sessions owner).pc.sent ∧
      (delivered ++ (firmware.pipeline.sessions owner).pc.inHand ++
        firmware.pipeline.upstream i) <:+ firmware.pipeline.published := by
  obtain ⟨i, owned⟩ : ∃ i, (firmware.pipeline.sessions owner).ownedSink = some i := by
    apply delivers.owned.holderOwns
    cases pc : (firmware.pipeline.sessions owner).pc <;> rw [pc] at streaming <;>
      first | rfl | contradiction
  obtain ⟨delivered, sends, thins⟩ := told.contiguous.sessions owner i streaming owned
  have settled : firmware.pipeline.unsettled i = 0 := by
    cases pc : firmware.pipeline.dispatcher with
    | waiting | locking =>
        simp [Pipeline.unsettled, UartPc.unsettled, DispatcherPc.unsettled, reading, pc]
    | scanning | putting | accounting => simp [DispatcherPc.locked, pc] at unlocked
  use i, delivered, owned, sends.accepted
  rw [settled] at thins
  exact thins.isSuffix_of_lossless

/-- What a snapshot between two bytes and two passes of the dispatcher tells. -/
structure FrameLossTold (start : Firmware config) (actions : List (FirmwareAction config))
    (finish : Firmware config) : Prop where
  /-- Before a counter wraps, it warns exactly if some queue was found full since the start. -/
  warning : overflows start actions < 2 ^ 32 →
    ∀ staReady state nowMs snapshot,
      (BridgeTelemetry.buildSnapshot (some state) (some (finish.telemetryInputs staReady)) nowMs
        (some snapshot)).2.map (·.warnings.frameLoss) =
          some (decide (0 < overflows start actions))
  /-- A call that found its queue full has thrown away the oldest frame, or found the queue
  emptied meanwhile, and no call has thrown away the frame it was to put. -/
  thrownAway : overflows start actions =
    ((putEvents start actions).filterMap PutEvent.discarded?).length +
      (putEvents start actions).countP PutEvent.isFoundEmpty
  accepted : .refusedAgain ∉ putEvents start actions
  /-- Without the warning, every session has its part of the stream without a gap. -/
  unbroken : overflows start actions = 0 →
    ∀ owner, (finish.pipeline.sessions owner).pc.phase = .streaming →
      ∃ i delivered, (finish.pipeline.sessions owner).ownedSink = some i ∧
        (finish.pipeline.sessions owner).accepted =
          delivered.flatten ++ (finish.pipeline.sessions owner).pc.sent ∧
        (delivered ++ (finish.pipeline.sessions owner).pc.inHand ++
          finish.pipeline.upstream i) <:+ finish.pipeline.published

theorem frameLossTold {finish : Firmware config} (initial : (machine config).init start)
    (run : (machine config).exec start actions = some finish)
    (reading : finish.pipeline.uartPc = .poll)
    (unlocked : finish.pipeline.dispatcher.locked = false) :
    FrameLossTold start actions finish := by
  have told := told_of_exec initial run
  have puts := overflowsTold_of_exec initial run
  obtain ⟨counted, answered⟩ := puts.settled reading unlocked
  change _ = overflows start actions at counted
  constructor
  case warning =>
    intro few staReady state nowMs snapshot
    rw [← counted] at few ⊢
    have sinks := told.sinks
    rw [Pipeline.unaccounted_of_unlocked unlocked, add_zero] at sinks
    have ingestFew := Nat.lt_of_le_of_lt (Nat.le_add_right _ _) few
    have sinksFew := Nat.lt_of_le_of_lt (Nat.le_add_left _ _) few
    simp only [telemetryInputs, BridgeTelemetry.buildSnapshot, BridgeTelemetry.fillSnapshot,
      BridgeTelemetry.collectInputs, Option.map_some, Option.some.injEq, told.ingest, sinks,
      gt_iff_lt, UInt32.pos_iff_ne_zero, ne_eq, counter_eq_zero_iff ingestFew,
      counter_eq_zero_iff sinksFew, ← Bool.decide_or, decide_eq_decide]
    omega
  case thrownAway => exact answered
  case accepted => exact puts.accepted
  case unbroken =>
    intro none owner streaming
    rw [← counted] at none
    obtain ⟨ingestNone, sinksNone⟩ := Nat.add_eq_zero_iff.mp none
    rw [ingestNone, sinksNone] at told
    exact unbroken_of_told told (delivers ⟨start, actions, initial, run⟩) reading unlocked
      streaming

/-- A line of one character, and steps of the UART thread after it. -/
def lineOf (ch : Byte) (steps : Nat) : List (FirmwareAction BridgeRun.narrow) :=
  .uart ch {} :: .uart newline {} :: List.replicate steps (.uart 0 {})

/-- Four lines come in.  The third costs the first.  The dispatcher takes the others while
the UART thread is about to make room for the fourth. -/
def linesCrowd : List (FirmwareAction BridgeRun.narrow) :=
  [lineOf 65 3, lineOf 66 3, lineOf 67 6, lineOf 68 2, List.replicate 8 .dispatcher,
    List.replicate 4 (.uart 0 {})].flatten

def narrowStart : Firmware BridgeRun.narrow where
  pipeline := { sessions := fun _ => { fd := 0, sinkName := none, sink := ⟨0⟩ } }
  server := .socket
  outbound := { pc := .waitHost }

theorem frameLossTold_linesCrowd :
    ∃ finish, (machine BridgeRun.narrow).exec narrowStart linesCrowd = some finish ∧
      overflows narrowStart linesCrowd = 2 ∧
      (putEvents narrowStart linesCrowd).countP PutEvent.isFoundEmpty = 1 ∧
      FrameLossTold narrowStart linesCrowd finish := by
  have shown : ((machine BridgeRun.narrow).exec narrowStart linesCrowd).any (fun finish =>
      finish.pipeline.uartPc = .poll ∧ finish.pipeline.dispatcher.locked = false) = true := by
    decide
  obtain ⟨finish, run, ends⟩ := (Option.any_eq_true _ _).mp shown
  obtain ⟨reading, unlocked⟩ := of_decide_eq_true ends
  refine ⟨finish, run, by decide, by decide, ?_⟩
  exact frameLossTold ⟨_, ⟨_, _, _, rfl⟩, rfl⟩ run reading unlocked

end Firmware

end EspNmeaBridge
