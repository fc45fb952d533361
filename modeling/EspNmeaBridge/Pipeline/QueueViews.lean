import EspNmeaBridge.Pipeline.ConcurrentPut

/-!
# The queues of the bridge, each seen on its own

The ingest queue has the UART thread as its producer and the dispatcher as its consumer.
The queue of a sink has the dispatcher as its producer, while it holds `sinks_lock`, and
the sessions that are past their check as its consumers.  Seen so, the runs of the
threads are runs of one producer among other parties, so its guarantees are theirs.
-/

namespace EspNmeaBridge

open Library

variable {config : Config} {ι : Type}

/-- The checks of a publish leave the ingest queue and its drop counter alone. -/
theorem NmeaBridge.publishCheck_ingest (bridge : NmeaBridge config) (data : Option (List Byte)) :
    (bridge.publishCheck data).1.ingestMsgq = bridge.ingestMsgq ∧
      (bridge.publishCheck data).1.bridgeStats.ingestDroppedOldest =
        bridge.bridgeStats.ingestDroppedOldest := by
  unfold publishCheck
  split
  · exact ⟨rfl, rfl⟩
  · split
    · exact ⟨rfl, rfl⟩
    · split <;> exact ⟨rfl, rfl⟩

/-- The dispatcher takes the head of the ingest queue, or leaves the queue alone. -/
theorem NmeaBridge.stepDispatcher_ingest {bridge next : NmeaBridge config}
    {pc nextPc : DispatcherPc config} (taken : bridge.stepDispatcher pc = some (next, nextPc)) :
    next.bridgeStats.ingestDroppedOldest = bridge.bridgeStats.ingestDroppedOldest ∧
      (next.ingestMsgq = bridge.ingestMsgq ∨
        ∃ frame, bridge.ingestMsgq.items = frame :: next.ingestMsgq.items) := by
  cases stepDispatcher_cases taken with
  | takes head => exact ⟨rfl, .inr ⟨_, head⟩⟩
  | locks | endsUnsent | ends | skips | calls | operates | returns | accounts =>
      exact ⟨rfl, .inl rfl⟩

namespace PutState

variable {α : Type} {capacity : Nat}

theorem hasRoom_of_idle {state : PutState α capacity} (idle : state.call = none) :
    state.HasRoom := by
  simp [HasRoom, idle]

/-- What is a step of the producer or of a consumer, or nothing, leaves the room. -/
theorem HasRoom.of_step {state next : PutState α capacity} (room : state.HasRoom)
    (positive : 0 < capacity)
    (moves : next = state ∨ ∃ action : PutAction α ι, state.step action = some next) :
    next.HasRoom := by
  cases moves with
  | inl same =>
      rw [same]
      exact room
  | inr taken =>
      obtain ⟨action, taken⟩ := taken
      obtain ⟨event, -, happens⟩ := step_happens taken
      exact (happens.hasRoom positive room).2

/-- A party that takes the head makes a step. -/
theorem step_take (state : PutState α capacity) {msgq : BoundedQueue α capacity} {frame : α}
    (head : state.msgq.items = frame :: msgq.items) (party : ι) :
    state.step (.take party) = some { state with msgq } := by
  have got : state.msgq.get = some (frame, msgq) := BoundedQueue.get_eq_some_iff.mpr head
  simp [step, got]

end PutState

namespace Pipeline

/-- The call of `put_drop_oldest` the UART thread is in. -/
def uartCall (pipeline : Pipeline config ι) : Option (NmeaFrame config × PutPc) :=
  match pipeline.uartPc with
  | .put frame pc => some (frame, pc)
  | .poll | .publish _ | .ledReceived => none

/-- The ingest queue. -/
def ingestView (pipeline : Pipeline config ι) :
    PutState (NmeaFrame config) config.ingestQueueDepth where
  msgq := pipeline.shared.bridge.ingestMsgq
  dropCounter := pipeline.shared.bridge.bridgeStats.ingestDroppedOldest
  call := pipeline.uartCall

/-- The call of `put_drop_oldest` the dispatcher is in for slot `i`. -/
def dispatcherCall (pipeline : Pipeline config ι) (i : Fin config.nmeaSinksMax) :
    Option (NmeaFrame config × PutPc) :=
  match pipeline.dispatcher with
  | .putting frame j _ _ pc => if j = i then some (frame, pc) else none
  | .waiting | .locking _ | .scanning .. | .accounting .. => none

/-- The queue of slot `i`. -/
def sinkView (i : Fin config.nmeaSinksMax) (pipeline : Pipeline config ι) :
    PutState (NmeaFrame config) config.sinkQueueDepth where
  msgq := (pipeline.shared.bridge.sinks i).msgq
  dropCounter := (pipeline.shared.bridge.sinks i).stats.droppedOldest
  call := pipeline.dispatcherCall i

variable {pipeline next : Pipeline config ι}

/-- Without the lock there is no call to disturb. -/
theorem dispatcherCall_of_unlocked (unlocked : pipeline.dispatcher.locked = false)
    (i : Fin config.nmeaSinksMax) : pipeline.dispatcherCall i = none := by
  cases pc : pipeline.dispatcher with
  | waiting | locking => simp [dispatcherCall, pc]
  | scanning | putting | accounting => simp [DispatcherPc.locked, pc] at unlocked

theorem stepUart_ingestView (ch : Byte) (sys : SysReturn) :
    (pipeline.stepUart ch sys).ingestView = pipeline.ingestView ∨
      ∃ action : PutAction (NmeaFrame config) Unit,
        pipeline.ingestView.step action = some (pipeline.stepUart ch sys).ingestView := by
  have step := pipeline.stepUart_cases ch sys
  generalize pipeline.stepUart ch sys = next at step
  cases step with
  | reads pc | completes pc | reports pc =>
      left
      simp [ingestView, uartCall, pc]
  | @rejects line bridge errno pc checked =>
      have kept := pipeline.shared.bridge.publishCheck_ingest (some line)
      rw [checked] at kept
      left
      simpa [ingestView, uartCall, pc] using kept
  | @accepts line bridge frame pc checked =>
      have kept := pipeline.shared.bridge.publishCheck_ingest (some line)
      rw [checked] at kept
      right
      use .call frame
      simpa [ingestView, uartCall, pc, PutState.step, eq_comm] using kept
  | @operates frame stage bridge later pc moved | @returns frame stage bridge pc moved =>
      right
      use .operation
      rcases put : stage.step frame pipeline.shared.bridge.ingestMsgq
        pipeline.shared.bridge.bridgeStats.ingestDroppedOldest with ⟨msgq, dropped, rest⟩
      simp only [NmeaBridge.ingestPut, put, Prod.mk.injEq] at moved
      obtain ⟨rfl, rfl⟩ := moved
      simp [ingestView, uartCall, pc, PutState.step, put]

theorem stepUart_sinkView (i : Fin config.nmeaSinksMax) (ch : Byte) (sys : SysReturn) :
    (pipeline.stepUart ch sys).sinkView i = pipeline.sinkView i := by
  have others : (pipeline.stepUart ch sys).sessions = pipeline.sessions ∧ _ ∧ _ :=
    stepUart_others ch sys
  simp [sinkView, dispatcherCall, others.2.1, others.2.2]

variable [DecidableEq ι]

theorem step_ingestView {action : PipelineAction ι} (taken : pipeline.step action = some next) :
    next.ingestView = pipeline.ingestView ∨
      ∃ action : PutAction (NmeaFrame config) Unit,
        pipeline.ingestView.step action = some next.ingestView := by
  cases action with
  | uart ch sys =>
      cases taken
      exact stepUart_ingestView ch sys
  | dispatcher =>
      obtain ⟨bridge, dispatcher, moved, rfl⟩ := step_dispatcher_cases taken
      obtain ⟨dropped, same | ⟨frame, head⟩⟩ := NmeaBridge.stepDispatcher_ingest moved
      · left
        simp [ingestView, uartCall, dropped, same]
      · right
        use .take ()
        rw [PutState.step_take pipeline.ingestView head]
        simp [ingestView, uartCall, dropped]
  | session id sys =>
      obtain ⟨shared, session, moved, rfl⟩ := stepSession_cases taken
      obtain ⟨queue, stats, -⟩ := TcpNmeaSession.step_queues moved
      left
      simp [ingestView, uartCall, queue, stats]

/-- A run of the threads, seen at the ingest queue. -/
theorem exec_ingestView {start finish : Pipeline config ι} {actions : List (PipelineAction ι)}
    (run : (machine config ι).exec start actions = some finish) :
    ∃ actions, (PutState.machine (NmeaFrame config) Unit config.ingestQueueDepth).exec
      start.ingestView actions = some finish.ingestView := by
  apply Machine.exec_view ingestView (fun _ _ => True) _
    (Machine.along_of_forall (fun _ _ => trivial) start actions) run
  intro pipeline action next _ taken
  exact step_ingestView taken

theorem stepDispatcher_sinkView (i : Fin config.nmeaSinksMax)
    (taken : pipeline.step .dispatcher = some next) :
    next.sinkView i = pipeline.sinkView i ∨
      ∃ action : PutAction (NmeaFrame config) ι,
        (pipeline.sinkView i).step action = some (next.sinkView i) := by
  obtain ⟨bridge, dispatcher, moved, rfl⟩ := step_dispatcher_cases taken
  have step := NmeaBridge.stepDispatcher_cases moved
  generalize pc : pipeline.dispatcher = dispatcherPc at step
  cases step with
  | takes | locks | endsUnsent | ends | skips =>
      left
      simp [sinkView, dispatcherCall, pc]
  | @calls frame j slots any active =>
      by_cases here : j = i
      · right
        use .call frame
        simp [sinkView, dispatcherCall, pc, PutState.step, here]
      · left
        simp [sinkView, dispatcherCall, pc, here]
  | @operates frame j slots before stage msgq dropped later put
  | @returns frame j slots before stage msgq dropped put =>
      by_cases here : j = i
      · right
        use .operation
        subst here
        simp [sinkView, dispatcherCall, pc, PutState.step, put]
      · left
        have elsewhere : i ≠ j := Ne.symm here
        simp [sinkView, dispatcherCall, pc, here, elsewhere]
  | accounts frame j slots before =>
      left
      by_cases here : i = j
      · subst here
        simp [sinkView, dispatcherCall, pc, NmeaBridge.sinkAccount]
      · simp [sinkView, dispatcherCall, pc, NmeaBridge.sinkAccount, here]

/-- While the dispatcher holds `sinks_lock`, a session takes from the queue or leaves it
alone. -/
theorem stepSession_sinkView (i : Fin config.nmeaSinksMax) {id : ι} {sys : SysReturn}
    (locked : pipeline.dispatcher.locked = true)
    (taken : pipeline.stepSession id sys = some next) :
    next.sinkView i = pipeline.sinkView i ∨
      (pipeline.sinkView i).step (.take id : PutAction (NmeaFrame config) ι) =
        some (next.sinkView i) := by
  have letIn : (pipeline.sessions id).needsSinksLock = false := by
    cases needs : (pipeline.sessions id).needsSinksLock with
    | false => rfl
    | true => simp [stepSession, needs, locked] at taken
  obtain ⟨shared, session, moved, rfl⟩ := stepSession_cases taken
  obtain ⟨-, -, reads⟩ := TcpNmeaSession.step_queues moved
  obtain ⟨same | ⟨frame, head⟩, dropped⟩ := reads letIn i
  · left
    simp [sinkView, dispatcherCall, same, dropped]
  · right
    rw [PutState.step_take (pipeline.sinkView i) head]
    simp [sinkView, dispatcherCall, dropped]

theorem step_sinkView (i : Fin config.nmeaSinksMax) {action : PipelineAction ι}
    (locked : pipeline.dispatcher.locked = true) (taken : pipeline.step action = some next) :
    next.sinkView i = pipeline.sinkView i ∨
      ∃ action : PutAction (NmeaFrame config) ι,
        (pipeline.sinkView i).step action = some (next.sinkView i) := by
  cases action with
  | uart ch sys =>
      cases taken
      exact .inl (stepUart_sinkView i ch sys)
  | dispatcher => exact stepDispatcher_sinkView i taken
  | session id sys =>
      cases stepSession_sinkView i locked taken with
      | inl same => exact .inl same
      | inr takes => exact .inr ⟨.take id, takes⟩

/-- A run of the threads while the dispatcher holds `sinks_lock`, seen at the queue of a
slot. -/
theorem exec_sinkView (i : Fin config.nmeaSinksMax) {start finish : Pipeline config ι}
    {actions : List (PipelineAction ι)}
    (locked : (machine config ι).Along (fun pipeline _ => pipeline.dispatcher.locked = true)
      start actions)
    (run : (machine config ι).exec start actions = some finish) :
    ∃ actions, (PutState.machine (NmeaFrame config) ι config.sinkQueueDepth).exec
      (start.sinkView i) actions = some (finish.sinkView i) := by
  apply Machine.exec_view (sinkView i) _ _ locked run
  intro pipeline action next locked taken
  exact step_sinkView i locked taken

theorem step_hasRoom (i : Fin config.nmeaSinksMax) {action : PipelineAction ι}
    (room : (pipeline.sinkView i).HasRoom) (taken : pipeline.step action = some next) :
    (next.sinkView i).HasRoom := by
  cases locked : pipeline.dispatcher.locked with
  | true => exact room.of_step config.sinkQueueDepth_pos (step_sinkView i locked taken)
  | false =>
      cases action with
      | uart ch sys =>
          cases taken
          rw [stepUart_sinkView]
          exact room
      | dispatcher =>
          exact room.of_step config.sinkQueueDepth_pos (stepDispatcher_sinkView i taken)
      | session id sys =>
          obtain ⟨shared, session, -, rfl⟩ := stepSession_cases taken
          exact PutState.hasRoom_of_idle (dispatcherCall_of_unlocked locked i)

/-- No call of `put_drop_oldest` will find its queue full a second time. -/
def HasRoom (pipeline : Pipeline config ι) : Prop :=
  pipeline.ingestView.HasRoom ∧ ∀ i, (pipeline.sinkView i).HasRoom

omit [DecidableEq ι] in
theorem HasRoom.of_initial (initial : pipeline.Initial) : pipeline.HasRoom := by
  obtain ⟨fd, name, sink, rfl⟩ := initial
  exact ⟨trivial, fun i => trivial⟩

theorem HasRoom.step {action : PipelineAction ι} (room : pipeline.HasRoom)
    (taken : pipeline.step action = some next) : next.HasRoom := by
  constructor
  · exact room.1.of_step (Nat.lt_of_lt_of_le Nat.two_pos config.ingest_range.1)
      (step_ingestView taken)
  · intro i
    exact step_hasRoom i (room.2 i) taken

end Pipeline

end EspNmeaBridge
