import EspNmeaBridge.Library.Machine
import EspNmeaBridge.TcpNmeaSession
import EspNmeaBridge.UartNmea

/-!
# The bridge at work

The UART thread, the dispatcher and any number of sessions over one bridge, with
`put_drop_oldest` and the dispatcher's loop taken apart into their single queue
operations.  The dispatcher keeps the other users of `sinks_lock` out while it
scans the sinks, but not a session that is already past its check and reads its
queue.
-/

namespace EspNmeaBridge

open Library

/-- Positions inside `put_drop_oldest`. -/
inductive PutPc where
  | put
  | get
  | count
  | putAgain
  | countAgain
  deriving DecidableEq, Repr

/-- One operation of `put_drop_oldest` on its queue and drop counter, with the next
position, or `none` when it returns. -/
def PutPc.step {α : Type} {capacity : Nat} (frame : α) (msgq : BoundedQueue α capacity)
    (dropCounter : UInt32) : PutPc → BoundedQueue α capacity × UInt32 × Option PutPc
  | .put =>
      match msgq.put frame with
      | some msgq => (msgq, dropCounter, none)
      | none => (msgq, dropCounter, some .get)
  | .get =>
      match msgq.get with
      | some (_, msgq) => (msgq, dropCounter, some .count)
      | none => (msgq, dropCounter, some .count)
  | .count => (msgq, dropCounter + 1, some .putAgain)
  | .putAgain =>
      match msgq.put frame with
      | some msgq => (msgq, dropCounter, none)
      | none => (msgq, dropCounter, some .countAgain)
  | .countAgain => (msgq, dropCounter + 1, none)

/-- Positions inside `uart_rx_thread`: reading, or publishing a line. -/
inductive UartPc (config : Config) where
  | poll
  | publish (line : List Byte)
  | put (frame : NmeaFrame config) (pc : PutPc)
  | ledReceived
  deriving DecidableEq, Repr

/-- Positions inside `dispatcher_thread`, with the slots its loop has yet to visit. -/
inductive DispatcherPc (config : Config) where
  | waiting
  | locking (frame : NmeaFrame config)
  | scanning (frame : NmeaFrame config) (slots : List (Fin config.nmeaSinksMax)) (any : Bool)
  | putting (frame : NmeaFrame config) (i : Fin config.nmeaSinksMax)
      (slots : List (Fin config.nmeaSinksMax)) (before : UInt32) (pc : PutPc)
  | accounting (frame : NmeaFrame config) (i : Fin config.nmeaSinksMax)
      (slots : List (Fin config.nmeaSinksMax)) (before : UInt32)
  deriving DecidableEq, Repr

namespace DispatcherPc

/-- The dispatcher holds `sinks_lock`. -/
def locked {config : Config} : DispatcherPc config → Bool
  | .waiting | .locking _ => false
  | .scanning .. | .putting .. | .accounting .. => true

end DispatcherPc

/-- The threads, what they share, and the bytes read from the UART so far.  Each
index is one execution of `tcp_nmea_session_run`. -/
structure Pipeline (config : Config) (ι : Type) where
  received : List Byte := []
  uart : UartRx := {}
  uartPc : UartPc config := .poll
  dispatcher : DispatcherPc config := .waiting
  shared : SessionShared config := {}
  sessions : ι → TcpNmeaSession config

/-- Who takes the next step.  `ch` is the byte `uart_poll_in` delivers if it is
called. -/
inductive PipelineAction (ι : Type) where
  | uart (ch : Byte) (sys : SysReturn)
  | dispatcher
  | session (id : ι) (sys : SysReturn)
  deriving DecidableEq, Repr

namespace NmeaBridge

variable {config : Config}

/-- `put_drop_oldest` on the ingest queue, one operation. -/
def ingestPut (bridge : NmeaBridge config) (frame : NmeaFrame config) (pc : PutPc) :
    NmeaBridge config × Option PutPc :=
  match pc.step frame bridge.ingestMsgq bridge.bridgeStats.ingestDroppedOldest with
  | (ingestMsgq, ingestDroppedOldest, next) =>
      ({ bridge with
          ingestMsgq
          bridgeStats.ingestDroppedOldest := ingestDroppedOldest }, next)

/-- `put_drop_oldest` on a sink's queue, one operation. -/
def sinkPut (bridge : NmeaBridge config) (i : Fin config.nmeaSinksMax) (frame : NmeaFrame config)
    (pc : PutPc) : NmeaBridge config × Option PutPc :=
  let slot := bridge.sinks i
  match pc.step frame slot.msgq slot.stats.droppedOldest with
  | (msgq, droppedOldest, next) =>
      (bridge.setSlot i { slot with msgq, stats.droppedOldest := droppedOldest }, next)

/-- What the dispatcher counts after it has put a frame into a sink's queue. -/
def sinkAccount (bridge : NmeaBridge config) (i : Fin config.nmeaSinksMax) (before : UInt32) :
    NmeaBridge config :=
  let slot := bridge.sinks i
  let sinkDroppedOldest :=
    if slot.stats.droppedOldest ≠ before then
      bridge.bridgeStats.sinkDroppedOldest + (slot.stats.droppedOldest - before)
    else bridge.bridgeStats.sinkDroppedOldest
  { bridge.setSlot i { slot with stats.queued := slot.stats.queued + 1 } with
    bridgeStats.sinkDroppedOldest := sinkDroppedOldest }

/-- One step of `dispatcher_thread`; it blocks while there is no frame. -/
def stepDispatcher (bridge : NmeaBridge config) :
    DispatcherPc config → Option (NmeaBridge config × DispatcherPc config)
  | .waiting =>
      match bridge.ingestMsgq.get with
      | none => none
      | some (frame, ingestMsgq) => some ({ bridge with ingestMsgq }, .locking frame)
  | .locking frame => some (bridge, .scanning frame (List.finRange config.nmeaSinksMax) false)
  | .scanning _ [] any =>
      if !any then
        some ({ bridge with
          bridgeStats.publishNoSinks := bridge.bridgeStats.publishNoSinks + 1 }, .waiting)
      else some (bridge, .waiting)
  | .scanning frame (i :: slots) any =>
      if !(bridge.sinks i).active then some (bridge, .scanning frame slots any)
      else some (bridge, .putting frame i slots (bridge.sinks i).stats.droppedOldest .put)
  | .putting frame i slots before pc =>
      match bridge.sinkPut i frame pc with
      | (bridge, some pc) => some (bridge, .putting frame i slots before pc)
      | (bridge, none) => some (bridge, .accounting frame i slots before)
  | .accounting frame i slots before =>
      some (bridge.sinkAccount i before, .scanning frame slots true)

/-- What a step of the dispatcher can do. -/
inductive DispatcherStep (bridge : NmeaBridge config) :
    DispatcherPc config → NmeaBridge config → DispatcherPc config → Prop where
  | takes {frame ingestMsgq} (head : bridge.ingestMsgq.items = frame :: ingestMsgq.items) :
      DispatcherStep bridge .waiting { bridge with ingestMsgq } (.locking frame)
  | locks (frame : NmeaFrame config) :
      DispatcherStep bridge (.locking frame) bridge
        (.scanning frame (List.finRange config.nmeaSinksMax) false)
  | endsUnsent (frame : NmeaFrame config) :
      DispatcherStep bridge (.scanning frame [] false)
        { bridge with bridgeStats.publishNoSinks := bridge.bridgeStats.publishNoSinks + 1 } .waiting
  | ends (frame : NmeaFrame config) :
      DispatcherStep bridge (.scanning frame [] true) bridge .waiting
  | skips {frame i slots any} (inactive : (bridge.sinks i).active = false) :
      DispatcherStep bridge (.scanning frame (i :: slots) any) bridge (.scanning frame slots any)
  | calls {frame i slots any} (active : (bridge.sinks i).active = true) :
      DispatcherStep bridge (.scanning frame (i :: slots) any) bridge
        (.putting frame i slots (bridge.sinks i).stats.droppedOldest .put)
  | operates {frame i slots before pc msgq droppedOldest later}
      (moved : pc.step frame (bridge.sinks i).msgq (bridge.sinks i).stats.droppedOldest =
        (msgq, droppedOldest, some later)) :
      DispatcherStep bridge (.putting frame i slots before pc)
        (bridge.setSlot i { bridge.sinks i with msgq, stats.droppedOldest := droppedOldest })
        (.putting frame i slots before later)
  | returns {frame i slots before pc msgq droppedOldest}
      (moved : pc.step frame (bridge.sinks i).msgq (bridge.sinks i).stats.droppedOldest =
        (msgq, droppedOldest, none)) :
      DispatcherStep bridge (.putting frame i slots before pc)
        (bridge.setSlot i { bridge.sinks i with msgq, stats.droppedOldest := droppedOldest })
        (.accounting frame i slots before)
  | accounts (frame : NmeaFrame config) (i : Fin config.nmeaSinksMax)
      (slots : List (Fin config.nmeaSinksMax)) (before : UInt32) :
      DispatcherStep bridge (.accounting frame i slots before) (bridge.sinkAccount i before)
        (.scanning frame slots true)

theorem stepDispatcher_cases {bridge next : NmeaBridge config} {pc nextPc : DispatcherPc config}
    (taken : bridge.stepDispatcher pc = some (next, nextPc)) :
    bridge.DispatcherStep pc next nextPc := by
  cases pc with
  | waiting =>
      cases got : bridge.ingestMsgq.get with
      | none => simp [stepDispatcher, got] at taken
      | some pair =>
          simp only [stepDispatcher, got, Option.some.injEq, Prod.mk.injEq] at taken
          obtain ⟨rfl, rfl⟩ := taken
          exact .takes (BoundedQueue.get_eq_some_iff.mp got)
  | locking frame =>
      cases taken
      exact .locks frame
  | scanning frame slots any =>
      cases slots with
      | nil =>
          cases any with
          | false =>
              cases taken
              exact .endsUnsent frame
          | true =>
              cases taken
              exact .ends frame
      | cons i slots =>
          cases active : (bridge.sinks i).active with
          | false =>
              simp only [stepDispatcher, active, Bool.not_false, if_true, Option.some.injEq,
                Prod.mk.injEq] at taken
              obtain ⟨rfl, rfl⟩ := taken
              exact .skips active
          | true =>
              simp only [stepDispatcher, active, Bool.not_true, Bool.false_eq_true, if_false,
                Option.some.injEq, Prod.mk.injEq] at taken
              obtain ⟨rfl, rfl⟩ := taken
              exact .calls active
  | putting frame i slots before stage =>
      rcases moved : stage.step frame (bridge.sinks i).msgq (bridge.sinks i).stats.droppedOldest
        with ⟨msgq, droppedOldest, _ | later⟩
      · simp only [stepDispatcher, sinkPut, moved, Option.some.injEq, Prod.mk.injEq] at taken
        obtain ⟨rfl, rfl⟩ := taken
        exact .returns moved
      · simp only [stepDispatcher, sinkPut, moved, Option.some.injEq, Prod.mk.injEq] at taken
        obtain ⟨rfl, rfl⟩ := taken
        exact .operates moved
  | accounting frame i slots before =>
      cases taken
      exact .accounts frame i slots before

theorem setSlot_active {bridge : NmeaBridge config} {i : Fin config.nmeaSinksMax}
    {slot : SinkSlot config} (same : slot.active = (bridge.sinks i).active)
    (j : Fin config.nmeaSinksMax) :
    ((bridge.setSlot i slot).sinks j).active = (bridge.sinks j).active := by
  by_cases here : j = i
  · subst here
    simpa using same
  · simp [here]

/-- The dispatcher opens and closes no sink. -/
theorem stepDispatcher_active {bridge next : NmeaBridge config}
    {pc nextPc : DispatcherPc config} (taken : bridge.stepDispatcher pc = some (next, nextPc))
    (j : Fin config.nmeaSinksMax) : (next.sinks j).active = (bridge.sinks j).active := by
  cases stepDispatcher_cases taken with
  | takes | locks | endsUnsent | ends | skips | calls => rfl
  | operates moved | returns moved =>
      apply setSlot_active
      rfl
  | accounts frame i slots before =>
      change ((bridge.setSlot i _).sinks j).active = (bridge.sinks j).active
      apply setSlot_active
      rfl

end NmeaBridge

namespace Pipeline

variable {config : Config} {ι : Type}

/-- One step of `uart_rx_thread`.  What it does to its locals and counters for a
byte happens with the byte; the line is published in the steps after. -/
def stepUart (pipeline : Pipeline config ι) (ch : Byte) (sys : SysReturn) : Pipeline config ι :=
  match pipeline.uartPc with
  | .poll =>
      let pipeline := { pipeline with received := pipeline.received ++ [ch] }
      match uartRxByte config pipeline.uart ch with
      | (uart, none) => { pipeline with uart }
      | (uart, some line) => { pipeline with uart, uartPc := .publish line }
  | .publish line =>
      match pipeline.shared.bridge.publishCheck (some line) with
      | (bridge, .error _) => { pipeline with shared.bridge := bridge, uartPc := .ledReceived }
      | (bridge, .ok frame) =>
          { pipeline with shared.bridge := bridge, uartPc := .put frame .put }
  | .put frame pc =>
      match pipeline.shared.bridge.ingestPut frame pc with
      | (bridge, some pc) => { pipeline with shared.bridge := bridge, uartPc := .put frame pc }
      | (bridge, none) => { pipeline with shared.bridge := bridge, uartPc := .ledReceived }
  | .ledReceived =>
      { pipeline with
        shared := pipeline.shared.observe (StatusLed.nmeaFrameReceived · sys.nowMs)
        uartPc := .poll }

/-- One step of a session.  A step that takes `sinks_lock` waits for the dispatcher
to release it. -/
def stepSession [DecidableEq ι] (pipeline : Pipeline config ι) (id : ι) (sys : SysReturn) :
    Option (Pipeline config ι) :=
  if (pipeline.sessions id).needsSinksLock && pipeline.dispatcher.locked then none
  else
    match (pipeline.sessions id).step pipeline.shared sys with
    | none => none
    | some (shared, session) =>
        some { pipeline with shared, sessions := Function.update pipeline.sessions id session }

def step [DecidableEq ι] (pipeline : Pipeline config ι) :
    PipelineAction ι → Option (Pipeline config ι)
  | .uart ch sys => some (pipeline.stepUart ch sys)
  | .dispatcher =>
      match pipeline.shared.bridge.stepDispatcher pipeline.dispatcher with
      | none => none
      | some (bridge, dispatcher) => some { pipeline with shared.bridge := bridge, dispatcher }
  | .session id sys => pipeline.stepSession id sys

section Steps

variable {pipeline next : Pipeline config ι}

/-- What a step of the UART thread can do. -/
inductive UartStep (pipeline : Pipeline config ι) (ch : Byte) (sys : SysReturn) :
    Pipeline config ι → Prop where
  | reads {uart} (pc : pipeline.uartPc = .poll)
      (read : uartRxByte config pipeline.uart ch = (uart, none)) :
      UartStep pipeline ch sys { pipeline with received := pipeline.received ++ [ch], uart }
  | completes {uart line} (pc : pipeline.uartPc = .poll)
      (read : uartRxByte config pipeline.uart ch = (uart, some line)) :
      UartStep pipeline ch sys
        { pipeline with received := pipeline.received ++ [ch], uart, uartPc := .publish line }
  | rejects {line bridge errno} (pc : pipeline.uartPc = .publish line)
      (checked : pipeline.shared.bridge.publishCheck (some line) = (bridge, .error errno)) :
      UartStep pipeline ch sys { pipeline with shared.bridge := bridge, uartPc := .ledReceived }
  | accepts {line bridge frame} (pc : pipeline.uartPc = .publish line)
      (checked : pipeline.shared.bridge.publishCheck (some line) = (bridge, .ok frame)) :
      UartStep pipeline ch sys { pipeline with shared.bridge := bridge, uartPc := .put frame .put }
  | operates {frame stage bridge later} (pc : pipeline.uartPc = .put frame stage)
      (moved : pipeline.shared.bridge.ingestPut frame stage = (bridge, some later)) :
      UartStep pipeline ch sys { pipeline with shared.bridge := bridge, uartPc := .put frame later }
  | returns {frame stage bridge} (pc : pipeline.uartPc = .put frame stage)
      (moved : pipeline.shared.bridge.ingestPut frame stage = (bridge, none)) :
      UartStep pipeline ch sys { pipeline with shared.bridge := bridge, uartPc := .ledReceived }
  | reports (pc : pipeline.uartPc = .ledReceived) :
      UartStep pipeline ch sys { pipeline with
        shared := pipeline.shared.observe (StatusLed.nmeaFrameReceived · sys.nowMs)
        uartPc := .poll }

theorem stepUart_cases (pipeline : Pipeline config ι) (ch : Byte) (sys : SysReturn) :
    pipeline.UartStep ch sys (pipeline.stepUart ch sys) := by
  cases pc : pipeline.uartPc with
  | poll =>
      rcases read : uartRxByte config pipeline.uart ch with ⟨uart, _ | line⟩
      · have unpublished : pipeline.stepUart ch sys =
            { pipeline with received := pipeline.received ++ [ch], uart } := by
          simp only [stepUart, pc, read]
        rw [unpublished]
        exact .reads pc read
      · simp only [stepUart, pc, read]
        exact .completes pc read
  | publish line =>
      rcases checked : pipeline.shared.bridge.publishCheck (some line) with ⟨bridge, _ | frame⟩
      · simp only [stepUart, pc, checked]
        exact .rejects pc checked
      · simp only [stepUart, pc, checked]
        exact .accepts pc checked
  | put frame stage =>
      rcases moved : pipeline.shared.bridge.ingestPut frame stage with ⟨bridge, _ | later⟩
      · simp only [stepUart, pc, moved]
        exact .returns pc moved
      · simp only [stepUart, pc, moved]
        exact .operates pc moved
  | ledReceived =>
      simp only [stepUart, pc]
      exact .reports pc

/-- The UART thread leaves the sessions, the dispatcher and the sinks alone. -/
theorem stepUart_others (ch : Byte) (sys : SysReturn) :
    (pipeline.stepUart ch sys).sessions = pipeline.sessions ∧
      (pipeline.stepUart ch sys).dispatcher = pipeline.dispatcher ∧
      (pipeline.stepUart ch sys).shared.bridge.sinks = pipeline.shared.bridge.sinks := by
  have step := pipeline.stepUart_cases ch sys
  generalize pipeline.stepUart ch sys = next at step
  cases step with
  | reads | completes => exact ⟨rfl, rfl, rfl⟩
  | @rejects line bridge errno pc checked | @accepts line bridge frame pc checked =>
      have sinks : (pipeline.shared.bridge.publishCheck (some line)).1.sinks =
          pipeline.shared.bridge.sinks := NmeaBridge.publishCheck_sinks _
      rw [checked] at sinks
      exact ⟨rfl, rfl, sinks⟩
  | operates pc moved | returns pc moved =>
      cases congrArg Prod.fst moved
      exact ⟨rfl, rfl, rfl⟩
  | reports => exact ⟨rfl, rfl, by rw [SessionShared.observe_bridge]⟩

/-- A step of a session that is let in. -/
theorem stepSession_cases [DecidableEq ι] {id : ι} {sys : SysReturn}
    (taken : pipeline.stepSession id sys = some next) :
    ∃ shared session, (pipeline.sessions id).step pipeline.shared sys = some (shared, session) ∧
      next = { pipeline with
        shared, sessions := Function.update pipeline.sessions id session } := by
  unfold stepSession at taken
  split at taken
  · contradiction
  · cases moved : (pipeline.sessions id).step pipeline.shared sys with
    | none => simp [moved] at taken
    | some outcome =>
        simp only [moved, Option.some.injEq] at taken
        exact ⟨_, _, rfl, taken.symm⟩

theorem step_dispatcher_cases [DecidableEq ι]
    (taken : pipeline.step .dispatcher = some next) :
    ∃ bridge dispatcher,
      pipeline.shared.bridge.stepDispatcher pipeline.dispatcher = some (bridge, dispatcher) ∧
      next = { pipeline with shared.bridge := bridge, dispatcher } := by
  simp only [step] at taken
  cases moved : pipeline.shared.bridge.stepDispatcher pipeline.dispatcher with
  | none => simp [moved] at taken
  | some outcome =>
      simp only [moved, Option.some.injEq] at taken
      exact ⟨_, _, rfl, taken.symm⟩

end Steps

/-- After start-up: nothing received, no sink open, and every session about to be
called with some socket and name. -/
def Initial (pipeline : Pipeline config ι) : Prop :=
  ∃ (fd : ι → Int) (name : ι → Option String) (sink : ι → NmeaBridgeSink), pipeline = {
    sessions := fun id => { fd := fd id, sinkName := name id, sink := sink id } }

def machine (config : Config) (ι : Type) [DecidableEq ι] :
    Machine (Pipeline config ι) (PipelineAction ι) where
  init := Initial
  step := step

end Pipeline

end EspNmeaBridge
