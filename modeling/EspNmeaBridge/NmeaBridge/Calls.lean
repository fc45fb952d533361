import EspNmeaBridge.Library.Machine
import EspNmeaBridge.NmeaBridge

/-!
# Calls on the bridge

Arbitrary sequences of calls on the bridge, with any number of handles that the
callers name, interleaved with dispatches.  The trace records what the callers
and the dispatcher can observe of each call; what was dispatched to a sink and
taken from it is read off the trace.
-/

namespace EspNmeaBridge

open Library

/-- The calls.  A handle pointer is `NULL` or the address of a named handle, and
`frameGiven` says that the frame pointer of a take is not `NULL`. -/
inductive BridgeCall (Handle : Type) where
  | publish (data : Option (List Byte))
  | dispatch
  | sinkOpen (handle : Option Handle) (name : Option String)
  | sinkClose (handle : Option Handle)
  | sinkTake (handle : Option Handle) (frameGiven : Bool) (timeout : KTimeout)
  deriving DecidableEq, Repr

/-- What a call on a named handle, or a dispatch, did.  `id` is the handle's
identifier after an open, and before a take. -/
inductive BridgeEvent (config : Config) (Handle : Type) where
  | dispatched (frame : NmeaFrame config)
  | opened (handle : Handle) (id : Int) (result : Except Errno Unit)
  | closed (handle : Handle)
  | took (handle : Handle) (id : Int) (result : Except Errno (NmeaFrame config))

/-- The bridge, the callers' handles and the trace.  A handle that was never
opened holds whatever its memory held. -/
structure BridgeRun (config : Config) (Handle : Type) where
  bridge : NmeaBridge config := {}
  handles : Handle → NmeaBridgeSink
  trace : List (BridgeEvent config Handle) := []

/-- Frames dispatched to a slot and taken from it since it was last opened, and
how often it was opened. -/
structure SinkLog (config : Config) where
  opens : Nat := 0
  dispatched : List (NmeaFrame config) := []
  taken : List (NmeaFrame config) := []
  deriving DecidableEq, Repr

variable {config : Config} {Handle : Type}

namespace SinkLog

def record (i : Fin config.nmeaSinksMax) (log : SinkLog config) :
    BridgeEvent config Handle → SinkLog config
  | .dispatched frame => { log with dispatched := log.dispatched ++ [frame] }
  | .opened _ id (.ok ()) => if id = i.val then { opens := log.opens + 1 } else log
  | .took _ id (.ok frame) =>
      if id = i.val then { log with taken := log.taken ++ [frame] } else log
  | _ => log

end SinkLog

/-- The log of a slot, from the trace. -/
def sinkLog (i : Fin config.nmeaSinksMax) (trace : List (BridgeEvent config Handle)) :
    SinkLog config :=
  trace.foldl (SinkLog.record i) {}

@[simp] theorem sinkLog_nil (i : Fin config.nmeaSinksMax) :
    sinkLog i ([] : List (BridgeEvent config Handle)) = {} := rfl

@[simp] theorem sinkLog_concat (i : Fin config.nmeaSinksMax)
    (trace : List (BridgeEvent config Handle)) (event : BridgeEvent config Handle) :
    sinkLog i (trace ++ [event]) = (sinkLog i trace).record i event := by
  simp [sinkLog]

namespace BridgeRun

section Machine

variable [DecidableEq Handle]

def step (run : BridgeRun config Handle) : BridgeCall Handle → Option (BridgeRun config Handle)
  | .publish data => some { run with bridge := (run.bridge.publishFrame data).1 }
  | .dispatch =>
      match run.bridge.dispatcherThread with
      | none => none
      | some (frame, bridge) =>
          some { run with bridge, trace := run.trace ++ [.dispatched frame] }
  | .sinkOpen none _ => some run
  | .sinkOpen (some handle) name =>
      match run.bridge.sinkOpen (some (run.handles handle)) name with
      | (bridge, sink, result) =>
          let sink := sink.getD (run.handles handle)
          some {
            bridge
            handles := Function.update run.handles handle sink
            trace := run.trace ++ [.opened handle sink.id result] }
  | .sinkClose none => some run
  | .sinkClose (some handle) =>
      match run.bridge.sinkClose (some (run.handles handle)) with
      | (bridge, sink) =>
          some {
            bridge
            handles := Function.update run.handles handle (sink.getD (run.handles handle))
            trace := run.trace ++ [.closed handle] }
  | .sinkTake none _ _ => some run
  | .sinkTake (some handle) frameGiven timeout =>
      match run.bridge.sinkTake (some (run.handles handle)) frameGiven timeout with
      | none => none
      | some (bridge, result) =>
          some { run with
            bridge
            trace := run.trace ++ [.took handle (run.handles handle).id result] }

/-- The bridge after `nmea_bridge_init`, with any content of the handles. -/
def machine (config : Config) (Handle : Type) [DecidableEq Handle] :
    Machine (BridgeRun config Handle) (BridgeCall Handle) where
  init run := ∃ handles, run = { handles }
  step := step

end Machine

/-- What one call does to a slot and to its log. -/
inductive SlotStep (i : Fin config.nmeaSinksMax) (slot : SinkSlot config) (log : SinkLog config) :
    BridgeCall Handle → SinkSlot config → SinkLog config → Prop where
  | unchanged (call : BridgeCall Handle) : SlotStep i slot log call slot log
  | received (frame : NmeaFrame config) :
      SlotStep i slot log .dispatch (slot.receive frame)
        { log with dispatched := log.dispatched ++ [frame] }
  | opened (handle : Handle) (name : Option String) (inactive : slot.active = false) :
      SlotStep i slot log (.sinkOpen (some handle) name) { active := true, name }
        { opens := log.opens + 1 }
  | closed (handle : Handle) :
      SlotStep i slot log (.sinkClose (some handle))
        { slot with active := false, name := none, msgq := .empty } log
  | took (handle : Handle) (timeout : KTimeout) {frame : NmeaFrame config}
      {msgq : BoundedQueue (NmeaFrame config) config.sinkQueueDepth}
      (head : slot.msgq.items = frame :: msgq.items) :
      SlotStep i slot log (.sinkTake (some handle) true timeout)
        { slot with msgq, stats.consumed := slot.stats.consumed + 1 }
        { log with taken := log.taken ++ [frame] }

section Steps

variable [DecidableEq Handle] {run next : BridgeRun config Handle}

theorem step_dispatch (taken : run.step .dispatch = some next) :
    ∃ frame ingestMsgq, run.bridge.ingestMsgq.items = frame :: ingestMsgq.items ∧
      next = { run with
        bridge := { run.bridge with ingestMsgq }.dispatch frame
        trace := run.trace ++ [.dispatched frame] } := by
  simp only [step, NmeaBridge.dispatcherThread] at taken
  cases got : run.bridge.ingestMsgq.get with
  | none => simp [got] at taken
  | some pair =>
      simp only [got, Option.some.injEq] at taken
      exact ⟨pair.1, pair.2, BoundedQueue.get_eq_some_iff.mp got, taken.symm⟩

/-- An open takes the first free slot, or fails with `-ENOMEM` when there is none. -/
theorem step_sinkOpen {handle : Handle} {name : Option String}
    (taken : run.step (.sinkOpen (some handle) name) = some next) :
    (∃ i, run.bridge.freeSlot = some i ∧ next = {
      bridge := run.bridge.setSlot i { active := true, name }
      handles := Function.update run.handles handle ⟨i.val⟩
      trace := run.trace ++ [.opened handle i.val (.ok ())] }) ∨
    (run.bridge.freeSlot = none ∧ next = { run with
      handles := Function.update run.handles handle ⟨-1⟩
      trace := run.trace ++ [.opened handle (-1) (.error .enomem)] }) := by
  simp only [step, NmeaBridge.sinkOpen] at taken
  cases free : run.bridge.freeSlot with
  | none =>
      simp only [free, Option.getD_some, Option.some.injEq] at taken
      exact Or.inr ⟨rfl, taken.symm⟩
  | some i =>
      simp only [free, Option.getD_some, Option.some.injEq] at taken
      exact Or.inl ⟨i, rfl, taken.symm⟩

/-- A close releases the slot its handle names, or does nothing. -/
theorem step_sinkClose {handle : Handle} (taken : run.step (.sinkClose (some handle)) = some next) :
    (∃ i, NmeaBridge.slotOf (run.handles handle).id = some i ∧ next = {
      bridge := run.bridge.setSlot i
        { run.bridge.sinks i with active := false, name := none, msgq := .empty }
      handles := Function.update run.handles handle ⟨-1⟩
      trace := run.trace ++ [.closed handle] }) ∨
    ((NmeaBridge.slotOf (run.handles handle).id : Option (Fin config.nmeaSinksMax)) = none ∧
      next = { run with trace := run.trace ++ [.closed handle] }) := by
  simp only [step, NmeaBridge.sinkClose] at taken
  cases found : (NmeaBridge.slotOf (run.handles handle).id : Option (Fin config.nmeaSinksMax)) with
  | none =>
      simp only [found, Option.getD_some, Function.update_eq_self, Option.some.injEq] at taken
      exact Or.inr ⟨rfl, taken.symm⟩
  | some i =>
      simp only [found, Option.getD_some, Option.some.injEq] at taken
      exact Or.inl ⟨i, rfl, taken.symm⟩

/-- A take moves the head of the queue of an active slot out of it, or fails and
changes no slot. -/
theorem step_sinkTake {handle : Handle} {frameGiven : Bool} {timeout : KTimeout}
    (taken : run.step (.sinkTake (some handle) frameGiven timeout) = some next) :
    (∃ i frame msgq, frameGiven = true ∧ run.bridge.takeCheck (run.handles handle) = .ok i ∧
      (run.bridge.sinks i).msgq.items = frame :: msgq.items ∧ next = { run with
        bridge := run.bridge.setSlot i { run.bridge.sinks i with
          msgq
          stats.consumed := (run.bridge.sinks i).stats.consumed + 1 }
        trace := run.trace ++ [.took handle i.val (.ok frame)] }) ∨
    (∃ errno, (frameGiven = true → ∀ i, run.bridge.takeCheck (run.handles handle) = .ok i →
        errno = .enomsg ∨ errno = .eagain) ∧ next = { run with
          trace := run.trace ++ [.took handle (run.handles handle).id (.error errno)] }) := by
  simp only [step] at taken
  cases took : run.bridge.sinkTake (some (run.handles handle)) frameGiven timeout with
  | none => simp [took] at taken
  | some outcome =>
      rcases outcome with ⟨bridge, result⟩
      simp only [took, Option.some.injEq] at taken
      rcases NmeaBridge.sinkTake_cases took with
        ⟨i, frame, msgq, given, checked, head, rfl, rfl⟩ | ⟨errno, rfl, rfl, reason⟩
      · have named := (NmeaBridge.takeCheck_eq_ok_iff.mp checked).1
        rw [named] at taken
        exact Or.inl ⟨i, frame, msgq, given, checked, head, taken.symm⟩
      · exact Or.inr ⟨errno, reason, taken.symm⟩

/-- Every call does one of these to a slot and its log. -/
theorem slotStep {call : BridgeCall Handle} (taken : run.step call = some next)
    (i : Fin config.nmeaSinksMax) :
    SlotStep i (run.bridge.sinks i) (sinkLog i run.trace) call
      (next.bridge.sinks i) (sinkLog i next.trace) := by
  cases call with
  | publish data =>
      obtain rfl := Option.some.inj taken
      simp only [NmeaBridge.publishFrame_sinks]
      exact .unchanged _
  | dispatch =>
      obtain ⟨frame, ingestMsgq, _, rfl⟩ := step_dispatch taken
      simp only [NmeaBridge.dispatch_sinks, sinkLog_concat]
      exact .received frame
  | sinkOpen handle name =>
      cases handle with
      | none =>
          obtain rfl := Option.some.inj taken
          exact .unchanged _
      | some handle =>
          rcases step_sinkOpen taken with ⟨j, free, rfl⟩ | ⟨_, rfl⟩
          · by_cases same : i = j
            · subst same
              simp only [NmeaBridge.setSlot_sinks, Function.update_self, sinkLog_concat,
                SinkLog.record, if_true]
              exact .opened handle name (NmeaBridge.active_of_freeSlot free)
            · have other : (j.val : Int) ≠ i.val := by omega
              simp only [NmeaBridge.setSlot_sinks, Function.update_of_ne same, sinkLog_concat,
                SinkLog.record, if_neg other]
              exact .unchanged _
          · simp only [sinkLog_concat, SinkLog.record]
            exact .unchanged _
  | sinkClose handle =>
      cases handle with
      | none =>
          obtain rfl := Option.some.inj taken
          exact .unchanged _
      | some handle =>
          rcases step_sinkClose taken with ⟨j, _, rfl⟩ | ⟨_, rfl⟩
          · by_cases same : i = j
            · subst same
              simp only [NmeaBridge.setSlot_sinks, Function.update_self, sinkLog_concat,
                SinkLog.record]
              exact .closed handle
            · simp only [NmeaBridge.setSlot_sinks, Function.update_of_ne same, sinkLog_concat,
                SinkLog.record]
              exact .unchanged _
          · simp only [sinkLog_concat, SinkLog.record]
            exact .unchanged _
  | sinkTake handle frameGiven timeout =>
      cases handle with
      | none =>
          obtain rfl := Option.some.inj taken
          exact .unchanged _
      | some handle =>
          rcases step_sinkTake taken with ⟨j, frame, msgq, rfl, _, head, rfl⟩ | ⟨errno, _, rfl⟩
          · by_cases same : i = j
            · subst same
              simp only [NmeaBridge.setSlot_sinks, Function.update_self, sinkLog_concat,
                SinkLog.record, if_true]
              exact .took handle timeout head
            · have other : (j.val : Int) ≠ i.val := by omega
              simp only [NmeaBridge.setSlot_sinks, Function.update_of_ne same, sinkLog_concat,
                SinkLog.record, if_neg other]
              exact .unchanged _
          · simp only [sinkLog_concat, SinkLog.record]
            exact .unchanged _

end Steps

end BridgeRun

end EspNmeaBridge
