import EspNmeaBridge.Config
import EspNmeaBridge.Library.BoundedQueue
import Mathlib.Data.List.FinRange
import Mathlib.Logic.Function.Basic

/-!
# The frame bridge

The queues of `nmea_bridge.c` and the functions on them, each as one atomic step.
A Zephyr message queue is a bounded FIFO queue.  Pointer arguments that the code
compares with `NULL` are options.
-/

namespace EspNmeaBridge

open Library

/-- Error numbers; `other` is any number the modelled code does not name. -/
inductive Errno where
  | einval
  | emsgsize
  | enomem
  | enotconn
  | enomsg
  | eagain
  | ewouldblock
  | eintr
  | other (number : Nat)
  deriving DecidableEq, Repr

/-- `struct nmea_frame`; `len` is the length of `data`. -/
@[ext] structure NmeaFrame (config : Config) where
  data : List Byte
  nonempty : 0 < data.length
  fits : data.length ≤ config.nmeaFrameMaxLen
  deriving DecidableEq, Repr

/-- `struct nmea_bridge_stats` -/
structure NmeaBridgeStats where
  framesIn : UInt32 := 0
  ingestDroppedOldest : UInt32 := 0
  sinkDroppedOldest : UInt32 := 0
  publishNoSinks : UInt32 := 0
  publishInvalid : UInt32 := 0
  publishOversize : UInt32 := 0
  deriving DecidableEq, Repr

/-- `struct nmea_sink_stats` -/
structure NmeaSinkStats where
  queued : UInt32 := 0
  droppedOldest : UInt32 := 0
  consumed : UInt32 := 0
  deriving DecidableEq, Repr

/-- `struct nmea_bridge_sink` -/
structure NmeaBridgeSink where
  id : Int
  deriving DecidableEq, Repr

/-- `struct sink_slot`; `buffer` is the storage of `msgq`. -/
structure SinkSlot (config : Config) where
  active : Bool := false
  name : Option String := none
  msgq : BoundedQueue (NmeaFrame config) config.sinkQueueDepth := .empty
  stats : NmeaSinkStats := {}
  deriving DecidableEq, Repr

/-- The static variables of `nmea_bridge.c`. -/
structure NmeaBridge (config : Config) where
  ingestMsgq : BoundedQueue (NmeaFrame config) config.ingestQueueDepth := .empty
  sinks : Fin config.nmeaSinksMax → SinkSlot config := fun _ => {}
  bridgeStats : NmeaBridgeStats := {}

/-- `k_timeout_t` -/
inductive KTimeout where
  | noWait
  | wait
  | forever
  deriving DecidableEq, Repr

/-- `put_drop_oldest`, with the new value of the drop counter. -/
def putDropOldest {α : Type} {capacity : Nat} (msgq : BoundedQueue α capacity) (frame : α)
    (dropCounter : UInt32) : BoundedQueue α capacity × UInt32 :=
  match msgq.put frame with
  | some msgq => (msgq, dropCounter)
  | none =>
      let msgq := match msgq.get with
        | some (_, msgq) => msgq
        | none => msgq
      let dropCounter := dropCounter + 1
      match msgq.put frame with
      | some msgq => (msgq, dropCounter)
      | none => (msgq, dropCounter + 1)

section PutDropOldest

variable {α : Type} {capacity : Nat} {msgq : BoundedQueue α capacity} (frame : α)
  (dropCounter : UInt32)

theorem putDropOldest_of_room (room : msgq.items.length < capacity) :
    (putDropOldest msgq frame dropCounter).1.items = msgq.items ++ [frame] ∧
      (putDropOldest msgq frame dropCounter).2 = dropCounter := by
  cases stored : msgq.put frame with
  | none =>
      rw [BoundedQueue.put_eq_none_iff] at stored
      omega
  | some next =>
      simp only [putDropOldest, stored, and_true]
      exact (BoundedQueue.put_eq_some_iff.mp stored).2

/-- A full queue gives up its oldest item, and the second `k_msgq_put` succeeds. -/
theorem putDropOldest_of_full {oldest : α} {rest : List α} (full : msgq.items.length = capacity)
    (items : msgq.items = oldest :: rest) :
    (putDropOldest msgq frame dropCounter).1.items = rest ++ [frame] ∧
      (putDropOldest msgq frame dropCounter).2 = dropCounter + 1 := by
  have fails : msgq.put frame = none := BoundedQueue.put_eq_none_iff.mpr full
  cases got : msgq.get with
  | none =>
      rw [BoundedQueue.get_eq_none_iff, items] at got
      contradiction
  | some pair =>
      rcases pair with ⟨head, shorter⟩
      have split : oldest :: rest = head :: shorter.items := by
        rw [← items, BoundedQueue.get_eq_some_iff.mp got]
      obtain ⟨-, rfl⟩ := List.cons_eq_cons.mp split
      cases stored : shorter.put frame with
      | none =>
          rw [BoundedQueue.put_eq_none_iff] at stored
          rw [items, List.length_cons] at full
          omega
      | some next =>
          simp only [putDropOldest, fails, got, stored, and_true]
          exact (BoundedQueue.put_eq_some_iff.mp stored).2

/-- The queue does not depend on the counter. -/
theorem putDropOldest_fst (dropCounter' : UInt32) :
    (putDropOldest msgq frame dropCounter).1 = (putDropOldest msgq frame dropCounter').1 := by
  unfold putDropOldest
  cases msgq.put frame with
  | some msgq => rfl
  | none =>
      cases msgq.get with
      | some outcome => cases stored : outcome.2.put frame <;> simp [stored]
      | none => cases stored : msgq.put frame <;> simp [stored]

end PutDropOldest

namespace SinkSlot

variable {config : Config}

/-- What the dispatcher does to a slot. -/
def receive (slot : SinkSlot config) (frame : NmeaFrame config) : SinkSlot config :=
  if !slot.active then slot
  else
    let (msgq, droppedOldest) := putDropOldest slot.msgq frame slot.stats.droppedOldest
    { slot with
      msgq
      stats.droppedOldest := droppedOldest
      stats.queued := slot.stats.queued + 1 }

variable {slot : SinkSlot config}

@[simp] theorem receive_active (frame : NmeaFrame config) :
    (slot.receive frame).active = slot.active := by
  unfold receive
  split <;> rfl

/-- The dispatcher appends to a queue and removes at most its oldest frame. -/
theorem receive_sublist (frame : NmeaFrame config) :
    (slot.receive frame).msgq.items.Sublist (slot.msgq.items ++ [frame]) := by
  cases active : slot.active with
  | false => simp [receive, active]
  | true =>
      simp only [receive, active, Bool.not_true, Bool.false_eq_true, if_false]
      by_cases full : slot.msgq.items.length = config.sinkQueueDepth
      · cases items : slot.msgq.items with
        | nil =>
            have := config.sinkQueueDepth_pos
            rw [items, List.length_nil] at full
            omega
        | cons oldest rest =>
            rw [(putDropOldest_of_full frame slot.stats.droppedOldest full items).1]
            exact (List.sublist_cons_self oldest rest).append_right [frame]
      · have room := Nat.lt_of_le_of_ne slot.msgq.bounded full
        rw [(putDropOldest_of_room frame slot.stats.droppedOldest room).1]

end SinkSlot

namespace NmeaBridge

variable {config : Config}

def setSlot (bridge : NmeaBridge config) (i : Fin config.nmeaSinksMax) (slot : SinkSlot config) :
    NmeaBridge config :=
  { bridge with sinks := Function.update bridge.sinks i slot }

/-- `nmea_bridge_publish_frame` up to its `put_drop_oldest`: the frame to put into the
ingest queue, or the error to return. -/
def publishCheck (bridge : NmeaBridge config) (data : Option (List Byte)) :
    NmeaBridge config × Except Errno (NmeaFrame config) :=
  match data with
  | none =>
      ({ bridge with
          bridgeStats.publishInvalid := bridge.bridgeStats.publishInvalid + 1 }, .error .einval)
  | some data =>
      if empty : data.length = 0 then
        ({ bridge with
            bridgeStats.publishInvalid := bridge.bridgeStats.publishInvalid + 1 }, .error .einval)
      else if oversize : data.length > config.nmeaFrameMaxLen then
        ({ bridge with
            bridgeStats.publishOversize := bridge.bridgeStats.publishOversize + 1 },
          .error .emsgsize)
      else
        ({ bridge with bridgeStats.framesIn := bridge.bridgeStats.framesIn + 1 },
          .ok ⟨data, Nat.pos_of_ne_zero empty, Nat.not_lt.mp oversize⟩)

/-- `nmea_bridge_publish_frame` -/
def publishFrame (bridge : NmeaBridge config) (data : Option (List Byte)) :
    NmeaBridge config × Except Errno Unit :=
  match bridge.publishCheck data with
  | (bridge, .error errno) => (bridge, .error errno)
  | (bridge, .ok frame) =>
      let (ingestMsgq, ingestDroppedOldest) :=
        putDropOldest bridge.ingestMsgq frame bridge.bridgeStats.ingestDroppedOldest
      ({ bridge with
          ingestMsgq
          bridgeStats.ingestDroppedOldest := ingestDroppedOldest }, .ok ())

/-- One pass of the loop over the sinks in `dispatcher_thread`, with the value of
`any`. -/
def dispatchTo (frame : NmeaFrame config) (state : NmeaBridge config × Bool)
    (i : Fin config.nmeaSinksMax) : NmeaBridge config × Bool :=
  let (bridge, any) := state
  let slot := bridge.sinks i
  if !slot.active then (bridge, any)
  else
    let before := slot.stats.droppedOldest
    let (msgq, droppedOldest) := putDropOldest slot.msgq frame slot.stats.droppedOldest
    let sinkDroppedOldest :=
      if droppedOldest ≠ before then
        bridge.bridgeStats.sinkDroppedOldest + (droppedOldest - before)
      else bridge.bridgeStats.sinkDroppedOldest
    let slot := { slot with
      msgq
      stats.droppedOldest := droppedOldest
      stats.queued := slot.stats.queued + 1 }
    ({ bridge.setSlot i slot with
        bridgeStats.sinkDroppedOldest := sinkDroppedOldest }, true)

/-- What `dispatcher_thread` does with a frame while it holds `sinks_lock`. -/
def dispatch (bridge : NmeaBridge config) (frame : NmeaFrame config) : NmeaBridge config :=
  let (bridge, any) := (List.finRange config.nmeaSinksMax).foldl (dispatchTo frame) (bridge, false)
  if !any then
    { bridge with bridgeStats.publishNoSinks := bridge.bridgeStats.publishNoSinks + 1 }
  else bridge

/-- One pass of the outer loop of `dispatcher_thread`, with the frame it got;
blocked while there is none. -/
def dispatcherThread (bridge : NmeaBridge config) : Option (NmeaFrame config × NmeaBridge config) :=
  match bridge.ingestMsgq.get with
  | none => none
  | some (frame, ingestMsgq) => some (frame, { bridge with ingestMsgq }.dispatch frame)

/-- The first slot that is not active. -/
def freeSlot (bridge : NmeaBridge config) : Option (Fin config.nmeaSinksMax) :=
  (List.finRange config.nmeaSinksMax).find? fun i => !(bridge.sinks i).active

/-- `nmea_bridge_sink_open`, with the handle it leaves behind. -/
def sinkOpen (bridge : NmeaBridge config) (sink : Option NmeaBridgeSink) (name : Option String) :
    NmeaBridge config × Option NmeaBridgeSink × Except Errno Unit :=
  match sink with
  | none => (bridge, none, .error .einval)
  | some _ =>
      match bridge.freeSlot with
      | some i =>
          (bridge.setSlot i { active := true, name, msgq := .empty, stats := {} },
            some ⟨i.val⟩, .ok ())
      | none => (bridge, some ⟨-1⟩, .error .enomem)

/-- The slot an identifier addresses. -/
def slotOf (id : Int) : Option (Fin config.nmeaSinksMax) :=
  if within : 0 ≤ id ∧ id < config.nmeaSinksMax then some ⟨id.toNat, by omega⟩ else none

/-- `nmea_bridge_sink_close`, with the handle it leaves behind. -/
def sinkClose (bridge : NmeaBridge config) (sink : Option NmeaBridgeSink) :
    NmeaBridge config × Option NmeaBridgeSink :=
  match sink with
  | none => (bridge, none)
  | some handle =>
      match slotOf handle.id with
      | none => (bridge, some handle)
      | some i =>
          (bridge.setSlot i
            { bridge.sinks i with active := false, name := none, msgq := .empty }, some ⟨-1⟩)

/-- The part of `nmea_bridge_sink_take` before the queue is read: the slot to read,
or the error to return. -/
def takeCheck (bridge : NmeaBridge config) (sink : NmeaBridgeSink) :
    Except Errno (Fin config.nmeaSinksMax) :=
  if sink.id < 0 then .error .enotconn
  else
    match slotOf sink.id with
    | none => .error .einval
    | some i => if (bridge.sinks i).active then .ok i else .error .enotconn

/-- `k_msgq_get` on a slot's queue: the frame, or the error of an empty queue.  It
blocks on an empty queue if it is to wait forever. -/
def takeGet (bridge : NmeaBridge config) (i : Fin config.nmeaSinksMax) (timeout : KTimeout) :
    Option (NmeaBridge config × Except Errno (NmeaFrame config)) :=
  match (bridge.sinks i).msgq.get with
  | some (frame, msgq) => some (bridge.setSlot i { bridge.sinks i with msgq }, .ok frame)
  | none =>
      match timeout with
      | .noWait => some (bridge, .error .enomsg)
      | .wait => some (bridge, .error .eagain)
      | .forever => none

/-- `stats.consumed++` -/
def takeCount (bridge : NmeaBridge config) (i : Fin config.nmeaSinksMax) : NmeaBridge config :=
  bridge.setSlot i { bridge.sinks i with
    stats.consumed := (bridge.sinks i).stats.consumed + 1 }

/-- `nmea_bridge_sink_take`, with the frame it stores; `none` while it blocks. -/
def sinkTake (bridge : NmeaBridge config) (sink : Option NmeaBridgeSink) (frameGiven : Bool)
    (timeout : KTimeout) : Option (NmeaBridge config × Except Errno (NmeaFrame config)) :=
  match sink, frameGiven with
  | some handle, true =>
      match bridge.takeCheck handle with
      | .error errno => some (bridge, .error errno)
      | .ok i =>
          match bridge.takeGet i timeout with
          | some (bridge, .ok frame) => some (bridge.takeCount i, .ok frame)
          | other => other
  | _, _ => some (bridge, .error .einval)

/-- `nmea_bridge_get_sink_stats`, with what it leaves in `*stats`. -/
def getSinkStats (bridge : NmeaBridge config) (sink : Option NmeaBridgeSink)
    (stats : Option NmeaSinkStats) : Option NmeaSinkStats :=
  match stats, sink with
  | some stats, some handle =>
      match slotOf handle.id with
      | none => some stats
      | some i => some (bridge.sinks i).stats
  | stats, _ => stats

section Effects

variable {bridge : NmeaBridge config}

@[simp] theorem setSlot_sinks (i : Fin config.nmeaSinksMax) (slot : SinkSlot config) :
    (bridge.setSlot i slot).sinks = Function.update bridge.sinks i slot := rfl

@[simp] theorem setSlot_ingestMsgq (i : Fin config.nmeaSinksMax) (slot : SinkSlot config) :
    (bridge.setSlot i slot).ingestMsgq = bridge.ingestMsgq := rfl

@[simp] theorem publishCheck_sinks (data : Option (List Byte)) :
    (bridge.publishCheck data).1.sinks = bridge.sinks := by
  unfold publishCheck
  split
  · rfl
  · split
    · rfl
    · split <;> rfl

/-- What `nmea_bridge_publish_frame` does: it accepts a frame, or it counts an error
and changes nothing else. -/
theorem publishFrame_cases (data : Option (List Byte)) :
    (∃ frame : NmeaFrame config, data = some frame.data ∧
      bridge.publishFrame data = ({ bridge with
        ingestMsgq := (putDropOldest bridge.ingestMsgq frame
          bridge.bridgeStats.ingestDroppedOldest).1
        bridgeStats.framesIn := bridge.bridgeStats.framesIn + 1
        bridgeStats.ingestDroppedOldest := (putDropOldest bridge.ingestMsgq frame
          bridge.bridgeStats.ingestDroppedOldest).2 }, .ok ())) ∨
    (∃ publishInvalid publishOversize errno, (∀ frame : NmeaFrame config, data ≠ some frame.data) ∧
      bridge.publishFrame data = ({ bridge with
        bridgeStats.publishInvalid := publishInvalid
        bridgeStats.publishOversize := publishOversize }, .error errno)) := by
  cases data with
  | none =>
      right
      exact ⟨_, bridge.bridgeStats.publishOversize, .einval, by simp, rfl⟩
  | some data =>
      by_cases empty : data.length = 0
      · right
        refine ⟨bridge.bridgeStats.publishInvalid + 1, bridge.bridgeStats.publishOversize,
          .einval, ?_, by simp [publishFrame, publishCheck, empty]⟩
        intro frame equal
        have := frame.nonempty
        rw [← Option.some.inj equal] at this
        omega
      · by_cases oversize : data.length > config.nmeaFrameMaxLen
        · right
          refine ⟨bridge.bridgeStats.publishInvalid, bridge.bridgeStats.publishOversize + 1,
            .emsgsize, ?_, by simp [publishFrame, publishCheck, empty, oversize]⟩
          intro frame equal
          have := frame.fits
          rw [← Option.some.inj equal] at this
          omega
        · left
          exact ⟨⟨data, Nat.pos_of_ne_zero empty, Nat.not_lt.mp oversize⟩, rfl,
            by simp [publishFrame, publishCheck, empty, oversize]⟩

@[simp] theorem publishFrame_sinks (data : Option (List Byte)) :
    (bridge.publishFrame data).1.sinks = bridge.sinks := by
  rcases bridge.publishFrame_cases data with ⟨frame, _, did⟩ | ⟨_, _, errno, _, did⟩
  · rw [did]
  · rw [did]

/-- Whether data is accepted, and the ingest queue afterwards, depend on that queue only. -/
theorem publishFrame_ingestMsgq {other : NmeaBridge config}
    (same : other.ingestMsgq = bridge.ingestMsgq) (data : Option (List Byte)) :
    (other.publishFrame data).1.ingestMsgq = (bridge.publishFrame data).1.ingestMsgq := by
  rcases other.publishFrame_cases data with ⟨frame, rfl, did⟩ | ⟨_, _, _, rejected, did⟩ <;>
    rcases bridge.publishFrame_cases _ with ⟨frame', equal, did'⟩ | ⟨_, _, _, rejected', did'⟩
  · obtain rfl := NmeaFrame.ext (Option.some.inj equal)
    rw [did, did', same]
    exact putDropOldest_fst _ _ _
  · exact absurd rfl (rejected' frame)
  · exact absurd equal (rejected frame')
  · rw [did, did']
    exact same

theorem dispatchTo_ingestMsgq (frame : NmeaFrame config) (any : Bool)
    (i : Fin config.nmeaSinksMax) :
    (dispatchTo frame (bridge, any) i).1.ingestMsgq = bridge.ingestMsgq := by
  unfold dispatchTo
  cases active : (bridge.sinks i).active <;> simp [active]

theorem foldl_dispatchTo_ingestMsgq (frame : NmeaFrame config)
    (slots : List (Fin config.nmeaSinksMax)) (state : NmeaBridge config × Bool) :
    (slots.foldl (dispatchTo frame) state).1.ingestMsgq = state.1.ingestMsgq := by
  induction slots generalizing state with
  | nil => rfl
  | cons i slots ih => rw [List.foldl_cons, ih, dispatchTo_ingestMsgq]

@[simp] theorem dispatch_ingestMsgq (frame : NmeaFrame config) :
    (bridge.dispatch frame).ingestMsgq = bridge.ingestMsgq := by
  have kept := foldl_dispatchTo_ingestMsgq frame (List.finRange config.nmeaSinksMax)
    (bridge, false)
  simp only [dispatch]
  split <;> exact kept

theorem dispatchTo_sinks (frame : NmeaFrame config) (any : Bool) (i j : Fin config.nmeaSinksMax) :
    (dispatchTo frame (bridge, any) i).1.sinks j =
      if j = i then (bridge.sinks i).receive frame else bridge.sinks j := by
  by_cases same : j = i
  · subst same
    cases active : (bridge.sinks j).active <;> simp [dispatchTo, SinkSlot.receive, active]
  · cases active : (bridge.sinks i).active <;> simp [dispatchTo, active, same]

/-- Each slot of a list without repetition receives the frame once. -/
theorem foldl_dispatchTo_sinks (frame : NmeaFrame config) {slots : List (Fin config.nmeaSinksMax)}
    (distinct : slots.Nodup) (state : NmeaBridge config × Bool) (j : Fin config.nmeaSinksMax) :
    (slots.foldl (dispatchTo frame) state).1.sinks j =
      if j ∈ slots then (state.1.sinks j).receive frame else state.1.sinks j := by
  induction slots generalizing state with
  | nil => simp
  | cons i slots ih =>
      rw [List.nodup_cons] at distinct
      rw [List.foldl_cons, ih distinct.2, dispatchTo_sinks]
      by_cases same : j = i
      · subst same
        simp [distinct.1]
      · simp [same]

@[simp] theorem dispatch_sinks (frame : NmeaFrame config) (j : Fin config.nmeaSinksMax) :
    (bridge.dispatch frame).sinks j = (bridge.sinks j).receive frame := by
  have each := foldl_dispatchTo_sinks frame (List.nodup_finRange config.nmeaSinksMax)
    (bridge, false) j
  simp only [List.mem_finRange, if_true] at each
  simp only [dispatch]
  split <;> exact each

theorem freeSlot_eq_none_iff : bridge.freeSlot = none ↔ ∀ i, (bridge.sinks i).active = true := by
  simp [freeSlot]

theorem active_of_freeSlot {i : Fin config.nmeaSinksMax} (free : bridge.freeSlot = some i) :
    (bridge.sinks i).active = false := by
  have := List.find?_some free
  simpa using this

@[simp] theorem slotOf_val (i : Fin config.nmeaSinksMax) :
    (slotOf i.val : Option (Fin config.nmeaSinksMax)) = some i := by
  simp [slotOf]

theorem slotOf_eq_some_iff {id : Int} {i : Fin config.nmeaSinksMax} :
    slotOf id = some i ↔ id = i.val := by
  constructor
  · intro found
    unfold slotOf at found
    split at found
    · rename_i within
      obtain rfl := Option.some.inj found
      simp [Int.toNat_of_nonneg within.1]
    · contradiction
  · rintro rfl
    exact slotOf_val i

theorem takeCheck_eq_ok_iff {sink : NmeaBridgeSink} {i : Fin config.nmeaSinksMax} :
    bridge.takeCheck sink = .ok i ↔ sink.id = i.val ∧ (bridge.sinks i).active = true := by
  unfold takeCheck
  split
  · rename_i negative
    simp only [reduceCtorEq, false_iff, not_and]
    omega
  · split
    · rename_i noSlot
      simp only [reduceCtorEq, false_iff, not_and]
      intro named
      rw [named, slotOf_val] at noSlot
      contradiction
    · rename_i j found
      rw [slotOf_eq_some_iff] at found
      by_cases same : j = i
      · subst same
        cases active : (bridge.sinks j).active <;> simp [found]
      · have other : sink.id ≠ i.val := by omega
        cases active : (bridge.sinks j).active <;> simp [other, same]

/-- Reading a queue either removes its head or finds it empty. -/
theorem takeGet_cases {i : Fin config.nmeaSinksMax} {timeout : KTimeout}
    {next : NmeaBridge config} {result : Except Errno (NmeaFrame config)}
    (taken : bridge.takeGet i timeout = some (next, result)) :
    (∃ frame msgq, (bridge.sinks i).msgq.items = frame :: msgq.items ∧ result = .ok frame ∧
      next = bridge.setSlot i { bridge.sinks i with msgq }) ∨
    ((bridge.sinks i).msgq.items = [] ∧ (result = .error .enomsg ∨ result = .error .eagain) ∧
      next = bridge) := by
  unfold takeGet at taken
  cases got : (bridge.sinks i).msgq.get with
  | some pair =>
      simp only [got, Option.some.injEq, Prod.mk.injEq] at taken
      exact Or.inl ⟨pair.1, pair.2, BoundedQueue.get_eq_some_iff.mp got, taken.2.symm,
        taken.1.symm⟩
  | none =>
      rw [got] at taken
      refine Or.inr ⟨BoundedQueue.get_eq_none_iff.mp got, ?_⟩
      cases timeout with
      | noWait =>
          simp only [Option.some.injEq, Prod.mk.injEq] at taken
          exact ⟨Or.inl taken.2.symm, taken.1.symm⟩
      | wait =>
          simp only [Option.some.injEq, Prod.mk.injEq] at taken
          exact ⟨Or.inr taken.2.symm, taken.1.symm⟩
      | forever => simp at taken

/-- A take moves the head of the queue of an active slot out of it, or returns an
error and changes nothing.  Past the check, the error is that of an empty queue. -/
theorem sinkTake_cases {handle : NmeaBridgeSink} {frameGiven : Bool} {timeout : KTimeout}
    {next : NmeaBridge config} {result : Except Errno (NmeaFrame config)}
    (taken : bridge.sinkTake (some handle) frameGiven timeout = some (next, result)) :
    (∃ i frame msgq, frameGiven = true ∧ bridge.takeCheck handle = .ok i ∧
      (bridge.sinks i).msgq.items = frame :: msgq.items ∧ result = .ok frame ∧
      next = bridge.setSlot i { bridge.sinks i with
        msgq
        stats.consumed := (bridge.sinks i).stats.consumed + 1 }) ∨
    (∃ errno, result = .error errno ∧ next = bridge ∧
      (frameGiven = true → ∀ i, bridge.takeCheck handle = .ok i →
        errno = .enomsg ∨ errno = .eagain)) := by
  cases frameGiven with
  | false =>
      simp only [sinkTake, Option.some.injEq, Prod.mk.injEq] at taken
      exact Or.inr ⟨_, taken.2.symm, taken.1.symm, by simp⟩
  | true =>
      cases checked : bridge.takeCheck handle with
      | error errno =>
          simp only [sinkTake, checked, Option.some.injEq, Prod.mk.injEq] at taken
          exact Or.inr ⟨_, taken.2.symm, taken.1.symm, by simp⟩
      | ok i =>
          cases got : bridge.takeGet i timeout with
          | none => simp [sinkTake, checked, got] at taken
          | some outcome =>
              rcases outcome with ⟨middle, answer⟩
              rcases takeGet_cases got with ⟨frame, msgq, head, rfl, rfl⟩ | ⟨_, errno, rfl⟩
              · simp only [sinkTake, checked, got, Option.some.injEq, Prod.mk.injEq] at taken
                refine Or.inl ⟨i, frame, msgq, rfl, rfl, head, taken.2.symm, ?_⟩
                rw [← taken.1]
                simp [takeCount, setSlot]
              · rcases errno with rfl | rfl <;>
                  simp only [sinkTake, checked, got, Option.some.injEq, Prod.mk.injEq] at taken <;>
                  exact Or.inr ⟨_, taken.2.symm, taken.1.symm, by simp⟩

end Effects

end NmeaBridge

end EspNmeaBridge
