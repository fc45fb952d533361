import EspNmeaBridge.Library.Counter
import EspNmeaBridge.NmeaBridge.Calls

/-!
# The history of an open sink

Since it was opened, a sink's queue has been fed everything dispatched, and gave
up its oldest frame whenever a frame arrived at a full queue.  `SlotAccount` is
the invariant of one slot; `slotAccount_step` keeps it through each kind of call,
whoever makes it and whichever handle it names.
-/

namespace EspNmeaBridge

open Library

variable {config : Config} {Handle : Type} [DecidableEq Handle]

namespace BridgeRun

/-- At an earlier moment of the run, since the slot was last opened, its queue was
full, the frame at `position` of what had been dispatched to it was the oldest one
queued, and the next step dispatched another frame. -/
def Displaced (start : BridgeRun config Handle) (calls : List (BridgeCall Handle))
    (i : Fin config.nmeaSinksMax) (opens position : Nat) : Prop :=
  ∃ before after moment,
    calls = before ++ .dispatch :: after ∧
    (machine config Handle).exec start before = some moment ∧
    (sinkLog i moment.trace).opens = opens ∧
    (moment.bridge.sinks i).active = true ∧
    (moment.bridge.sinks i).msgq.items.length = config.sinkQueueDepth ∧
    (sinkLog i moment.trace).dispatched.length = position + config.sinkQueueDepth ∧
    (moment.bridge.sinks i).msgq.items.head? = (sinkLog i moment.trace).dispatched[position]?

/-- A slot's queue, statistics and log agree. -/
structure SlotAccount (slot : SinkSlot config) (log : SinkLog config) (lost : Nat → Prop) :
    Prop where
  account : ∃ taken drops, Account log.dispatched slot.msgq.items taken drops lost ∧
    taken.map (log.dispatched[·]?) = log.taken.map some ∧
    slot.stats.droppedOldest = UInt32.ofNat drops
  queued : slot.stats.queued = UInt32.ofNat log.dispatched.length
  consumed : slot.stats.consumed = UInt32.ofNat log.taken.length

namespace SlotAccount

variable {slot : SinkSlot config} {log : SinkLog config} {lost lost' : Nat → Prop}

theorem mono (holds : SlotAccount slot log lost)
    (implies : ∀ position, lost position → lost' position) : SlotAccount slot log lost' := by
  obtain ⟨taken, drops, account, names, counted⟩ := holds.account
  exact ⟨⟨taken, drops, account.mono implies, names, counted⟩, holds.queued, holds.consumed⟩

/-- A slot that was just opened. -/
theorem opened (name : Option String) (opens : Nat) (lost : Nat → Prop) :
    SlotAccount ({ active := true, name } : SinkSlot config) { opens } lost where
  account := ⟨[], 0, .start lost, rfl, rfl⟩
  queued := rfl
  consumed := rfl

/-- Reading what was taken is not affected by what is dispatched later. -/
theorem names_concat {taken : List Nat} {drops : Nat} {queue : List (NmeaFrame config)}
    (account : Account log.dispatched queue taken drops lost)
    (names : taken.map (log.dispatched[·]?) = log.taken.map some) (frame : NmeaFrame config) :
    taken.map ((log.dispatched ++ [frame])[·]?) = log.taken.map some := by
  rw [← names]
  apply List.map_congr_left
  intro position member
  have := account.before position member
  exact List.getElem?_append_left (by omega)

/-- A frame arrives at an active slot.  If its queue is full, the oldest frame is
the one at the position that has to be accounted for as lost. -/
theorem received (holds : SlotAccount slot log lost) (active : slot.active = true)
    (frame : NmeaFrame config)
    (displaced : ∀ position, slot.msgq.items.length = config.sinkQueueDepth →
      log.dispatched.length = position + config.sinkQueueDepth →
      slot.msgq.items.head? = log.dispatched[position]? → lost position) :
    SlotAccount (slot.receive frame) { log with dispatched := log.dispatched ++ [frame] } lost := by
  obtain ⟨taken, drops, account, names, counted⟩ := holds.account
  have queued : slot.stats.queued + 1 = UInt32.ofNat (log.dispatched ++ [frame]).length := by
    rw [holds.queued, List.length_append, List.length_singleton, counter_succ]
  have bounded := slot.msgq.bounded
  by_cases full : slot.msgq.items.length = config.sinkQueueDepth
  · cases items : slot.msgq.items with
    | nil =>
        have := config.sinkQueueDepth_pos
        rw [items, List.length_nil] at full
        omega
    | cons oldest rest =>
        have stored := putDropOldest_of_full frame slot.stats.droppedOldest full items
        rw [items] at account full displaced
        have fits := account.suffix.length_le
        simp only [List.length_cons] at full fits
        have given := displaced (log.dispatched.length - (rest.length + 1)) full (by omega)
          account.head_position.symm
        refine ⟨⟨taken, drops + 1, ?_, names_concat account names frame, ?_⟩, ?_, ?_⟩
        · simpa [SinkSlot.receive, active, stored.1] using (account.displace given).push frame
        · rw [counter_succ, ← counted]
          simpa [SinkSlot.receive, active] using stored.2
        · simpa [SinkSlot.receive, active] using queued
        · simpa [SinkSlot.receive, active] using holds.consumed
  · have stored := putDropOldest_of_room frame slot.stats.droppedOldest
      (Nat.lt_of_le_of_ne bounded full)
    refine ⟨⟨taken, drops, ?_, names_concat account names frame, ?_⟩, ?_, ?_⟩
    · simpa [SinkSlot.receive, active, stored.1] using account.push frame
    · simpa [SinkSlot.receive, active, stored.2] using counted
    · simpa [SinkSlot.receive, active] using queued
    · simpa [SinkSlot.receive, active] using holds.consumed

/-- The head of the queue is taken. -/
theorem took (holds : SlotAccount slot log lost) {frame : NmeaFrame config}
    {msgq : BoundedQueue (NmeaFrame config) config.sinkQueueDepth}
    (head : slot.msgq.items = frame :: msgq.items) :
    SlotAccount { slot with msgq, stats.consumed := slot.stats.consumed + 1 }
      { log with taken := log.taken ++ [frame] } lost := by
  obtain ⟨taken, drops, account, names, counted⟩ := holds.account
  rw [head] at account
  refine ⟨⟨_, drops, account.take, ?_, counted⟩, holds.queued, ?_⟩
  · rw [List.map_append, names, List.map_append, List.map_singleton, account.head_position]
    rfl
  · simp [holds.consumed]

end SlotAccount

/-- The accounts of all open slots after the given calls. -/
def Accounted (start : BridgeRun config Handle) (calls : List (BridgeCall Handle))
    (run : BridgeRun config Handle) : Prop :=
  ∀ i, (run.bridge.sinks i).active = true →
    SlotAccount (run.bridge.sinks i) (sinkLog i run.trace)
      (Displaced start calls i (sinkLog i run.trace).opens)

section Step

variable {start run next : BridgeRun config Handle} {calls : List (BridgeCall Handle)}
  {call : BridgeCall Handle}

/-- A later call does not change what happened before. -/
theorem Displaced.concat {i : Fin config.nmeaSinksMax} {opens position : Nat}
    (displaced : Displaced start calls i opens position) (call : BridgeCall Handle) :
    Displaced start (calls ++ [call]) i opens position := by
  obtain ⟨before, after, moment, rfl, reached, facts⟩ := displaced
  exact ⟨before, after ++ [call], moment, by simp, reached, facts⟩

/-- A call keeps the account of each open slot. -/
theorem slotAccount_step (reached : (machine config Handle).exec start calls = some run)
    (holds : Accounted start calls run) (taken : run.step call = some next) :
    Accounted start (calls ++ [call]) next := by
  intro i active
  have change := slotStep taken i
  generalize next.bridge.sinks i = slot' at change active ⊢
  generalize sinkLog i next.trace = log' at change ⊢
  cases change with
  | unchanged =>
      exact (holds i active).mono fun position displaced => displaced.concat call
  | received frame =>
      cases wasActive : (run.bridge.sinks i).active with
      | false => simp [SinkSlot.receive, wasActive] at active
      | true =>
          have later := (holds i wasActive).mono fun position displaced =>
            displaced.concat .dispatch
          apply later.received wasActive frame
          intro position full arrived oldest
          exact ⟨calls, [], run, rfl, reached, rfl, wasActive, full, arrived, oldest⟩
  | opened handle name inactive => exact .opened name _ _
  | closed handle => simp at active
  | took handle timeout head =>
      exact ((holds i active).mono fun position displaced => displaced.concat _).took head

end Step

theorem accounted {start run : BridgeRun config Handle} {calls : List (BridgeCall Handle)}
    (initial : (machine config Handle).init start)
    (reached : (machine config Handle).exec start calls = some run) :
    Accounted start calls run := by
  refine Machine.exec_induction (motive := Accounted start) ?_ ?_ reached
  · intro i active
    obtain ⟨handles, rfl⟩ := initial
    simp at active
  · intro calls run call next reached holds taken
    exact slotAccount_step reached holds taken

/-- What is known about slot `i` when it is open after `calls`: its queue is the
newest part of what was dispatched to it since it was opened; what was taken and
what is queued are distinct dispatched frames, in dispatch order; every other one
was displaced from a full queue; the statistics count the frames dispatched, taken
and displaced. -/
structure HistoryHolds (start : BridgeRun config Handle) (calls : List (BridgeCall Handle))
    (run : BridgeRun config Handle) (i : Fin config.nmeaSinksMax) : Prop where
  suffix : (run.bridge.sinks i).msgq.items <:+ (sinkLog i run.trace).dispatched
  bounded : (run.bridge.sinks i).msgq.items.length ≤ config.sinkQueueDepth
  kept : ∃ positions : List Nat, positions.Pairwise (· < ·) ∧
    positions.map ((sinkLog i run.trace).dispatched[·]?) =
      ((sinkLog i run.trace).taken ++ (run.bridge.sinks i).msgq.items).map some ∧
    (∀ position < (sinkLog i run.trace).dispatched.length, position ∉ positions →
      Displaced start calls i (sinkLog i run.trace).opens position) ∧
    (run.bridge.sinks i).stats.droppedOldest = UInt32.ofNat
      ((List.range (sinkLog i run.trace).dispatched.length).countP (· ∉ positions))
  queued : (run.bridge.sinks i).stats.queued =
    UInt32.ofNat (sinkLog i run.trace).dispatched.length
  consumed : (run.bridge.sinks i).stats.consumed =
    UInt32.ofNat (sinkLog i run.trace).taken.length

theorem historyHolds {start run : BridgeRun config Handle} {calls : List (BridgeCall Handle)}
    (initial : (machine config Handle).init start)
    (reached : (machine config Handle).exec start calls = some run)
    {i : Fin config.nmeaSinksMax} (active : (run.bridge.sinks i).active = true) :
    HistoryHolds start calls run i := by
  obtain ⟨⟨taken, drops, account, names, counted⟩, queued, consumed⟩ :=
    accounted initial reached i active
  refine ⟨account.suffix, (run.bridge.sinks i).msgq.bounded,
    ⟨_, account.positions_sorted, ?_, fun position within absent =>
      account.lost_of_notMem within absent, ?_⟩, queued, consumed⟩
  · rw [account.map_positions, names, List.map_append]
  · rw [counted, account.countP_missing]

/-- A bridge with the smallest queues. -/
def narrow : Config where
  __ := Config.committed
  ingestQueueDepth := 2
  sinkQueueDepth := 2
  ingest_range := by decide
  sink_range := by decide

/-- Three frames for a sink whose queue holds two; one is taken. -/
def overflow : List (BridgeCall Unit) :=
  [.sinkOpen (some ()) none, .publish (some [10]), .dispatch, .publish (some [65, 10]), .dispatch,
    .publish (some [66, 10]), .dispatch, .sinkTake (some ()) true .noWait]

theorem historyHolds_overflow :
    ∃ run, (machine narrow Unit).exec { handles := fun _ => ⟨0⟩ } overflow = some run ∧
      (run.bridge.sinks 0).stats = { queued := 3, droppedOldest := 1, consumed := 1 } ∧
      HistoryHolds { handles := fun _ => ⟨0⟩ } overflow run 0 :=
  ⟨_, rfl, rfl, historyHolds ⟨_, rfl⟩ rfl rfl⟩

end BridgeRun

end EspNmeaBridge
