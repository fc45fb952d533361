import EspNmeaBridge.Pipeline

/-!
# One producer, any number of consumers

`put_drop_oldest` on a queue that other parties take from between its single queue
operations.  The queue may be full when the first `k_msgq_put` is made and partly
drained, or empty, when the next operation is; no other party puts anything into it.
A run is told as the list of its events, one a step.
-/

namespace EspNmeaBridge

open Library

/-- A queue with its drop counter, and the frame and position of the call of
`put_drop_oldest` that is on its way. -/
structure PutState (α : Type) (capacity : Nat) where
  msgq : BoundedQueue α capacity
  dropCounter : UInt32
  call : Option (α × PutPc) := none
  deriving DecidableEq, Repr

/-- Who takes the next step: the producer, which is called with a frame or makes its next
operation, or another party with its `k_msgq_get`. -/
inductive PutAction (α ι : Type) where
  | call (frame : α)
  | operation
  | take (party : ι)
  deriving DecidableEq, Repr

namespace PutAction

variable {α ι : Type}

/-- The frame of a call. -/
@[simp] def call? : PutAction α ι → Option α
  | .call frame => some frame
  | _ => none

/-- The step is the producer's, inside a call. -/
@[simp] def isOperation : PutAction α ι → Bool
  | .operation => true
  | _ => false

end PutAction

/-- What a step was seen to do. -/
inductive PutEvent (α ι : Type) where
  | called (frame : α)
  | enqueued (frame : α)
  | refused
  | discarded (frame : α)
  | foundEmpty
  | counted
  | refusedAgain
  | took (party : ι) (frame : α)
  | tookNothing (party : ι)
  deriving DecidableEq, Repr

namespace PutState

variable {α ι : Type} {capacity : Nat}

def step (state : PutState α capacity) : PutAction α ι → Option (PutState α capacity)
  | .call frame =>
      match state.call with
      | none => some { state with call := some (frame, .put) }
      | some _ => none
  | .operation =>
      match state.call with
      | none => none
      | some (frame, pc) =>
          match pc.step frame state.msgq state.dropCounter with
          | (msgq, dropCounter, next) =>
              some { msgq, dropCounter, call := next.map fun pc => (frame, pc) }
  | .take _ =>
      match state.msgq.get with
      | none => some state
      | some (_, msgq) => some { state with msgq }

/-- The machine starts between two calls, with any queue and any counter. -/
def machine (α ι : Type) (capacity : Nat) : Machine (PutState α capacity) (PutAction α ι) where
  init state := state.call = none
  step := step

end PutState

section Events

variable {α ι : Type} {capacity : Nat}

/-- The event of an operation of `put_drop_oldest`. -/
def PutPc.event (frame : α) (msgq : BoundedQueue α capacity) : PutPc → PutEvent α ι
  | .put =>
      match msgq.put frame with
      | some _ => .enqueued frame
      | none => .refused
  | .get =>
      match msgq.get with
      | some (old, _) => .discarded old
      | none => .foundEmpty
  | .count | .countAgain => .counted
  | .putAgain =>
      match msgq.put frame with
      | some _ => .enqueued frame
      | none => .refusedAgain

/-- The event of a step, if it is enabled. -/
def PutState.event (state : PutState α capacity) : PutAction α ι → Option (PutEvent α ι)
  | .call frame => some (.called frame)
  | .operation => state.call.map fun call => call.2.event call.1 state.msgq
  | .take party =>
      match state.msgq.get with
      | some (frame, _) => some (.took party frame)
      | none => some (.tookNothing party)

/-- The events of a run. -/
def PutState.events (start : PutState α capacity) (actions : List (PutAction α ι)) :
    List (PutEvent α ι) :=
  ((machine α ι capacity).trail start actions).filterMap fun entry => entry.1.event entry.2

namespace PutEvent

/-- The frame of a call. -/
@[simp] def call? : PutEvent α ι → Option α
  | .called frame => some frame
  | _ => none

/-- The frame a `k_msgq_put` has put into the queue. -/
@[simp] def enqueued? : PutEvent α ι → Option α
  | .enqueued frame => some frame
  | _ => none

/-- The frame `put_drop_oldest` has thrown away. -/
@[simp] def discarded? : PutEvent α ι → Option α
  | .discarded frame => some frame
  | _ => none

/-- The frame another party has taken. -/
@[simp] def taken? : PutEvent α ι → Option α
  | .took _ frame => some frame
  | _ => none

/-- The frame that has left the queue, whoever has it. -/
@[simp] def removed? : PutEvent α ι → Option α
  | .discarded frame | .took _ frame => some frame
  | _ => none

/-- The first `k_msgq_put` of a call failed. -/
@[simp] def isRefused : PutEvent α ι → Bool
  | .refused => true
  | _ => false

/-- The call found nothing to throw away. -/
@[simp] def isFoundEmpty : PutEvent α ι → Bool
  | .foundEmpty => true
  | _ => false

/-- The drop counter was incremented. -/
@[simp] def isCounted : PutEvent α ι → Bool
  | .counted => true
  | _ => false

/-- The step was the producer's, inside a call. -/
@[simp] def isOperation : PutEvent α ι → Bool
  | .called _ | .took .. | .tookNothing _ => false
  | _ => true

/-- What leaves the queue is thrown away or taken. -/
theorem length_removed (events : List (PutEvent α ι)) :
    (events.filterMap removed?).length =
      (events.filterMap discarded?).length + (events.filterMap taken?).length := by
  induction events with
  | nil => rfl
  | cons event events ih =>
      cases event with
      | discarded | took =>
          simp only [List.filterMap_cons, removed?, discarded?, taken?, List.length_cons, ih]
          omega
      | called | enqueued | refused | foundEmpty | counted | refusedAgain | tookNothing =>
          simpa only [List.filterMap_cons, removed?, discarded?, taken?] using ih

end PutEvent

/-- One step as a relation: the event and what it changes. -/
inductive PutState.Happens : PutState α capacity → PutEvent α ι → PutState α capacity → Prop where
  | called {msgq dropCounter} (frame : α) :
      Happens ⟨msgq, dropCounter, none⟩ (.called frame) ⟨msgq, dropCounter, some (frame, .put)⟩
  | enqueued {msgq next : BoundedQueue α capacity} {dropCounter frame pc}
      (attempt : pc = .put ∨ pc = .putAgain) (put : next.items = msgq.items ++ [frame]) :
      Happens ⟨msgq, dropCounter, some (frame, pc)⟩ (.enqueued frame) ⟨next, dropCounter, none⟩
  | refused {msgq : BoundedQueue α capacity} {dropCounter frame}
      (full : msgq.items.length = capacity) :
      Happens ⟨msgq, dropCounter, some (frame, .put)⟩ .refused
        ⟨msgq, dropCounter, some (frame, .get)⟩
  | discarded {msgq next : BoundedQueue α capacity} {dropCounter frame old}
      (got : msgq.items = old :: next.items) :
      Happens ⟨msgq, dropCounter, some (frame, .get)⟩ (.discarded old)
        ⟨next, dropCounter, some (frame, .count)⟩
  | foundEmpty {msgq : BoundedQueue α capacity} {dropCounter frame} (empty : msgq.items = []) :
      Happens ⟨msgq, dropCounter, some (frame, .get)⟩ .foundEmpty
        ⟨msgq, dropCounter, some (frame, .count)⟩
  | counted {msgq dropCounter frame} :
      Happens ⟨msgq, dropCounter, some (frame, .count)⟩ .counted
        ⟨msgq, dropCounter + 1, some (frame, .putAgain)⟩
  | refusedAgain {msgq : BoundedQueue α capacity} {dropCounter frame}
      (full : msgq.items.length = capacity) :
      Happens ⟨msgq, dropCounter, some (frame, .putAgain)⟩ .refusedAgain
        ⟨msgq, dropCounter, some (frame, .countAgain)⟩
  | countedAgain {msgq dropCounter frame} :
      Happens ⟨msgq, dropCounter, some (frame, .countAgain)⟩ .counted
        ⟨msgq, dropCounter + 1, none⟩
  | took {msgq next : BoundedQueue α capacity} {dropCounter call} (party : ι) {frame}
      (got : msgq.items = frame :: next.items) :
      Happens ⟨msgq, dropCounter, call⟩ (.took party frame) ⟨next, dropCounter, call⟩
  | tookNothing {state : PutState α capacity} (party : ι) (empty : state.msgq.items = []) :
      Happens state (.tookNothing party) state

/-- An operation of `put_drop_oldest` is one of the events of its position. -/
theorem PutPc.step_happens (frame : α) (msgq : BoundedQueue α capacity) (dropCounter : UInt32)
    (pc : PutPc) :
    PutState.Happens ⟨msgq, dropCounter, some (frame, pc)⟩ (pc.event (ι := ι) frame msgq)
      ⟨(pc.step frame msgq dropCounter).1, (pc.step frame msgq dropCounter).2.1,
        (pc.step frame msgq dropCounter).2.2.map fun pc => (frame, pc)⟩ := by
  cases pc with
  | put =>
      cases stored : msgq.put frame with
      | none =>
          simp only [step, event, stored]
          exact .refused (BoundedQueue.put_eq_none_iff.mp stored)
      | some next =>
          simp only [step, event, stored]
          exact .enqueued (.inl rfl) (BoundedQueue.put_eq_some_iff.mp stored).2
  | get =>
      cases got : msgq.get with
      | none =>
          simp only [step, event, got]
          exact .foundEmpty (BoundedQueue.get_eq_none_iff.mp got)
      | some pair =>
          simp only [step, event, got]
          exact .discarded (BoundedQueue.get_eq_some_iff.mp got)
  | count => exact .counted
  | putAgain =>
      cases stored : msgq.put frame with
      | none =>
          simp only [step, event, stored]
          exact .refusedAgain (BoundedQueue.put_eq_none_iff.mp stored)
      | some next =>
          simp only [step, event, stored]
          exact .enqueued (.inr rfl) (BoundedQueue.put_eq_some_iff.mp stored).2
  | countAgain => exact .countedAgain

theorem PutState.step_happens {state next : PutState α capacity} {action : PutAction α ι}
    (taken : state.step action = some next) :
    ∃ event, state.event action = some event ∧ Happens state event next := by
  obtain ⟨msgq, dropCounter, call⟩ := state
  cases action with
  | call frame =>
      cases call with
      | none =>
          cases taken
          exact ⟨_, rfl, .called frame⟩
      | some busy => contradiction
  | operation =>
      cases call with
      | none => contradiction
      | some busy =>
          cases taken
          exact ⟨_, rfl, busy.2.step_happens busy.1 msgq dropCounter⟩
  | take party =>
      cases got : msgq.get with
      | none =>
          simp only [step, got, Option.some.injEq] at taken
          cases taken
          exact ⟨.tookNothing party, by simp [event, got],
            .tookNothing party (BoundedQueue.get_eq_none_iff.mp got)⟩
      | some pair =>
          simp only [step, got, Option.some.injEq] at taken
          cases taken
          exact ⟨.took party pair.1, by simp [event, got],
            .took party (BoundedQueue.get_eq_some_iff.mp got)⟩

namespace PutState

/-- The frame of the call that is on its way. -/
def inHand (state : PutState α capacity) : List α := (state.call.map (·.1)).toList

/-- A call that has made room still has it, so its second `k_msgq_put` cannot fail. -/
def HasRoom (state : PutState α capacity) : Prop :=
  match state.call with
  | some (_, .count) | some (_, .putAgain) => state.msgq.items.length < capacity
  | some (_, .countAgain) => False
  | some (_, .put) | some (_, .get) | none => True

theorem Happens.hasRoom {state next : PutState α capacity} {event : PutEvent α ι}
    (happens : Happens state event next) (positive : 0 < capacity) (room : state.HasRoom) :
    event ≠ .refusedAgain ∧ next.HasRoom := by
  cases happens with
  | called | refused | enqueued => exact ⟨by simp, trivial⟩
  | @discarded msgq next dropCounter frame old got =>
      have fits := msgq.bounded
      rw [got, List.length_cons] at fits
      exact ⟨by simp, fits⟩
  | foundEmpty empty =>
      exact ⟨by simp, by simpa [HasRoom, empty] using positive⟩
  | counted => exact ⟨by simp, room⟩
  | refusedAgain full => exact absurd full (Nat.ne_of_lt room)
  | countedAgain => exact room.elim
  | @took msgq next dropCounter call party frame got =>
      have smaller : next.items.length ≤ msgq.items.length := by simp [got]
      refine ⟨by simp, ?_⟩
      rcases call with _ | ⟨frame, _ | _ | _ | _ | _⟩
      · trivial
      · trivial
      · trivial
      · exact Nat.lt_of_le_of_lt smaller room
      · exact Nat.lt_of_le_of_lt smaller room
      · exact room
  | tookNothing => exact ⟨by simp, room⟩

/-- What a step adds at one end of the queue and takes away at the other. -/
theorem Happens.items {state next : PutState α capacity} {event : PutEvent α ι}
    (happens : Happens state event next) :
    event.removed?.toList ++ next.msgq.items = state.msgq.items ++ event.enqueued?.toList := by
  cases happens with
  | enqueued attempt put => simp [put]
  | discarded got | took party got => simp [got]
  | called | refused | foundEmpty | counted | refusedAgain | countedAgain | tookNothing =>
      simp

/-- The frame of a call stays in hand until it is enqueued. -/
theorem Happens.inHand {state next : PutState α capacity} {event : PutEvent α ι}
    (happens : Happens state event next) (room : state.HasRoom) :
    state.inHand ++ event.call?.toList = event.enqueued?.toList ++ next.inHand := by
  cases happens with
  | countedAgain => exact room.elim
  | called | enqueued | refused | discarded | foundEmpty | counted | refusedAgain | took
      | tookNothing =>
      simp [PutState.inHand]

/-- Calls whose first `k_msgq_put` has yet to be made. -/
def untried (state : PutState α capacity) : Nat :=
  match state.call with
  | some (_, .put) => 1
  | _ => 0

/-- First failures that are yet to be counted. -/
def uncounted (state : PutState α capacity) : Nat :=
  match state.call with
  | some (_, .get) | some (_, .count) => 1
  | _ => 0

/-- Frames that may have been thrown away and are yet to be counted. -/
def unsettled (state : PutState α capacity) : Nat :=
  match state.call with
  | some (_, .count) => 1
  | _ => 0

/-- Operations until the call returns, at most. -/
def remaining (state : PutState α capacity) : Nat :=
  match state.call with
  | some (_, .put) => 4
  | some (_, .get) => 3
  | some (_, .count) => 2
  | some (_, .putAgain) | some (_, .countAgain) => 1
  | none => 0

/-- What a step adds to the counts. -/
structure StepCounts (state : PutState α capacity) (event : PutEvent α ι)
    (next : PutState α capacity) : Prop where
  counter : next.dropCounter = state.dropCounter + UInt32.ofNat event.isCounted.toNat
  counted : event.isRefused.toNat + state.uncounted = event.isCounted.toNat + next.uncounted
  lost : event.discarded?.toList.length + state.unsettled ≤
    event.isCounted.toNat + next.unsettled
  once : event.isRefused.toNat + next.untried ≤ state.untried + event.call?.toList.length
  returns : event.isOperation.toNat + next.remaining ≤
    state.remaining + 4 * event.call?.toList.length

theorem Happens.counts {state next : PutState α capacity} {event : PutEvent α ι}
    (happens : Happens state event next) (room : state.HasRoom) :
    StepCounts state event next := by
  cases happens with
  | countedAgain => exact room.elim
  | refusedAgain full => exact absurd full (Nat.ne_of_lt room)
  | enqueued attempt put =>
      cases attempt with
      | inl first =>
          subst first
          constructor <;> simp [untried, uncounted, unsettled, remaining]
      | inr second =>
          subst second
          constructor <;> simp [untried, uncounted, unsettled, remaining]
  | called | refused | discarded | foundEmpty | counted | took | tookNothing =>
      constructor <;> simp [untried, uncounted, unsettled, remaining]

/-- The state after a run against the events of the run. -/
structure Ledger (start : PutState α capacity) (events : List (PutEvent α ι))
    (state : PutState α capacity) : Prop where
  room : state.HasRoom
  accepted : .refusedAgain ∉ events
  order : events.filterMap PutEvent.removed? ++ state.msgq.items =
    start.msgq.items ++ events.filterMap PutEvent.enqueued?
  calls : events.filterMap PutEvent.call? =
    events.filterMap PutEvent.enqueued? ++ state.inHand
  counter : state.dropCounter =
    start.dropCounter + UInt32.ofNat (events.countP PutEvent.isCounted)
  counted : events.countP PutEvent.isRefused =
    events.countP PutEvent.isCounted + state.uncounted
  lost : (events.filterMap PutEvent.discarded?).length ≤
    events.countP PutEvent.isCounted + state.unsettled
  once : events.countP PutEvent.isRefused + state.untried ≤
    (events.filterMap PutEvent.call?).length
  returns : events.countP PutEvent.isOperation + state.remaining ≤
    4 * (events.filterMap PutEvent.call?).length

theorem Ledger.start {start : PutState α capacity} (idle : start.call = none) :
    Ledger start ([] : List (PutEvent α ι)) start := by
  constructor <;> simp [HasRoom, PutState.inHand, uncounted, unsettled, untried, remaining, idle]

theorem filterMap_concat {β γ : Type} (f : β → Option γ) (items : List β) (item : β) :
    (items ++ [item]).filterMap f = items.filterMap f ++ (f item).toList := by
  cases found : f item <;> simp [found]

theorem countP_concat {β : Type} (p : β → Bool) (items : List β) (item : β) :
    (items ++ [item]).countP p = items.countP p + (p item).toNat := by
  cases found : p item <;> simp [found]

theorem Ledger.step {start state next : PutState α capacity} {events : List (PutEvent α ι)}
    {event : PutEvent α ι} (ledger : Ledger start events state) (positive : 0 < capacity)
    (happens : Happens state event next) : Ledger start (events ++ [event]) next := by
  have counts := happens.counts ledger.room
  have room := happens.hasRoom positive ledger.room
  constructor
  · exact room.2
  · rw [List.mem_append, List.mem_singleton, not_or]
    exact ⟨ledger.accepted, room.1.symm⟩
  · rw [filterMap_concat, filterMap_concat, List.append_assoc, happens.items,
      ← List.append_assoc, ledger.order, List.append_assoc]
  · rw [filterMap_concat, filterMap_concat, ledger.calls, List.append_assoc,
      happens.inHand ledger.room, List.append_assoc]
  · rw [countP_concat, counts.counter, ledger.counter, UInt32.ofNat_add, UInt32.add_assoc]
  · have counted := counts.counted
    have before := ledger.counted
    rw [countP_concat, countP_concat]
    omega
  · have lost := counts.lost
    have before := ledger.lost
    rw [countP_concat, filterMap_concat, List.length_append]
    omega
  · have once := counts.once
    have before := ledger.once
    rw [countP_concat, filterMap_concat, List.length_append]
    omega
  · have returns := counts.returns
    have before := ledger.returns
    rw [countP_concat, filterMap_concat, List.length_append]
    omega

theorem events_concat {start state : PutState α capacity} {actions : List (PutAction α ι)}
    (run : (machine α ι capacity).exec start actions = some state) {action : PutAction α ι}
    {event : PutEvent α ι} (seen : state.event action = some event) :
    start.events (actions ++ [action]) = start.events actions ++ [event] := by
  unfold events
  rw [Machine.trail_concat action run, List.filterMap_append]
  simp [seen]

/-- Every run from between two calls keeps the ledger. -/
theorem ledger_of_exec {start finish : PutState α capacity} {actions : List (PutAction α ι)}
    (positive : 0 < capacity) (idle : start.call = none)
    (run : (machine α ι capacity).exec start actions = some finish) :
    Ledger start (start.events actions) finish := by
  apply Machine.exec_induction
    (motive := fun actions state => Ledger start (start.events actions) state) _ _ run
  · exact Ledger.start idle
  · intro actions state action next reached ledger taken
    obtain ⟨event, seen, happens⟩ := step_happens taken
    rw [events_concat reached seen]
    exact ledger.step positive happens

/-- Calls and operations are seen as what they are. -/
theorem event_of_action {state : PutState α capacity} {action : PutAction α ι}
    {event : PutEvent α ι} (seen : state.event action = some event) :
    event.call? = action.call? ∧ event.isOperation = action.isOperation := by
  cases action with
  | call frame =>
      cases seen
      exact ⟨rfl, rfl⟩
  | take party =>
      cases got : state.msgq.get <;>
        · simp only [PutState.event, got, Option.some.injEq] at seen
          cases seen
          exact ⟨rfl, rfl⟩
  | operation =>
      obtain ⟨⟨frame, pc⟩, -, rfl⟩ := Option.map_eq_some_iff.mp seen
      cases pc with
      | put | putAgain =>
          cases stored : state.msgq.put frame <;> simp [PutPc.event, stored]
      | get =>
          cases got : state.msgq.get <;> simp [PutPc.event, got]
      | count | countAgain => exact ⟨rfl, rfl⟩

theorem events_of_exec {start finish : PutState α capacity} {actions : List (PutAction α ι)}
    (run : (machine α ι capacity).exec start actions = some finish) :
    (start.events actions).filterMap PutEvent.call? = actions.filterMap PutAction.call? ∧
      (start.events actions).countP PutEvent.isOperation =
        actions.countP PutAction.isOperation := by
  apply Machine.exec_induction
    (motive := fun actions _ =>
      (start.events actions).filterMap PutEvent.call? = actions.filterMap PutAction.call? ∧
        (start.events actions).countP PutEvent.isOperation =
          actions.countP PutAction.isOperation) _ _ run
  · exact ⟨rfl, rfl⟩
  · intro actions state action next reached same taken
    obtain ⟨event, seen, -⟩ := step_happens taken
    obtain ⟨call, operation⟩ := event_of_action seen
    rw [events_concat reached seen]
    constructor
    · rw [filterMap_concat, filterMap_concat, same.1, call]
    · rw [countP_concat, countP_concat, same.2, operation]

/-- What one call that has returned did to the queue and the counter. -/
structure CallEffect (start : PutState α capacity) (frame : α) (events : List (PutEvent α ι))
    (finish : PutState α capacity) : Prop where
  enqueuedOnce : events.filterMap PutEvent.enqueued? = [frame]
  accepted : .refusedAgain ∉ events
  order : events.filterMap PutEvent.removed? ++ finish.msgq.items = start.msgq.items ++ [frame]
  oneDiscarded : (events.filterMap PutEvent.discarded?).length ≤ 1
  oneRefused : events.countP PutEvent.isRefused ≤ 1
  counted : events.countP PutEvent.isCounted = events.countP PutEvent.isRefused
  counter : finish.dropCounter =
    start.dropCounter + UInt32.ofNat (events.countP PutEvent.isRefused)

/-- What became of the frames of any number of calls, at any moment.  A frame that has
been thrown away is counted by the next operation of the same call. -/
structure RunEffect (start : PutState α capacity) (actions : List (PutAction α ι))
    (finish : PutState α capacity) : Prop where
  sent : actions.filterMap PutAction.call? =
    (start.events actions).filterMap PutEvent.enqueued? ++ finish.inHand
  accepted : .refusedAgain ∉ start.events actions
  order : (start.events actions).filterMap PutEvent.removed? ++ finish.msgq.items =
    start.msgq.items ++ (start.events actions).filterMap PutEvent.enqueued?
  balance : start.msgq.items.length + (actions.filterMap PutAction.call?).length =
    finish.msgq.items.length + ((start.events actions).filterMap PutEvent.taken?).length +
      ((start.events actions).filterMap PutEvent.discarded?).length + finish.inHand.length
  lost : ((start.events actions).filterMap PutEvent.discarded?).length ≤
    (start.events actions).countP PutEvent.isCounted + finish.unsettled
  counter : finish.dropCounter =
    start.dropCounter + UInt32.ofNat ((start.events actions).countP PutEvent.isCounted)

/-- What `put_drop_oldest` guarantees, whatever other parties take between its operations. -/
structure Robust (α ι : Type) (capacity : Nat) : Prop where
  /-- A call makes four operations at most, and none of them waits. -/
  returns : ∀ (start finish : PutState α capacity) (frame : α)
    (between : List (PutAction α ι)), start.call = none → (∀ other, .call other ∉ between) →
    (machine α ι capacity).exec start (.call frame :: between) = some finish →
    finish.call = none ∨
      (between.countP PutAction.isOperation < 4 ∧
        ∃ next, finish.step (.operation : PutAction α ι) = some next)
  /-- A call enqueues its frame once and gives up one other frame at most, counted. -/
  oneCall : ∀ (start finish : PutState α capacity) (frame : α)
    (between : List (PutAction α ι)), start.call = none → (∀ other, .call other ∉ between) →
    (machine α ι capacity).exec start (.call frame :: between) = some finish →
    finish.call = none → CallEffect start frame (start.events (.call frame :: between)) finish
  /-- The frame that is enqueued becomes the newest. -/
  newest : ∀ (state next : PutState α capacity) (action : PutAction α ι) (frame : α),
    state.step action = some next → state.event action = some (.enqueued frame) →
    next.msgq.items = state.msgq.items ++ [frame]
  /-- Over any calls no frame is lost without being counted. -/
  runs : ∀ (start finish : PutState α capacity) (actions : List (PutAction α ι)),
    start.call = none → (machine α ι capacity).exec start actions = some finish →
    RunEffect start actions finish

theorem call_of_alone {frame : α} {between : List (PutAction α ι)}
    (alone : ∀ other, .call other ∉ between) :
    (PutAction.call frame :: between).filterMap PutAction.call? = [frame] := by
  have noOther : between.filterMap PutAction.call? = [] := by
    apply List.filterMap_eq_nil_iff.mpr
    intro action member
    cases action with
    | call other => exact absurd member (alone other)
    | operation | take => rfl
  simp [noOther]

theorem Ledger.callEffect {start finish : PutState α capacity} {events : List (PutEvent α ι)}
    (ledger : Ledger start events finish) {frame : α}
    (alone : events.filterMap PutEvent.call? = [frame]) (returned : finish.call = none) :
    CallEffect start frame events finish := by
  have settled : finish.unsettled = 0 := by simp [unsettled, returned]
  have counted : events.countP PutEvent.isRefused = events.countP PutEvent.isCounted := by
    rw [ledger.counted]
    simp [uncounted, returned]
  have once : events.countP PutEvent.isRefused ≤ 1 := by
    have once := ledger.once
    rw [alone] at once
    exact Nat.le_of_add_right_le once
  have enqueued : events.filterMap PutEvent.enqueued? = [frame] := by
    rw [← alone, ledger.calls]
    simp [inHand, returned]
  constructor
  · exact enqueued
  · exact ledger.accepted
  · rw [ledger.order, enqueued]
  · have lost := ledger.lost
    omega
  · exact once
  · exact counted.symm
  · rw [counted]
    exact ledger.counter

theorem Ledger.runEffect {start finish : PutState α capacity} {actions : List (PutAction α ι)}
    (ledger : Ledger start (start.events actions) finish)
    (calls : (start.events actions).filterMap PutEvent.call? =
      actions.filterMap PutAction.call?) : RunEffect start actions finish := by
  have sent := calls.symm.trans ledger.calls
  constructor
  · exact sent
  · exact ledger.accepted
  · exact ledger.order
  · have lengths := congrArg List.length ledger.order
    have removed := PutEvent.length_removed (start.events actions)
    have enqueued := congrArg List.length sent
    simp only [List.length_append] at lengths enqueued
    omega
  · exact ledger.lost
  · exact ledger.counter

/-- Consumers do not disturb the producer, whatever the queue can hold. -/
theorem putDropOldest_robust (positive : 0 < capacity) : Robust α ι capacity := by
  constructor
  · intro start finish frame between idle alone run
    cases call : finish.call with
    | none => exact .inl rfl
    | some busy =>
        right
        have ledger := ledger_of_exec positive idle run
        have seen := events_of_exec run
        have returns := ledger.returns
        have working : 0 < finish.remaining := by
          rcases busy with ⟨held, _ | _ | _ | _ | _⟩ <;> simp [remaining, call]
        rw [seen.1, seen.2, call_of_alone alone, List.countP_cons] at returns
        constructor
        · change _ + 0 + _ ≤ 4 at returns
          omega
        · exact ⟨_, by rw [step, call]⟩
  · intro start finish frame between idle alone run returned
    have calls := (events_of_exec run).1.trans (call_of_alone alone)
    exact (ledger_of_exec positive idle run).callEffect calls returned
  · intro state next action frame taken seen
    obtain ⟨event, same, happens⟩ := step_happens taken
    cases same.symm.trans seen
    cases happens with
    | enqueued attempt put => exact put
  · intro start finish actions idle run
    exact (ledger_of_exec positive idle run).runEffect (events_of_exec run).1

theorem putDropOldest_robust_two : Robust Nat Bool 2 := putDropOldest_robust (by decide)

/-- A full queue that is drained while the producer makes room in it. -/
example : (machine Nat Bool 2).exec ⟨⟨[1, 2], by decide⟩, 7, none⟩
    [.call 3, .operation, .take true, .operation, .take false, .operation, .operation] =
      some ⟨⟨[3], by decide⟩, 8, none⟩ := by
  decide

end PutState

end Events

end EspNmeaBridge
