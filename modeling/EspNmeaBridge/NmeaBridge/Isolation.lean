import EspNmeaBridge.Library.Unwinding
import EspNmeaBridge.NmeaBridge.SinkHistory
import EspNmeaBridge.NmeaBridge.Handles

/-!
# Sinks are isolated from each other

What the holder of one handle sees of the bridge is what it would see of a bridge
with no sink but its own (`PrivateBridge`): the calls on other handles are hidden
from it.  Nothing is assumed of the others but that they use no handle before its
first open, when it still holds whatever its memory held.
-/

namespace EspNmeaBridge

open Library

variable {config : Config} {Handle : Type}

/-- What the holder of a handle observes: not which slot it was given. -/
inductive SinkEvent (config : Config) where
  | dispatched (frame : NmeaFrame config)
  | opened (result : Except Errno Unit)
  | closed
  | took (result : Except Errno (NmeaFrame config))

/-- The calls that concern the holder of a handle. -/
inductive SinkCall where
  | publish (data : Option (List Byte))
  | dispatch
  | open (name : Option String)
  | close
  | take (frameGiven : Bool) (timeout : KTimeout)
  deriving DecidableEq, Repr

/-- A bridge whose only sink is the holder's own, while that is open. -/
structure PrivateBridge (config : Config) where
  ingestMsgq : BoundedQueue (NmeaFrame config) config.ingestQueueDepth := .empty
  sink : Option (SinkSlot config) := none
  observed : List (SinkEvent config) := []

namespace PrivateBridge

def observe (own : PrivateBridge config) (event : SinkEvent config) : PrivateBridge config :=
  { own with observed := own.observed ++ [event] }

/-- A take through an open handle, or through one that is not open. -/
def take (own : PrivateBridge config) (timeout : KTimeout) : Option (PrivateBridge config) :=
  match own.sink with
  | none => some (own.observe (.took (.error .enotconn)))
  | some slot =>
      match slot.msgq.get with
      | some (frame, msgq) =>
          let slot := { slot with msgq, stats.consumed := slot.stats.consumed + 1 }
          some ({ own with sink := some slot }.observe (.took (.ok frame)))
      | none =>
          match timeout with
          | .noWait => some (own.observe (.took (.error .enomsg)))
          | .wait => some (own.observe (.took (.error .eagain)))
          | .forever => none

def step (own : PrivateBridge config) : SinkCall → Option (PrivateBridge config)
  | .publish data =>
      let bridge : NmeaBridge config := { ingestMsgq := own.ingestMsgq }
      some { own with ingestMsgq := (bridge.publishFrame data).1.ingestMsgq }
  | .dispatch =>
      match own.ingestMsgq.get with
      | none => none
      | some (frame, ingestMsgq) =>
          let sink := own.sink.map fun slot => slot.receive frame
          some ({ own with ingestMsgq, sink }.observe (.dispatched frame))
  | .open name =>
      some ({ own with sink := some { active := true, name } }.observe (.opened (.ok ())))
  | .close => some ({ own with sink := none }.observe .closed)
  | .take false _ => some (own.observe (.took (.error .einval)))
  | .take true timeout => own.take timeout

def machine (config : Config) : Machine (PrivateBridge config) SinkCall where
  init own := own = {}
  step := step

end PrivateBridge

namespace BridgeRun

variable [DecidableEq Handle]

/-- The part of an event that the holder of `handle` observes. -/
def sinkEvent (handle : Handle) : BridgeEvent config Handle → Option (SinkEvent config)
  | .dispatched frame => some (.dispatched frame)
  | .opened other _ result => if other = handle then some (.opened result) else none
  | .closed other => if other = handle then some .closed else none
  | .took other _ result => if other = handle then some (.took result) else none

/-- The call as one that concerns the holder of `handle`. -/
def sinkCall (handle : Handle) : BridgeCall Handle → Option SinkCall
  | .publish data => some (.publish data)
  | .dispatch => some .dispatch
  | .sinkOpen (some other) name => if other = handle then some (.open name) else none
  | .sinkClose (some other) => if other = handle then some .close else none
  | .sinkTake (some other) frameGiven timeout =>
      if other = handle then some (.take frameGiven timeout) else none
  | .sinkOpen none _ | .sinkClose none | .sinkTake none _ _ => none

/-- The slot that `handle` holds while it is open. -/
def heldSlot (handle : Handle) (run : BridgeRun config Handle) : Option (SinkSlot config) :=
  (ownedSlot run.handles run.trace handle).map run.bridge.sinks

/-- The bridge as the holder of `handle` sees it. -/
def privateView (handle : Handle) (run : BridgeRun config Handle) : PrivateBridge config where
  ingestMsgq := run.bridge.ingestMsgq
  sink := run.heldSlot handle
  observed := run.trace.filterMap (sinkEvent handle)

/-- No handle is used before its first open, and `handle`, when it is opened, gets a
slot. -/
def OpensSucceed (handle : Handle) (run : BridgeRun config Handle) : BridgeCall Handle → Prop
  | .sinkOpen (some other) name =>
      other = handle → (run.bridge.sinkOpen (some (run.handles other)) name).2.2 = .ok ()
  | .sinkClose (some other) | .sinkTake (some other) _ _ =>
      handleStatus other run.trace ≠ .unused
  | _ => True

/-- The open handles name active slots, no two the same one, and an inert handle
names none.  Slots that no handle names may be active: a handle that is opened again
leaves its slot behind. -/
structure SlotsNamed (run : BridgeRun config Handle) : Prop where
  names : ∀ handle, handleStatus handle run.trace = .opened →
    ∃ i, (run.handles handle).id = i.val ∧ (run.bridge.sinks i).active = true
  unique : ∀ handle other i, ownedSlot run.handles run.trace handle = some i →
    ownedSlot run.handles run.trace other = some i → handle = other
  inertId : ∀ handle, handleStatus handle run.trace = .inert → (run.handles handle).id = -1

namespace SlotsNamed

variable {run next : BridgeRun config Handle} {handle other : Handle}
  {i : Fin config.nmeaSinksMax} {call : BridgeCall Handle}

theorem of_init (start : (machine config Handle).init run) : run.SlotsNamed := by
  obtain ⟨handles, rfl⟩ := start
  constructor
  · intro handle isOpen
    simp at isOpen
  · intro handle other i owned
    simp [ownedSlot] at owned
  · intro handle isInert
    simp at isInert

theorem active_of_owned (named : run.SlotsNamed)
    (owned : ownedSlot run.handles run.trace handle = some i) :
    (run.bridge.sinks i).active = true := by
  rw [ownedSlot_eq_some_iff] at owned
  obtain ⟨j, isId, active⟩ := named.names handle owned.1
  have same : i = j := by
    apply Fin.ext
    have := owned.2.symm.trans isId
    omega
  rw [same]
  exact active

/-- A slot that no open handle names. -/
theorem not_owned (named : run.SlotsNamed) (inactive : (run.bridge.sinks i).active = false)
    (handle : Handle) : ownedSlot run.handles run.trace handle ≠ some i := by
  intro owned
  have := named.active_of_owned owned
  rw [inactive] at this
  contradiction

/-- A handle that was opened before names a slot exactly while it is open. -/
theorem ownedSlot_eq (named : run.SlotsNamed) (used : handleStatus handle run.trace ≠ .unused) :
    ownedSlot run.handles run.trace handle = NmeaBridge.slotOf (run.handles handle).id := by
  cases status : handleStatus handle run.trace with
  | unused => exact absurd status used
  | opened => rw [ownedSlot, if_pos status]
  | inert =>
      rw [ownedSlot_eq_none (by simp [status]), named.inertId handle status]
      simp [NmeaBridge.slotOf]

/-- A step that concerns one handle: the others keep their slots, and it names an
active slot of its own or none. -/
theorem of_others (named : run.SlotsNamed)
    (status : ∀ other, other ≠ handle →
      handleStatus other next.trace = handleStatus other run.trace)
    (handles : ∀ other, other ≠ handle → next.handles other = run.handles other)
    (active : ∀ other j, other ≠ handle → ownedSlot run.handles run.trace other = some j →
      (next.bridge.sinks j).active = true)
    (opened : handleStatus handle next.trace = .opened →
      ∃ j, (next.handles handle).id = j.val ∧ (next.bridge.sinks j).active = true ∧
        ∀ other, other ≠ handle → ownedSlot run.handles run.trace other ≠ some j)
    (inert : handleStatus handle next.trace = .inert → (next.handles handle).id = -1) :
    next.SlotsNamed := by
  have owns : ∀ other, other ≠ handle → ownedSlot next.handles next.trace other =
      ownedSlot run.handles run.trace other :=
    fun other different => ownedSlot_congr (status other different) (handles other different)
  -- what the handle itself owns afterwards, no other handle owned before
  have apart : ∀ other j, other ≠ handle → ownedSlot next.handles next.trace handle = some j →
      ownedSlot run.handles run.trace other ≠ some j := by
    intro other j different owned
    rw [ownedSlot_eq_some_iff] at owned
    obtain ⟨k, isId, _, free⟩ := opened owned.1
    have same : j = k := by
      apply Fin.ext
      have := owned.2.symm.trans isId
      omega
    rw [same]
    exact free other different
  constructor
  · intro other isOpen
    by_cases same : other = handle
    · subst same
      obtain ⟨j, isId, isActive, _⟩ := opened isOpen
      exact ⟨j, isId, isActive⟩
    · rw [status other same] at isOpen
      obtain ⟨j, isId, _⟩ := named.names other isOpen
      rw [handles other same]
      exact ⟨j, isId, active other j same (ownedSlot_eq_some_iff.mpr ⟨isOpen, isId⟩)⟩
  · intro first second j firstOwns secondOwns
    by_cases isFirst : first = handle
    · by_cases isSecond : second = handle
      · rw [isFirst, isSecond]
      · rw [isFirst] at firstOwns
        rw [owns second isSecond] at secondOwns
        exact absurd secondOwns (apart second j isSecond firstOwns)
    · rw [owns first isFirst] at firstOwns
      by_cases isSecond : second = handle
      · rw [isSecond] at secondOwns
        exact absurd firstOwns (apart first j isFirst secondOwns)
      · rw [owns second isSecond] at secondOwns
        exact named.unique first second j firstOwns secondOwns
  · intro other isInert
    by_cases same : other = handle
    · subst same
      exact inert isInert
    · rw [handles other same]
      exact named.inertId other (status other same ▸ isInert)

/-- A step after which every handle has its status and its slot. -/
theorem congr (named : run.SlotsNamed)
    (status : ∀ handle, handleStatus handle next.trace = handleStatus handle run.trace)
    (handles : next.handles = run.handles)
    (active : ∀ i, (next.bridge.sinks i).active = (run.bridge.sinks i).active) :
    next.SlotsNamed := by
  have owns : ∀ handle, ownedSlot next.handles next.trace handle =
      ownedSlot run.handles run.trace handle :=
    fun handle => ownedSlot_congr (status handle) (by rw [handles])
  constructor
  · intro handle isOpen
    rw [status] at isOpen
    simpa only [handles, active] using named.names handle isOpen
  · intro first second j
    simpa only [owns] using named.unique first second j
  · intro handle isInert
    rw [status] at isInert
    simpa only [handles] using named.inertId handle isInert

/-- Every call keeps it, as long as no handle is used before its first open. -/
theorem step (named : run.SlotsNamed) (meets : OpensSucceed handle run call)
    (taken : run.step call = some next) : next.SlotsNamed := by
  cases call with
  | publish data =>
      obtain rfl := Option.some.inj taken
      exact named.congr (by simp) rfl (by simp)
  | dispatch =>
      obtain ⟨frame, ingestMsgq, _, rfl⟩ := step_dispatch taken
      exact named.congr (by simp [HandleStatus.record]) rfl (by simp)
  | sinkOpen opener name =>
      cases opener with
      | none =>
          obtain rfl := Option.some.inj taken
          exact named
      | some opener =>
          have others : ∀ id result other, other ≠ opener →
              handleStatus other (run.trace ++ [BridgeEvent.opened opener id result]) =
                handleStatus other run.trace := by
            intro id result other different
            rcases result with errno | ⟨⟨⟩⟩ <;> simp [HandleStatus.record, Ne.symm different]
          rcases step_sinkOpen taken with ⟨i, free, rfl⟩ | ⟨_, rfl⟩
          · have inactive := NmeaBridge.active_of_freeSlot free
            apply named.of_others (others _ _) (fun other different =>
              Function.update_of_ne different _ _)
            · intro other j _ owned
              have old : j ≠ i := by
                rintro rfl
                exact named.not_owned inactive other owned
              simpa [old] using named.active_of_owned owned
            · intro _
              exact ⟨i, by simp, by simp, fun other _ => named.not_owned inactive other⟩
            · intro isInert
              simp [HandleStatus.record] at isInert
          · apply named.of_others (others _ _) (fun other different =>
              Function.update_of_ne different _ _)
            · intro other j _ owned
              exact named.active_of_owned owned
            · intro isOpen
              simp [HandleStatus.record] at isOpen
            · intro _
              simp
  | sinkClose closer =>
      cases closer with
      | none =>
          obtain rfl := Option.some.inj taken
          exact named
      | some closer =>
          have others : ∀ other, other ≠ closer →
              handleStatus other (run.trace ++ [BridgeEvent.closed closer]) =
                handleStatus other run.trace := by
            intro other different
            simp [HandleStatus.record, Ne.symm different]
          have owns := named.ownedSlot_eq meets
          rcases step_sinkClose taken with ⟨i, found, rfl⟩ | ⟨missing, rfl⟩
          · apply named.of_others others (fun other different =>
              Function.update_of_ne different _ _)
            · intro other j different owned
              have old : j ≠ i := by
                rintro rfl
                exact different (named.unique other closer j owned (owns.trans found))
              simpa [old] using named.active_of_owned owned
            · intro isOpen
              simp [HandleStatus.record] at isOpen
            · intro _
              simp
          · refine named.of_others others (fun _ _ => rfl) ?_ ?_ ?_
            · intro other j _ owned
              exact named.active_of_owned owned
            · intro isOpen
              simp [HandleStatus.record] at isOpen
            · intro _
              cases status : handleStatus closer run.trace with
              | unused => exact absurd status meets
              | inert => exact named.inertId closer status
              | opened =>
                  obtain ⟨j, isId, _⟩ := named.names closer status
                  rw [isId, NmeaBridge.slotOf_val] at missing
                  contradiction
  | sinkTake taker frameGiven timeout =>
      cases taker with
      | none =>
          obtain rfl := Option.some.inj taken
          exact named
      | some taker =>
          rcases step_sinkTake taken with ⟨i, frame, msgq, rfl, _, _, rfl⟩ | ⟨errno, _, rfl⟩
          · refine named.congr (by simp [HandleStatus.record]) rfl fun j => ?_
            by_cases same : j = i
            · subst same
              simp
            · simp [same]
          · exact named.congr (by simp [HandleStatus.record]) rfl (fun _ => rfl)

end SlotsNamed

section View

variable {run next : BridgeRun config Handle} {handle : Handle} {call : BridgeCall Handle}

/-- A step that the holder of `handle` sees nothing of. -/
theorem privateView_eq_of_hidden {event : BridgeEvent config Handle}
    (ingestMsgq : next.bridge.ingestMsgq = run.bridge.ingestMsgq)
    (trace : next.trace = run.trace ++ [event]) (hidden : sinkEvent handle event = none)
    (owns : ownedSlot next.handles next.trace handle =
      ownedSlot run.handles run.trace handle)
    (slot : ∀ i, ownedSlot run.handles run.trace handle = some i →
      next.bridge.sinks i = run.bridge.sinks i) :
    next.privateView handle = run.privateView handle := by
  have held : next.heldSlot handle = run.heldSlot handle := by
    simp only [heldSlot, owns]
    cases owned : ownedSlot run.handles run.trace handle with
    | none => rfl
    | some i => simp [slot i owned]
  simp [privateView, ingestMsgq, held, trace, List.filterMap_append, hidden]

/-- A call that does not concern the holder of `handle`. -/
theorem privateView_hidden (named : run.SlotsNamed) (meets : OpensSucceed handle run call)
    (hidden : sinkCall handle call = none) (taken : run.step call = some next) :
    next.privateView handle = run.privateView handle := by
  cases call with
  | publish data => simp [sinkCall] at hidden
  | dispatch => simp [sinkCall] at hidden
  | sinkOpen opener name =>
      cases opener with
      | none =>
          obtain rfl := Option.some.inj taken
          rfl
      | some opener =>
          have different : opener ≠ handle := by
            rintro rfl
            simp [sinkCall] at hidden
          rcases step_sinkOpen taken with ⟨i, free, rfl⟩ | ⟨_, rfl⟩
          · refine privateView_eq_of_hidden rfl rfl (by simp [sinkEvent, different]) ?_ ?_
            · exact ownedSlot_congr (by simp [HandleStatus.record, different])
                (Function.update_of_ne different.symm _ _)
            · intro j owned
              have old : j ≠ i := by
                rintro rfl
                exact named.not_owned (NmeaBridge.active_of_freeSlot free) handle owned
              simp [old]
          · refine privateView_eq_of_hidden rfl rfl (by simp [sinkEvent, different]) ?_ ?_
            · exact ownedSlot_congr (by simp [HandleStatus.record, different])
                (Function.update_of_ne different.symm _ _)
            · exact fun _ _ => rfl
  | sinkClose closer =>
      cases closer with
      | none =>
          obtain rfl := Option.some.inj taken
          rfl
      | some closer =>
          have different : closer ≠ handle := by
            rintro rfl
            simp [sinkCall] at hidden
          rcases step_sinkClose taken with ⟨i, found, rfl⟩ | ⟨_, rfl⟩
          · refine privateView_eq_of_hidden rfl rfl (by simp [sinkEvent, different]) ?_ ?_
            · exact ownedSlot_congr (by simp [HandleStatus.record, different])
                (Function.update_of_ne different.symm _ _)
            · intro j owned
              have old : j ≠ i := by
                rintro rfl
                have closes := (named.ownedSlot_eq meets).trans found
                exact different (named.unique closer handle j closes owned)
              simp [old]
          · exact privateView_eq_of_hidden rfl rfl (by simp [sinkEvent, different])
              (ownedSlot_congr (by simp [HandleStatus.record, different]) rfl) fun _ _ => rfl
  | sinkTake taker frameGiven timeout =>
      cases taker with
      | none =>
          obtain rfl := Option.some.inj taken
          rfl
      | some taker =>
          have different : taker ≠ handle := by
            rintro rfl
            simp [sinkCall] at hidden
          rcases step_sinkTake taken with ⟨i, frame, msgq, _, checked, _, rfl⟩ | ⟨errno, _, rfl⟩
          · refine privateView_eq_of_hidden rfl rfl (by simp [sinkEvent, different]) ?_ ?_
            · exact ownedSlot_congr (by simp [HandleStatus.record]) rfl
            · intro j owned
              have old : j ≠ i := by
                rintro rfl
                have named' := (NmeaBridge.takeCheck_eq_ok_iff.mp checked).1
                have takes := (named.ownedSlot_eq meets).trans
                  (NmeaBridge.slotOf_eq_some_iff.mpr named')
                exact different (named.unique taker handle j takes owned)
              simp [old]
          · exact privateView_eq_of_hidden rfl rfl (by simp [sinkEvent, different])
              (ownedSlot_congr (by simp [HandleStatus.record]) rfl) fun _ _ => rfl

/-- The view after a step that the holder of `handle` observes. -/
theorem privateView_concat {event : BridgeEvent config Handle} {observed : SinkEvent config}
    (shown : sinkEvent handle event = some observed) (bridge : NmeaBridge config)
    (handles : Handle → NmeaBridgeSink) (trace : List (BridgeEvent config Handle)) :
    privateView handle { bridge, handles, trace := trace ++ [event] } =
      { ingestMsgq := bridge.ingestMsgq
        sink := (ownedSlot handles (trace ++ [event]) handle).map bridge.sinks
        observed := trace.filterMap (sinkEvent handle) ++ [observed] } := by
  simp [privateView, heldSlot, List.filterMap_append, shown]

/-- A take by the holder of `handle` is a take from its own slot. -/
theorem privateView_take (named : run.SlotsNamed)
    (used : handleStatus handle run.trace ≠ .unused) (frameGiven : Bool) (timeout : KTimeout) :
    (run.step (.sinkTake (some handle) frameGiven timeout)).map (privateView handle) =
      (run.privateView handle).step (.take frameGiven timeout) := by
  have owns := named.ownedSlot_eq used
  have keeps : ∀ id result, ownedSlot run.handles
      (run.trace ++ [BridgeEvent.took handle id result]) handle =
        ownedSlot run.handles run.trace handle :=
    fun id result => ownedSlot_congr (by simp [HandleStatus.record]) rfl
  have shown : ∀ id (result : Except Errno (NmeaFrame config)),
      sinkEvent handle (BridgeEvent.took handle id result) = some (.took result) := by
    simp [sinkEvent]
  cases frameGiven with
  | false =>
      simp only [step, NmeaBridge.sinkTake, Option.map_some, privateView_concat (shown _ _), keeps]
      rfl
  | true =>
      cases owned : ownedSlot run.handles run.trace handle with
      | none =>
          have inert : (run.handles handle).id = -1 := by
            cases status : handleStatus handle run.trace with
            | unused => exact absurd status used
            | inert => exact named.inertId handle status
            | opened =>
                obtain ⟨i, isId, _⟩ := named.names handle status
                rw [ownedSlot_eq_some_iff.mpr ⟨status, isId⟩] at owned
                contradiction
          have fails : run.bridge.takeCheck (run.handles handle) = .error .enotconn := by
            simp [NmeaBridge.takeCheck, inert]
          have held : (run.privateView handle).sink = none := by
            simp [privateView, heldSlot, owned]
          simp only [step, NmeaBridge.sinkTake, fails, Option.map_some,
            privateView_concat (shown _ _), keeps, PrivateBridge.step, PrivateBridge.take, held]
          simp [PrivateBridge.observe, privateView, heldSlot, owned]
      | some i =>
          have checked : run.bridge.takeCheck (run.handles handle) = .ok i :=
            NmeaBridge.takeCheck_eq_ok_iff.mpr
              ⟨(ownedSlot_eq_some_iff.mp owned).2, named.active_of_owned owned⟩
          have held : (run.privateView handle).sink = some (run.bridge.sinks i) := by
            simp [privateView, heldSlot, owned]
          simp only [step, NmeaBridge.sinkTake, checked, NmeaBridge.takeGet, PrivateBridge.step,
            PrivateBridge.take, held]
          cases got : (run.bridge.sinks i).msgq.get with
          | some outcome =>
              rcases outcome with ⟨frame, msgq⟩
              simp only [Option.map_some, privateView_concat (shown _ _), keeps, owned]
              simp [PrivateBridge.observe, privateView, NmeaBridge.takeCount]
          | none =>
              cases timeout with
              | noWait | wait =>
                  simp only [Option.map_some, privateView_concat (shown _ _), keeps, owned]
                  simp [PrivateBridge.observe, privateView, heldSlot, owned]
              | forever => rfl

/-- A call of the holder of `handle` acts on its view as on a bridge of its own. -/
theorem privateView_shown (named : run.SlotsNamed) (meets : OpensSucceed handle run call)
    {own : SinkCall} (shown : sinkCall handle call = some own) :
    (run.step call).map (privateView handle) = (run.privateView handle).step own := by
  cases call with
  | publish data =>
      obtain rfl := Option.some.inj shown
      have queues : (run.bridge.publishFrame data).1.ingestMsgq =
          (NmeaBridge.publishFrame { ingestMsgq := run.bridge.ingestMsgq } data).1.ingestMsgq := by
        apply NmeaBridge.publishFrame_ingestMsgq
        rfl
      have held : heldSlot handle { run with bridge := (run.bridge.publishFrame data).1 } =
          run.heldSlot handle := by simp [heldSlot]
      simp [step, privateView, PrivateBridge.step, queues, held]
  | dispatch =>
      obtain rfl := Option.some.inj shown
      simp only [step, NmeaBridge.dispatcherThread, PrivateBridge.step]
      have sees : (run.privateView handle).ingestMsgq = run.bridge.ingestMsgq := rfl
      rw [sees]
      cases got : run.bridge.ingestMsgq.get with
      | none => rfl
      | some outcome =>
          rcases outcome with ⟨frame, ingestMsgq⟩
          have shows : sinkEvent handle (BridgeEvent.dispatched frame) =
            some (SinkEvent.dispatched frame) := rfl
          have keeps : ownedSlot run.handles
              (run.trace ++ [BridgeEvent.dispatched frame]) handle =
                ownedSlot run.handles run.trace handle :=
            ownedSlot_congr (by simp [HandleStatus.record]) rfl
          simp only [Option.map_some, privateView_concat shows, keeps]
          cases owned : ownedSlot run.handles run.trace handle <;>
            simp [PrivateBridge.observe, privateView, heldSlot, owned]
  | sinkOpen opener name =>
      cases opener with
      | none => simp [sinkCall] at shown
      | some opener =>
          by_cases same : opener = handle
          · subst same
            simp only [sinkCall, if_true, Option.some.injEq] at shown
            subst shown
            cases taken : run.step (.sinkOpen (some opener) name) with
            | none => simp [step] at taken
            | some next =>
                rcases step_sinkOpen taken with ⟨i, free, rfl⟩ | ⟨full, rfl⟩
                · have shows : sinkEvent opener
                      (.opened opener i.val (.ok ()) : BridgeEvent config Handle) =
                        some (.opened (.ok ())) := by simp [sinkEvent]
                  have owns : ownedSlot (Function.update run.handles opener ⟨i.val⟩)
                      (run.trace ++ [BridgeEvent.opened opener i.val (.ok ())]) opener =
                        some i := by
                    simp [ownedSlot_eq_some_iff, HandleStatus.record]
                  simp only [Option.map_some, privateView_concat shows, owns]
                  simp [PrivateBridge.step, PrivateBridge.observe, privateView]
                · have fails := meets rfl
                  simp [NmeaBridge.sinkOpen, full] at fails
          · simp [sinkCall, same] at shown
  | sinkClose closer =>
      cases closer with
      | none => simp [sinkCall] at shown
      | some closer =>
          by_cases same : closer = handle
          · subst same
            simp only [sinkCall, if_true, Option.some.injEq] at shown
            subst shown
            cases taken : run.step (.sinkClose (some closer)) with
            | none => simp [step] at taken
            | some next =>
                have shows : sinkEvent closer (.closed closer : BridgeEvent config Handle) =
                  some .closed := by simp [sinkEvent]
                have owns : ∀ handles, ownedSlot handles
                    (run.trace ++ [BridgeEvent.closed closer]) closer = none :=
                  fun handles => ownedSlot_eq_none (by simp [HandleStatus.record])
                rcases step_sinkClose taken with ⟨i, found, rfl⟩ | ⟨missing, rfl⟩ <;>
                  simp only [Option.map_some, privateView_concat shows, owns] <;>
                  simp [PrivateBridge.step, PrivateBridge.observe, privateView]
          · simp [sinkCall, same] at shown
  | sinkTake taker frameGiven timeout =>
      cases taker with
      | none => simp [sinkCall] at shown
      | some taker =>
          by_cases same : taker = handle
          · subst same
            simp only [sinkCall, if_true, Option.some.injEq] at shown
            subst shown
            exact privateView_take named meets frameGiven timeout
          · simp [sinkCall, same] at shown

end View

/-- The bridge, seen through one handle, is a bridge of its holder's own. -/
theorem unwinds (handle : Handle) :
    Unwinds (machine config Handle) (PrivateBridge.machine config) (privateView handle)
      (sinkCall handle) SlotsNamed (OpensSucceed handle) where
  preserved named meets taken := named.step meets taken
  hidden named meets isHidden taken := privateView_hidden named meets isHidden taken
  shown named meets isShown := privateView_shown named meets isShown

/-- After two runs, the holder of `handle` has observed the same, reads the same
statistics, finds the same frames queued, and a call of its own or a dispatch blocks in
both or in none. -/
structure SameForHolder (handle : Handle) (run run' : BridgeRun config Handle) : Prop where
  observed : run.trace.filterMap (sinkEvent handle) = run'.trace.filterMap (sinkEvent handle)
  queue : run.heldSlot handle = run'.heldSlot handle
  stats : handleStatus handle run.trace ≠ .unused → handleStatus handle run'.trace ≠ .unused →
    ∀ stats, run.bridge.getSinkStats (some (run.handles handle)) stats =
      run'.bridge.getSinkStats (some (run'.handles handle)) stats
  blocks : ∀ call, sinkCall handle call ≠ none → OpensSucceed handle run call →
    OpensSucceed handle run' call → (run.step call).isSome = (run'.step call).isSome

/-- The statistics a handle's holder reads are those of the slot it holds. -/
theorem SlotsNamed.getSinkStats {run : BridgeRun config Handle} {handle : Handle}
    (named : run.SlotsNamed) (used : handleStatus handle run.trace ≠ .unused)
    (stats : Option NmeaSinkStats) :
    run.bridge.getSinkStats (some (run.handles handle)) stats =
      stats.map fun stats => ((run.heldSlot handle).map SinkSlot.stats).getD stats := by
  cases stats with
  | none => rfl
  | some stats =>
      have owns := named.ownedSlot_eq used
      cases owned : ownedSlot run.handles run.trace handle with
      | none => simp [NmeaBridge.getSinkStats, heldSlot, owned, ← owns]
      | some i => simp [NmeaBridge.getSinkStats, heldSlot, owned, ← owns]

/-- Whatever is done with the other handles, two runs with the same publishes, the same
dispatches and the same calls on `handle` are the same for its holder.  The runs may end
anywhere, so this holds at every point of them. -/
theorem sinksIsolated {handle : Handle} {start start' run run' : BridgeRun config Handle}
    {calls calls' : List (BridgeCall Handle)}
    (initial : (machine config Handle).init start)
    (initial' : (machine config Handle).init start')
    (succeed : (machine config Handle).Along (OpensSucceed handle) start calls)
    (succeed' : (machine config Handle).Along (OpensSucceed handle) start' calls')
    (reached : (machine config Handle).exec start calls = some run)
    (reached' : (machine config Handle).exec start' calls' = some run')
    (sameCalls : calls.filterMap (sinkCall handle) = calls'.filterMap (sinkCall handle)) :
    SameForHolder handle run run' := by
  have begins : start.privateView handle = start'.privateView handle := by
    obtain ⟨handles, rfl⟩ := initial
    obtain ⟨handles', rfl⟩ := initial'
    simp [privateView, heldSlot, ownedSlot]
  have named := ((unwinds handle).exec (.of_init initial) succeed reached).1
  have named' := ((unwinds handle).exec (.of_init initial') succeed' reached').1
  have sees : run.privateView handle = run'.privateView handle :=
    (unwinds handle).sameView (.of_init initial) succeed reached (.of_init initial') succeed'
      reached' begins sameCalls
  have queue : run.heldSlot handle = run'.heldSlot handle := congrArg PrivateBridge.sink sees
  constructor
  · exact congrArg PrivateBridge.observed sees
  · exact queue
  · intro used used' stats
    rw [named.getSinkStats used, named'.getSinkStats used', queue]
  · intro call concerns meets meets'
    obtain ⟨own, isInput⟩ := Option.ne_none_iff_exists'.mp concerns
    exact (unwinds handle).sameEnabled named named' meets meets' isInput sees

instance decidableOpensSucceed (handle : Handle) (run : BridgeRun config Handle) :
    (call : BridgeCall Handle) → Decidable (run.OpensSucceed handle call)
  | .sinkOpen (some other) name =>
      inferInstanceAs (Decidable (other = handle →
        (run.bridge.sinkOpen (some (run.handles other)) name).2.2 = .ok ()))
  | .sinkClose (some other) | .sinkTake (some other) _ _ =>
      inferInstanceAs (Decidable (handleStatus other run.trace ≠ .unused))
  | .publish _ | .dispatch | .sinkOpen none _ | .sinkClose none | .sinkTake none _ _ =>
      inferInstanceAs (Decidable True)

/-- One holder alone. -/
def alone : List (BridgeCall Bool) :=
  [.sinkOpen (some true) none, .publish (some [10]), .dispatch, .sinkTake (some true) true .noWait,
    .publish (some [65, 10]), .dispatch, .publish (some [66, 10]), .dispatch,
    .sinkTake (some true) true .noWait]

/-- The same beside a holder that came first and never takes a frame. -/
def besideStalled : List (BridgeCall Bool) :=
  [.sinkOpen (some false) none, .sinkOpen (some true) none, .publish (some [10]), .dispatch,
    .sinkTake (some true) true .noWait, .publish (some [65, 10]), .dispatch,
    .publish (some [66, 10]), .dispatch, .sinkClose (some false),
    .sinkTake (some true) true .noWait]

theorem sinksIsolated_stalled :
    ∃ run run', (machine narrow Bool).exec { handles := fun _ => ⟨0⟩ } alone = some run ∧
      (machine narrow Bool).exec { handles := fun _ => ⟨0⟩ } besideStalled = some run' ∧
      (run.handles true).id = 0 ∧ (run'.handles true).id = 1 ∧
      SameForHolder true run run' := by
  refine ⟨_, _, rfl, rfl, rfl, rfl, ?_⟩
  have succeed : (machine narrow Bool).Along (OpensSucceed true)
      { handles := fun _ => ⟨0⟩ } alone := by decide
  have succeed' : (machine narrow Bool).Along (OpensSucceed true)
      { handles := fun _ => ⟨0⟩ } besideStalled := by decide
  exact sinksIsolated ⟨_, rfl⟩ ⟨_, rfl⟩ succeed succeed' rfl rfl rfl

end BridgeRun

end EspNmeaBridge
