import EspNmeaBridge.Library.Ownership
import EspNmeaBridge.NmeaBridge.Calls

/-!
# Sink handles

Who holds which slot is recorded only in the callers' handles.  Callers are
disciplined: a handle is opened only while it is not open, and nothing else is
done with a handle before its first open.  `HandlesAgree` is the invariant: the open
handles own the active slots exclusively.
-/

namespace EspNmeaBridge

open Library

variable {config : Config} {Handle : Type} [DecidableEq Handle]

/-- What a caller knows about one of its handles: never opened, open, or inert
because its open failed or it was closed. -/
inductive HandleStatus where
  | unused
  | opened
  | inert
  deriving DecidableEq, Repr

/-- The status of a handle after one more event. -/
def HandleStatus.record (handle : Handle) (status : HandleStatus) :
    BridgeEvent config Handle → HandleStatus
  | .opened other _ (.ok ()) => if other = handle then .opened else status
  | .opened other _ (.error _) => if other = handle then .inert else status
  | .closed other => if other = handle then .inert else status
  | .dispatched _ | .took _ _ _ => status

def handleStatus (handle : Handle) (trace : List (BridgeEvent config Handle)) : HandleStatus :=
  trace.foldl (HandleStatus.record handle) .unused

@[simp] theorem handleStatus_nil (handle : Handle) :
    handleStatus handle ([] : List (BridgeEvent config Handle)) = .unused := rfl

@[simp] theorem handleStatus_concat (handle : Handle)
    (trace : List (BridgeEvent config Handle)) (event : BridgeEvent config Handle) :
    handleStatus handle (trace ++ [event]) = (handleStatus handle trace).record handle event := by
  simp [handleStatus]

/-- Frames dispatched since a handle was last opened, and frames taken through it
since then. -/
structure HandleLog (config : Config) where
  dispatched : List (NmeaFrame config) := []
  taken : List (NmeaFrame config) := []
  deriving DecidableEq, Repr

def HandleLog.record (handle : Handle) (log : HandleLog config) :
    BridgeEvent config Handle → HandleLog config
  | .dispatched frame => { log with dispatched := log.dispatched ++ [frame] }
  | .opened other _ (.ok ()) => if other = handle then {} else log
  | .took other _ (.ok frame) =>
      if other = handle then { log with taken := log.taken ++ [frame] } else log
  | _ => log

def handleLog (handle : Handle) (trace : List (BridgeEvent config Handle)) : HandleLog config :=
  trace.foldl (HandleLog.record handle) {}

@[simp] theorem handleLog_concat (handle : Handle)
    (trace : List (BridgeEvent config Handle)) (event : BridgeEvent config Handle) :
    handleLog handle (trace ++ [event]) = (handleLog handle trace).record handle event := by
  simp [handleLog]

namespace BridgeRun

/-- How callers use their handles. -/
def Disciplined (run : BridgeRun config Handle) : BridgeCall Handle → Prop
  | .sinkOpen (some handle) _ => handleStatus handle run.trace ≠ .opened
  | .sinkClose (some handle) | .sinkTake (some handle) _ _ =>
      handleStatus handle run.trace ≠ .unused
  | _ => True

/-- The slot a handle owns: the one it names while it is open. -/
def ownedSlot (handles : Handle → NmeaBridgeSink) (trace : List (BridgeEvent config Handle))
    (handle : Handle) : Option (Fin config.nmeaSinksMax) :=
  if handleStatus handle trace = .opened then NmeaBridge.slotOf (handles handle).id else none

/-- Handles and slots agree: the active slots are exclusively owned by the open
handles, an inert handle names no slot, and what was taken through a handle and what
is still queued for it was dispatched since its open. -/
structure HandlesAgree (sinks : Fin config.nmeaSinksMax → SinkSlot config)
    (handles : Handle → NmeaBridgeSink) (trace : List (BridgeEvent config Handle)) : Prop where
  exclusive : Exclusive (fun i => (sinks i).active = true) (ownedSlot handles trace)
  openOwns : ∀ handle, handleStatus handle trace = .opened →
    ∃ i, ownedSlot handles trace handle = some i
  inertId : ∀ handle, handleStatus handle trace = .inert → (handles handle).id = -1
  kept : ∀ handle i, ownedSlot handles trace handle = some i →
    ((handleLog handle trace).taken ++ (sinks i).msgq.items).Sublist
      (handleLog handle trace).dispatched

section OwnedSlot

variable {handles handles' : Handle → NmeaBridgeSink}
  {trace trace' : List (BridgeEvent config Handle)} {handle : Handle}

theorem ownedSlot_eq_some_iff {i : Fin config.nmeaSinksMax} :
    ownedSlot handles trace handle = some i ↔
      handleStatus handle trace = .opened ∧ (handles handle).id = i.val := by
  unfold ownedSlot
  split
  · rename_i isOpen
    simp [NmeaBridge.slotOf_eq_some_iff, isOpen]
  · rename_i notOpen
    simp [notOpen]

theorem ownedSlot_eq_none (notOpen : handleStatus handle trace ≠ .opened) :
    ownedSlot handles trace handle = none := if_neg notOpen

theorem ownedSlot_congr (status : handleStatus handle trace' = handleStatus handle trace)
    (same : handles' handle = handles handle) :
    ownedSlot handles' trace' handle = ownedSlot handles trace handle := by
  rw [ownedSlot, ownedSlot, status, same]

end OwnedSlot

namespace HandlesAgree

variable {sinks : Fin config.nmeaSinksMax → SinkSlot config} {handles : Handle → NmeaBridgeSink}
  {trace : List (BridgeEvent config Handle)} {handle : Handle} {i : Fin config.nmeaSinksMax}

theorem initial (handles : Handle → NmeaBridgeSink) :
    HandlesAgree (fun _ => ({} : SinkSlot config)) handles [] where
  exclusive := .start (by simp) fun handle => ownedSlot_eq_none (by simp)
  openOwns := by simp
  inertId := by simp
  kept handle i owns := by simp [ownedSlot] at owns

theorem dispatch (agree : HandlesAgree sinks handles trace) (frame : NmeaFrame config) :
    HandlesAgree (fun i => (sinks i).receive frame) handles (trace ++ [.dispatched frame]) := by
  have status : ∀ handle, handleStatus handle (trace ++ [BridgeEvent.dispatched frame]) =
      handleStatus handle trace := by simp [HandleStatus.record]
  have owns : ∀ handle, ownedSlot handles (trace ++ [.dispatched frame]) handle =
      ownedSlot handles trace handle := fun handle => ownedSlot_congr (status handle) rfl
  refine ⟨agree.exclusive.congr (by simp) owns, ?_, ?_, fun handle i owned => ?_⟩
  · simpa only [status, owns] using agree.openOwns
  · simpa only [status] using agree.inertId
  · rw [owns] at owned
    simp only [handleLog_concat, HandleLog.record]
    have received : ((sinks i).receive frame).msgq.items.Sublist
        ((sinks i).msgq.items ++ [frame]) := SinkSlot.receive_sublist frame
    have arrived := received.append_left (handleLog handle trace).taken
    rw [← List.append_assoc] at arrived
    exact arrived.trans ((agree.kept handle i owned).append_right [frame])

/-- A handle that is not open takes a slot that is not active. -/
theorem open_ok (agree : HandlesAgree sinks handles trace)
    (notOpen : handleStatus handle trace ≠ .opened) (inactive : (sinks i).active = false)
    (name : Option String) :
    HandlesAgree (Function.update sinks i { active := true, name })
      (Function.update handles handle ⟨i.val⟩) (trace ++ [.opened handle i.val (.ok ())]) := by
  have status : ∀ other, other ≠ handle →
      handleStatus other (trace ++ [BridgeEvent.opened handle i.val (.ok ())]) =
        handleStatus other trace := by
    intro other same
    simp [HandleStatus.record, Ne.symm same]
  have owns : ownedSlot (Function.update handles handle ⟨i.val⟩)
      (trace ++ [.opened handle i.val (.ok ())]) handle = some i := by
    simp [ownedSlot_eq_some_iff, HandleStatus.record]
  have others : ∀ other, other ≠ handle → ownedSlot (Function.update handles handle ⟨i.val⟩)
      (trace ++ [.opened handle i.val (.ok ())]) other = ownedSlot handles trace other :=
    fun other same => ownedSlot_congr (status other same) (Function.update_of_ne same _ _)
  constructor
  case exclusive =>
    refine agree.exclusive.acquire (ownedSlot_eq_none notOpen) (by simp [inactive]) ?_ owns others
    intro j
    by_cases same : j = i <;> simp [Function.update, same]
  case openOwns =>
    intro other isOpen
    by_cases same : other = handle
    · exact ⟨i, same ▸ owns⟩
    · rw [others other same]
      exact agree.openOwns other (status other same ▸ isOpen)
  case inertId =>
    intro other isInert
    by_cases same : other = handle
    · simp [HandleStatus.record, same] at isInert
    · rw [Function.update_of_ne same]
      exact agree.inertId other (status other same ▸ isInert)
  case kept =>
    intro other j owned
    by_cases same : other = handle
    · subst same
      obtain rfl := Option.some.inj (owns.symm.trans owned)
      simp [HandleLog.record]
    · rw [others other same] at owned
      have old : j ≠ i := by
        rintro rfl
        have := agree.exclusive.busy_of_owns owned
        simp [inactive] at this
      simpa [HandleLog.record, Ne.symm same, old] using agree.kept other j owned

/-- An open that fails leaves an inert handle. -/
theorem open_error (agree : HandlesAgree sinks handles trace)
    (notOpen : handleStatus handle trace ≠ .opened) (errno : Errno) :
    HandlesAgree sinks (Function.update handles handle ⟨-1⟩)
      (trace ++ [.opened handle (-1) (.error errno)]) := by
  have status : ∀ other, other ≠ handle →
      handleStatus other (trace ++ [BridgeEvent.opened handle (-1) (.error errno)]) =
        handleStatus other trace := by
    intro other same
    simp [HandleStatus.record, Ne.symm same]
  have owns : ∀ other, ownedSlot (Function.update handles handle ⟨-1⟩)
      (trace ++ [.opened handle (-1) (.error errno)]) other = ownedSlot handles trace other := by
    intro other
    by_cases same : other = handle
    · rw [ownedSlot_eq_none (by simp [HandleStatus.record, same]), same, ownedSlot_eq_none notOpen]
    · exact ownedSlot_congr (status other same) (Function.update_of_ne same _ _)
  constructor
  case exclusive => exact agree.exclusive.congr (by simp) owns
  case openOwns =>
    intro other isOpen
    by_cases same : other = handle
    · simp [HandleStatus.record, same] at isOpen
    · rw [owns]
      exact agree.openOwns other (status other same ▸ isOpen)
  case inertId =>
    intro other isInert
    by_cases same : other = handle
    · simp [same]
    · rw [Function.update_of_ne same]
      exact agree.inertId other (status other same ▸ isInert)
  case kept =>
    intro other j owned
    rw [owns] at owned
    simpa [HandleLog.record] using agree.kept other j owned

/-- Closing an open handle releases its slot. -/
theorem close_open (agree : HandlesAgree sinks handles trace)
    (owned : ownedSlot handles trace handle = some i) {slot : SinkSlot config}
    (released : slot.active = false) :
    HandlesAgree (Function.update sinks i slot) (Function.update handles handle ⟨-1⟩)
      (trace ++ [.closed handle]) := by
  have status : ∀ other, other ≠ handle →
      handleStatus other (trace ++ [BridgeEvent.closed handle]) = handleStatus other trace := by
    intro other same
    simp [HandleStatus.record, Ne.symm same]
  have gone : ownedSlot (Function.update handles handle ⟨-1⟩) (trace ++ [.closed handle]) handle =
      none := ownedSlot_eq_none (by simp [HandleStatus.record])
  have others : ∀ other, other ≠ handle → ownedSlot (Function.update handles handle ⟨-1⟩)
      (trace ++ [.closed handle]) other = ownedSlot handles trace other :=
    fun other same => ownedSlot_congr (status other same) (Function.update_of_ne same _ _)
  constructor
  case exclusive =>
    refine agree.exclusive.release owned (fun j => ?_) gone others
    by_cases same : j = i <;> simp [Function.update, same, released]
  case openOwns =>
    intro other isOpen
    by_cases same : other = handle
    · simp [HandleStatus.record, same] at isOpen
    · rw [others other same]
      exact agree.openOwns other (status other same ▸ isOpen)
  case inertId =>
    intro other isInert
    by_cases same : other = handle
    · simp [same]
    · rw [Function.update_of_ne same]
      exact agree.inertId other (status other same ▸ isInert)
  case kept =>
    intro other j otherOwned
    have same : other ≠ handle := by
      rintro rfl
      rw [gone] at otherOwned
      contradiction
    rw [others other same] at otherOwned
    have away : j ≠ i := by
      rintro rfl
      exact same (agree.exclusive.unique otherOwned owned)
    simpa [HandleLog.record, away] using agree.kept other j otherOwned

/-- An event that changes no slot, no handle's status and no log. -/
theorem quiet (agree : HandlesAgree sinks handles trace) {event : BridgeEvent config Handle}
    (status : ∀ other, handleStatus other (trace ++ [event]) = handleStatus other trace)
    (logs : ∀ other, handleLog other (trace ++ [event]) = handleLog other trace) :
    HandlesAgree sinks handles (trace ++ [event]) := by
  have owns : ∀ other, ownedSlot handles (trace ++ [event]) other = ownedSlot handles trace other :=
    fun other => ownedSlot_congr (status other) rfl
  refine ⟨agree.exclusive.congr (by simp) owns, ?_, ?_, ?_⟩
  · simpa only [status, owns] using agree.openOwns
  · simpa only [status] using agree.inertId
  · simpa only [owns, logs] using agree.kept

/-- Closing an inert handle changes nothing. -/
theorem close_inert (agree : HandlesAgree sinks handles trace)
    (isInert : handleStatus handle trace = .inert) :
    HandlesAgree sinks handles (trace ++ [.closed handle]) := by
  refine agree.quiet (fun other => ?_) (by simp [HandleLog.record])
  by_cases same : handle = other
  · simp [HandleStatus.record, ← same, isInert]
  · simp [HandleStatus.record, same]

/-- A take that fails changes nothing. -/
theorem take_error (agree : HandlesAgree sinks handles trace) (handle : Handle) (id : Int)
    (errno : Errno) : HandlesAgree sinks handles (trace ++ [.took handle id (.error errno)]) :=
  agree.quiet (by simp [HandleStatus.record]) (by simp [HandleLog.record])

/-- The head of the queue of the slot that an open handle owns is taken. -/
theorem take_ok (agree : HandlesAgree sinks handles trace)
    (owned : ownedSlot handles trace handle = some i) {frame : NmeaFrame config}
    {slot : SinkSlot config} (active : slot.active = (sinks i).active)
    (head : (sinks i).msgq.items = frame :: slot.msgq.items) :
    HandlesAgree (Function.update sinks i slot) handles
      (trace ++ [.took handle i.val (.ok frame)]) := by
  have status : ∀ other, handleStatus other
      (trace ++ [BridgeEvent.took handle i.val (.ok frame)]) = handleStatus other trace := by
    simp [HandleStatus.record]
  have owns : ∀ other, ownedSlot handles (trace ++ [.took handle i.val (.ok frame)]) other =
      ownedSlot handles trace other := fun other => ownedSlot_congr (status other) rfl
  refine ⟨agree.exclusive.congr (fun j => ?_) owns, ?_, ?_, fun other j otherOwned => ?_⟩
  · by_cases same : j = i
    · subst same
      simp [active]
    · simp [same]
  · simpa only [status, owns] using agree.openOwns
  · simpa only [status] using agree.inertId
  · rw [owns] at otherOwned
    simp only [handleLog_concat, HandleLog.record]
    have before := agree.kept other j otherOwned
    by_cases same : other = handle
    · subst same
      obtain rfl := Option.some.inj (owned.symm.trans otherOwned)
      rw [head] at before
      simpa using before
    · have away : j ≠ i := by
        rintro rfl
        exact same (agree.exclusive.unique otherOwned owned)
      simpa [Ne.symm same, away] using before

end HandlesAgree

section Step

variable {run next : BridgeRun config Handle} {call : BridgeCall Handle}

/-- Handles and slots of a run agree. -/
def Agree (run : BridgeRun config Handle) : Prop :=
  HandlesAgree run.bridge.sinks run.handles run.trace

/-- A disciplined call keeps handles and slots in agreement. -/
theorem Agree.step (agree : run.Agree) (disciplined : run.Disciplined call)
    (taken : run.step call = some next) : next.Agree := by
  cases call with
  | publish data =>
      obtain rfl := Option.some.inj taken
      simpa [Agree] using agree
  | dispatch =>
      obtain ⟨frame, ingestMsgq, _, rfl⟩ := step_dispatch taken
      have sinks : ({ run.bridge with ingestMsgq }.dispatch frame).sinks =
          fun i => (run.bridge.sinks i).receive frame := by
        funext i
        simp
      simp only [Agree, sinks]
      exact HandlesAgree.dispatch agree frame
  | sinkOpen handle name =>
      cases handle with
      | none =>
          obtain rfl := Option.some.inj taken
          exact agree
      | some handle =>
          rcases step_sinkOpen taken with ⟨i, free, rfl⟩ | ⟨_, rfl⟩
          · exact HandlesAgree.open_ok agree disciplined (NmeaBridge.active_of_freeSlot free) name
          · exact HandlesAgree.open_error agree disciplined .enomem
  | sinkClose handle =>
      cases handle with
      | none =>
          obtain rfl := Option.some.inj taken
          exact agree
      | some handle =>
          rcases step_sinkClose taken with ⟨i, found, rfl⟩ | ⟨missing, rfl⟩
          · rw [NmeaBridge.slotOf_eq_some_iff] at found
            cases status : handleStatus handle run.trace with
            | unused => exact absurd status disciplined
            | opened =>
                exact HandlesAgree.close_open agree (ownedSlot_eq_some_iff.mpr ⟨status, found⟩) rfl
            | inert =>
                have := agree.inertId handle status
                omega
          · cases status : handleStatus handle run.trace with
            | unused => exact absurd status disciplined
            | opened =>
                obtain ⟨i, owned⟩ := agree.openOwns handle status
                rw [(ownedSlot_eq_some_iff.mp owned).2, NmeaBridge.slotOf_val] at missing
                contradiction
            | inert => exact HandlesAgree.close_inert agree status
  | sinkTake handle frameGiven timeout =>
      cases handle with
      | none =>
          obtain rfl := Option.some.inj taken
          exact agree
      | some handle =>
          rcases step_sinkTake taken with
            ⟨i, frame, msgq, rfl, checked, head, rfl⟩ | ⟨errno, _, rfl⟩
          · rw [NmeaBridge.takeCheck_eq_ok_iff] at checked
            cases status : handleStatus handle run.trace with
            | unused => exact absurd status disciplined
            | opened =>
                have owned := ownedSlot_eq_some_iff.mpr ⟨status, checked.1⟩
                exact HandlesAgree.take_ok agree owned rfl head
            | inert =>
                have := agree.inertId handle status
                omega
          · exact HandlesAgree.take_error agree handle _ errno

theorem Agree.of_init (start : (machine config Handle).init run) : run.Agree := by
  obtain ⟨handles, rfl⟩ := start
  exact HandlesAgree.initial handles

end Step

instance decidableDisciplined (run : BridgeRun config Handle) :
    (call : BridgeCall Handle) → Decidable (run.Disciplined call)
  | .sinkOpen (some handle) _ =>
      inferInstanceAs (Decidable (handleStatus handle run.trace ≠ .opened))
  | .sinkClose (some handle) | .sinkTake (some handle) _ _ =>
      inferInstanceAs (Decidable (handleStatus handle run.trace ≠ .unused))
  | .publish _ | .dispatch | .sinkOpen none _ | .sinkClose none | .sinkTake none _ _ =>
      inferInstanceAs (Decidable True)

/-- A handle that addresses no slot: whatever the bridge's state, a close or a take
does nothing to it. -/
def Inert (config : Config) (sink : NmeaBridgeSink) : Prop :=
  ∀ bridge : NmeaBridge config, bridge.sinkClose (some sink) = (bridge, some sink) ∧
    ∀ timeout, bridge.sinkTake (some sink) true timeout = some (bridge, .error .enotconn) ∧
      bridge.sinkTake (some sink) false timeout = some (bridge, .error .einval)

theorem inert_of_id {sink : NmeaBridgeSink} (id : sink.id = -1) : Inert config sink := by
  intro bridge
  have noSlot : (NmeaBridge.slotOf sink.id : Option (Fin config.nmeaSinksMax)) = none := by
    simp [NmeaBridge.slotOf, id]
  refine ⟨by simp [NmeaBridge.sinkClose, noSlot], fun timeout => ⟨?_, rfl⟩⟩
  simp [NmeaBridge.sinkTake, NmeaBridge.takeCheck, id]

/-- What disciplined callers can rely on. -/
structure DisciplineHolds (run : BridgeRun config Handle) : Prop where
  distinct : ∀ handle other, handleStatus handle run.trace = .opened →
    handleStatus other run.trace = .opened → handle ≠ other →
    (run.handles handle).id ≠ (run.handles other).id
  active_iff : ∀ i, (run.bridge.sinks i).active = true ↔
    ∃! handle, handleStatus handle run.trace = .opened ∧ (run.handles handle).id = i.val
  enomem_iff : ∀ handle name, handleStatus handle run.trace ≠ .opened →
    ((run.bridge.sinkOpen (some (run.handles handle)) name).2.2 = .error .enomem ↔
      ∀ i : Fin config.nmeaSinksMax, ∃ holder, handleStatus holder run.trace = .opened ∧
        (run.handles holder).id = i.val)
  enomem_inert : ∀ handle name, handleStatus handle run.trace ≠ .opened →
    (run.bridge.sinkOpen (some (run.handles handle)) name).2.2 = .error .enomem →
      (run.bridge.sinkOpen (some (run.handles handle)) name).1 = run.bridge ∧
      ∃ sink, (run.bridge.sinkOpen (some (run.handles handle)) name).2.1 = some sink ∧
        Inert config sink
  inert : ∀ handle, handleStatus handle run.trace = .inert → Inert config (run.handles handle)
  connected : ∀ handle timeout next result, handleStatus handle run.trace = .opened →
    run.bridge.sinkTake (some (run.handles handle)) true timeout = some (next, result) →
      result ≠ .error .enotconn ∧ result ≠ .error .einval
  fresh : ∀ handle, handleStatus handle run.trace = .opened →
    (handleLog handle run.trace).taken.Sublist (handleLog handle run.trace).dispatched

section Consequences

variable {run : BridgeRun config Handle}

/-- The outcome of an open depends only on whether a slot is free. -/
theorem sinkOpen_enomem_iff {bridge : NmeaBridge config} {sink : NmeaBridgeSink}
    {name : Option String} :
    (bridge.sinkOpen (some sink) name).2.2 = .error .enomem ↔ bridge.freeSlot = none := by
  cases free : bridge.freeSlot <;> simp [NmeaBridge.sinkOpen, free]

theorem Agree.holds (agree : run.Agree) : run.DisciplineHolds where
  distinct handle other isOpen otherOpen different equal := by
    obtain ⟨i, owned⟩ := agree.openOwns handle isOpen
    have named := (ownedSlot_eq_some_iff.mp owned).2
    have otherOwned := ownedSlot_eq_some_iff.mpr ⟨otherOpen, equal.symm.trans named⟩
    exact different (agree.exclusive.unique owned otherOwned)
  active_iff i := by
    simp only [← ownedSlot_eq_some_iff]
    exact ⟨agree.exclusive.existsUnique_owner, fun owner =>
      (agree.exclusive.busy_iff i).mpr owner.exists⟩
  enomem_iff handle name _ := by
    rw [sinkOpen_enomem_iff, NmeaBridge.freeSlot_eq_none_iff]
    simp only [← ownedSlot_eq_some_iff]
    exact forall_congr' agree.exclusive.busy_iff
  enomem_inert handle name _ failed := by
    rw [sinkOpen_enomem_iff] at failed
    simp only [NmeaBridge.sinkOpen, failed, true_and]
    exact ⟨_, rfl, inert_of_id rfl⟩
  inert handle isInert := inert_of_id (agree.inertId handle isInert)
  connected handle timeout next result isOpen taken := by
    obtain ⟨i, owned⟩ := agree.openOwns handle isOpen
    have active := agree.exclusive.busy_of_owns owned
    have checked :=
      NmeaBridge.takeCheck_eq_ok_iff.mpr ⟨(ownedSlot_eq_some_iff.mp owned).2, active⟩
    rcases NmeaBridge.sinkTake_cases taken with
      ⟨_, frame, _, _, _, _, rfl, _⟩ | ⟨errno, rfl, _, reason⟩
    · simp
    · rcases reason rfl i checked with rfl | rfl <;> simp
  fresh handle isOpen := by
    obtain ⟨i, owned⟩ := agree.openOwns handle isOpen
    exact (List.sublist_append_left _ _).trans (agree.kept handle i owned)

end Consequences

/-- After any run of disciplined calls, interleaved with dispatches. -/
theorem disciplineHolds {start run : BridgeRun config Handle} {calls : List (BridgeCall Handle)}
    (initial : (machine config Handle).init start)
    (disciplined : (machine config Handle).Along Disciplined start calls)
    (reached : (machine config Handle).exec start calls = some run) : run.DisciplineHolds := by
  have agree : run.Agree :=
    Machine.invariant_of_along Agree Disciplined
      (fun _ _ _ agree disciplined taken => Agree.step agree disciplined taken)
      (Agree.of_init initial) disciplined reached
  exact agree.holds

/-- One slot for two callers. -/
def single : Config where
  __ := Config.committed
  nmeaSinksMax := 1
  tcpNmeaServerEnable := false
  sinks_range := by decide
  sinks_cover := by decide

/-- A second caller is turned away, waits for the first to close, and gets the slot
without the frame that was queued in it. -/
def handover : List (BridgeCall Bool) :=
  [.sinkOpen (some false) none, .publish (some [10]), .dispatch, .sinkOpen (some true) none,
    .sinkTake (some true) true .noWait, .sinkClose (some false), .sinkClose (some false),
    .sinkOpen (some true) none, .publish (some [65, 10]), .dispatch,
    .sinkTake (some true) true .noWait]

theorem disciplineHolds_handover :
    ∃ run, (machine single Bool).exec { handles := fun _ => ⟨0⟩ } handover = some run ∧
      (handleLog true run.trace).taken.length = 1 ∧ run.DisciplineHolds := by
  refine ⟨_, rfl, rfl, ?_⟩
  have disciplined :
      (machine single Bool).Along Disciplined { handles := fun _ => ⟨0⟩ } handover := by decide
  exact disciplineHolds ⟨_, rfl⟩ disciplined rfl

end BridgeRun

end EspNmeaBridge
