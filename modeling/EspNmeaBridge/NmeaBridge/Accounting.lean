import EspNmeaBridge.BridgeTelemetry
import EspNmeaBridge.NmeaBridge.SinkHistory
import Mathlib.Algebra.BigOperators.Group.List.Basic

/-!
# Accounting for every frame

The counters of the bridge against the history of its calls.  The history is the
trail of a run: a call displaces a frame when it puts one into a full queue, and a
lifetime of a sink lasts from its open to the reset of the slot's statistics by the
next.  Counters wrap, so they agree with the history modulo `2 ^ 32`.
-/

namespace EspNmeaBridge

open Library

variable {config : Config} {Handle : Type}

/-- Frames that `put_drop_oldest` displaces from a queue. -/
def displaced {α : Type} {capacity : Nat} (msgq : BoundedQueue α capacity) : Nat :=
  if msgq.items.length = capacity then 1 else 0

/-- The frame is put, and as many frames as are displaced leave the queue and are
counted. -/
theorem putDropOldest_counts {α : Type} {capacity : Nat} (msgq : BoundedQueue α capacity)
    (positive : 0 < capacity) (frame : α) (dropCounter : UInt32) :
    (putDropOldest msgq frame dropCounter).1.items.getLast? = some frame ∧
      (putDropOldest msgq frame dropCounter).1.items.length + displaced msgq =
        msgq.items.length + 1 ∧
      (putDropOldest msgq frame dropCounter).2 = dropCounter + UInt32.ofNat (displaced msgq) := by
  by_cases full : msgq.items.length = capacity
  · cases items : msgq.items with
    | nil =>
        rw [items, List.length_nil] at full
        omega
    | cons oldest rest =>
        obtain ⟨kept, counted⟩ := putDropOldest_of_full frame dropCounter full items
        have isFull : displaced msgq = 1 := if_pos full
        rw [kept, counted, isFull]
        simp
  · have room := Nat.lt_of_le_of_ne msgq.bounded full
    obtain ⟨kept, counted⟩ := putDropOldest_of_room frame dropCounter room
    simp [kept, counted, displaced, full]

namespace SinkSlot

/-- Frames that the dispatcher displaces from a slot. -/
def displaces (slot : SinkSlot config) : Nat :=
  if slot.active then displaced slot.msgq else 0

variable {slot : SinkSlot config}

theorem receive_of_inactive (inactive : slot.active = false) (frame : NmeaFrame config) :
    slot.receive frame = slot := by
  simp [receive, inactive]

/-- An active slot gets the frame, and counts it and what it displaces. -/
theorem receive_of_active (active : slot.active = true) (frame : NmeaFrame config) :
    (slot.receive frame).msgq.items.getLast? = some frame ∧
      (slot.receive frame).stats.queued = slot.stats.queued + 1 := by
  have counts := putDropOldest_counts slot.msgq config.sinkQueueDepth_pos frame
    slot.stats.droppedOldest
  simp [receive, active, counts.1]

theorem receive_droppedOldest (frame : NmeaFrame config) :
    (slot.receive frame).stats.droppedOldest =
      slot.stats.droppedOldest + UInt32.ofNat slot.displaces := by
  have counts := putDropOldest_counts slot.msgq config.sinkQueueDepth_pos frame
    slot.stats.droppedOldest
  cases active : slot.active with
  | false => simp [receive, displaces, active]
  | true => simp [receive, displaces, active, counts.2.2]

end SinkSlot

namespace NmeaBridge

variable {bridge : NmeaBridge config}

/-- What one pass of the dispatcher's loop counts. -/
theorem dispatchTo_counts (bridge : NmeaBridge config) (frame : NmeaFrame config) (any : Bool)
    (i : Fin config.nmeaSinksMax) :
    (dispatchTo frame (bridge, any) i).1.bridgeStats = { bridge.bridgeStats with
        sinkDroppedOldest := bridge.bridgeStats.sinkDroppedOldest +
          UInt32.ofNat (bridge.sinks i).displaces } ∧
      (dispatchTo frame (bridge, any) i).2 = (any || (bridge.sinks i).active) := by
  have counts := putDropOldest_counts (bridge.sinks i).msgq config.sinkQueueDepth_pos frame
    (bridge.sinks i).stats.droppedOldest
  cases active : (bridge.sinks i).active with
  | false => simp [dispatchTo, SinkSlot.displaces, active]
  | true =>
      -- the difference taken around `put_drop_oldest` is what it displaced
      have difference : ∀ before total drops : UInt32,
          (if before + drops ≠ before then total + (before + drops - before) else total) =
            total + drops := by
        intro before total drops
        split <;> grind
      simp only [dispatchTo, SinkSlot.displaces, active, Bool.not_true, Bool.false_eq_true,
        if_false, if_true, counts.2.2, Bool.or_true, and_true, difference]
      rfl

/-- What the dispatcher's loop counts over slots without repetition. -/
theorem foldl_dispatchTo_counts (frame : NmeaFrame config)
    {slots : List (Fin config.nmeaSinksMax)} (distinct : slots.Nodup)
    (state : NmeaBridge config × Bool) :
    (slots.foldl (dispatchTo frame) state).1.bridgeStats = { state.1.bridgeStats with
        sinkDroppedOldest := state.1.bridgeStats.sinkDroppedOldest +
          UInt32.ofNat (slots.map fun i => (state.1.sinks i).displaces).sum } ∧
      (slots.foldl (dispatchTo frame) state).2 =
        (state.2 || slots.any fun i => (state.1.sinks i).active) := by
  induction slots generalizing state with
  | nil => simp
  | cons i slots ih =>
      rw [List.nodup_cons] at distinct
      rcases state with ⟨bridge, any⟩
      obtain ⟨stats, visited⟩ := ih distinct.2 (dispatchTo frame (bridge, any) i)
      obtain ⟨stats', visited'⟩ := dispatchTo_counts bridge frame any i
      have others : ∀ j ∈ slots, (dispatchTo frame (bridge, any) i).1.sinks j = bridge.sinks j := by
        intro j member
        have different : j ≠ i := by
          rintro rfl
          exact distinct.1 member
        rw [dispatchTo_sinks, if_neg different]
      have same : slots.map (fun j => ((dispatchTo frame (bridge, any) i).1.sinks j).displaces) =
          slots.map fun j => (bridge.sinks j).displaces :=
        List.map_congr_left fun j member => by rw [others j member]
      have sameAny : slots.any (fun j => ((dispatchTo frame (bridge, any) i).1.sinks j).active) =
          slots.any fun j => (bridge.sinks j).active := by
        rw [Bool.eq_iff_iff, List.any_eq_true, List.any_eq_true]
        exact exists_congr fun j => and_congr_right fun member => by rw [others j member]
      rw [List.foldl_cons, stats, visited, stats', visited', same, sameAny]
      simp [UInt32.ofNat_add, UInt32.add_assoc, Bool.or_assoc]

/-- No sink is open. -/
def NoSinks (bridge : NmeaBridge config) : Prop := ∀ i, (bridge.sinks i).active = false

instance decidableNoSinks (bridge : NmeaBridge config) : Decidable bridge.NoSinks :=
  inferInstanceAs (Decidable (∀ _, _ = _))

theorem dispatch_bridgeStats (frame : NmeaFrame config) :
    (bridge.dispatch frame).bridgeStats = { bridge.bridgeStats with
      sinkDroppedOldest := bridge.bridgeStats.sinkDroppedOldest +
        UInt32.ofNat ((List.finRange _).map fun i => (bridge.sinks i).displaces).sum
      publishNoSinks := bridge.bridgeStats.publishNoSinks +
        UInt32.ofNat (if bridge.NoSinks then 1 else 0) } := by
  obtain ⟨stats, any⟩ := foldl_dispatchTo_counts frame (List.nodup_finRange config.nmeaSinksMax)
    (bridge, false)
  have visited : ((List.finRange config.nmeaSinksMax).foldl (dispatchTo frame)
      (bridge, false)).2 = !decide bridge.NoSinks := by
    rw [any, Bool.false_or, ← decide_not, Bool.eq_iff_iff]
    simp [NoSinks]
  simp only [dispatch, visited, Bool.not_not]
  by_cases none : bridge.NoSinks
  · simp [none, stats]
  · simp [none, stats]

end NmeaBridge

namespace BridgeRun

/-- `nmea_bridge_publish_frame` accepts the data. -/
def accepts (config : Config) : Option (List Byte) → Bool
  | none => false
  | some data => 0 < data.length && data.length ≤ config.nmeaFrameMaxLen

theorem accepts_iff {data : Option (List Byte)} :
    accepts config data = true ↔ ∃ frame : NmeaFrame config, data = some frame.data := by
  cases data with
  | none => simp [accepts]
  | some data =>
      simp only [accepts, Bool.and_eq_true, decide_eq_true_eq, Option.some.injEq]
      constructor
      · intro ⟨nonempty, fits⟩
        exact ⟨⟨data, nonempty, fits⟩, rfl⟩
      · intro ⟨frame, equal⟩
        rw [equal]
        exact ⟨frame.nonempty, frame.fits⟩

/-- Frames a call adds to the ingest queue. -/
def ingested (config : Config) : BridgeCall Handle → Nat
  | .publish data => if accepts config data then 1 else 0
  | _ => 0

/-- Frames a call displaces from the ingest queue. -/
def ingestDisplaced (run : BridgeRun config Handle) : BridgeCall Handle → Nat
  | .publish data => if accepts config data then displaced run.bridge.ingestMsgq else 0
  | _ => 0

/-- Frames a call displaces from the queue of slot `i`. -/
def sinkDisplaced (i : Fin config.nmeaSinksMax) (run : BridgeRun config Handle) :
    BridgeCall Handle → Nat
  | .dispatch => (run.bridge.sinks i).displaces
  | _ => 0

/-- Frames a call dispatches while no sink is open. -/
def undelivered (run : BridgeRun config Handle) : BridgeCall Handle → Nat
  | .dispatch => if run.bridge.NoSinks then 1 else 0
  | _ => 0

/-- The slot a call opens, which resets its statistics. -/
def openedSlot (run : BridgeRun config Handle) :
    BridgeCall Handle → Option (Fin config.nmeaSinksMax)
  | .sinkOpen (some _) _ => run.bridge.freeSlot
  | _ => none

/-- A call displaces a frame from the ingest queue or from an open sink's queue. -/
def Displaces (run : BridgeRun config Handle) : BridgeCall Handle → Prop
  | .publish data => (∃ frame : NmeaFrame config, data = some frame.data) ∧
      run.bridge.ingestMsgq.items.length = config.ingestQueueDepth
  | .dispatch => ∃ i, (run.bridge.sinks i).active = true ∧
      (run.bridge.sinks i).msgq.items.length = config.sinkQueueDepth
  | _ => False

/-- Frames a call displaces from any queue. -/
def drops (run : BridgeRun config Handle) (call : BridgeCall Handle) : Nat :=
  ingestDisplaced run call + ((List.finRange _).map fun i => sinkDisplaced i run call).sum

theorem drops_eq_zero_iff {run : BridgeRun config Handle} {call : BridgeCall Handle} :
    run.drops call = 0 ↔ ¬ run.Displaces call := by
  unfold drops
  cases call with
  | publish data =>
      simp [Displaces, ingestDisplaced, sinkDisplaced, displaced, accepts_iff]
  | dispatch =>
      simp [Displaces, ingestDisplaced, sinkDisplaced, displaced, SinkSlot.displaces,
        List.sum_eq_zero_iff_forall_eq_nat]
  | sinkOpen handle name => simp [Displaces, ingestDisplaced, sinkDisplaced]
  | sinkClose handle => simp [Displaces, ingestDisplaced, sinkDisplaced]
  | sinkTake handle frameGiven timeout => simp [Displaces, ingestDisplaced, sinkDisplaced]

/-- A count over the steps of a run. -/
def total (count : BridgeRun config Handle → BridgeCall Handle → Nat)
    (trail : List (BridgeRun config Handle × BridgeCall Handle)) : Nat :=
  (trail.map fun entry => count entry.1 entry.2).sum

/-- What slot `i` had in `dropped_oldest` each time its statistics were reset. -/
def resetDrops (i : Fin config.nmeaSinksMax)
    (trail : List (BridgeRun config Handle × BridgeCall Handle)) : List UInt32 :=
  trail.filterMap fun entry =>
    if openedSlot entry.1 entry.2 = some i then
      some (entry.1.bridge.sinks i).stats.droppedOldest
    else none

/-- The values `dropped_oldest` of slot `i` had when it was reset, and the one it has
now. -/
def allDrops (i : Fin config.nmeaSinksMax)
    (trail : List (BridgeRun config Handle × BridgeCall Handle)) (run : BridgeRun config Handle) :
    List UInt32 :=
  resetDrops i trail ++ [(run.bridge.sinks i).stats.droppedOldest]

/-- What each lifetime of slot `i` accumulated in `dropped_oldest`: the value it left
when the slot was next opened, and for the latest one the value now.  The value found
by the first open is of no lifetime. -/
def lifetimeDrops (i : Fin config.nmeaSinksMax)
    (trail : List (BridgeRun config Handle × BridgeCall Handle)) (run : BridgeRun config Handle) :
    List UInt32 :=
  (allDrops i trail run).tail

section Totals

variable (count : BridgeRun config Handle → BridgeCall Handle → Nat)
  (trail : List (BridgeRun config Handle × BridgeCall Handle)) (run : BridgeRun config Handle)
  (call : BridgeCall Handle)

@[simp] theorem total_nil : total count [] = 0 := rfl

@[simp] theorem total_concat : total count (trail ++ [(run, call)]) =
    total count trail + count run call := by simp [total]

theorem total_eq_zero_iff {trail : List (BridgeRun config Handle × BridgeCall Handle)} :
    total count trail = 0 ↔ ∀ entry ∈ trail, count entry.1 entry.2 = 0 := by
  unfold total
  rw [List.sum_eq_zero_iff_forall_eq_nat, List.forall_mem_map]

theorem resetDrops_concat (i : Fin config.nmeaSinksMax) : resetDrops i (trail ++ [(run, call)]) =
    resetDrops i trail ++ if openedSlot run call = some i then
      [(run.bridge.sinks i).stats.droppedOldest] else [] := by
  unfold resetDrops
  rw [List.filterMap_append]
  split <;> rename_i opened <;> simp [opened]

theorem total_drops : total drops trail = total ingestDisplaced trail +
    total (fun run call => ((List.finRange _).map fun i => sinkDisplaced i run call).sum) trail :=
  List.sum_map_add

/-- The total over all slots, slot by slot. -/
theorem total_sinks : total (fun run call => ((List.finRange _).map fun i =>
      sinkDisplaced i run call).sum) trail =
    ((List.finRange _).map fun i => total (sinkDisplaced i) trail).sum := by
  induction trail with
  | nil => simp [total]
  | cons entry trail ih =>
      simp only [total, List.map_cons, List.sum_cons] at ih ⊢
      rw [ih, ← List.sum_map_add]

end Totals

variable [DecidableEq Handle]

/-- What one call does to the counters, in these terms. -/
structure StepCounts (run next : BridgeRun config Handle) (call : BridgeCall Handle) : Prop where
  queue : next.bridge.ingestMsgq.items.length + ingestDisplaced run call +
    (if call = .dispatch then 1 else 0) = run.bridge.ingestMsgq.items.length + ingested config call
  framesIn : next.bridge.bridgeStats.framesIn =
    run.bridge.bridgeStats.framesIn + UInt32.ofNat (ingested config call)
  ingestDropped : next.bridge.bridgeStats.ingestDroppedOldest =
    run.bridge.bridgeStats.ingestDroppedOldest + UInt32.ofNat (ingestDisplaced run call)
  sinkDropped : next.bridge.bridgeStats.sinkDroppedOldest =
    run.bridge.bridgeStats.sinkDroppedOldest +
      UInt32.ofNat ((List.finRange _).map fun i => sinkDisplaced i run call).sum
  noSinks : next.bridge.bridgeStats.publishNoSinks =
    run.bridge.bridgeStats.publishNoSinks + UInt32.ofNat (undelivered run call)
  reset : ∀ i, openedSlot run call = some i → (next.bridge.sinks i).stats.droppedOldest = 0
  kept : ∀ i, openedSlot run call ≠ some i →
    ((run.bridge.sinks i).active = false → (next.bridge.sinks i).active = false) ∧
    (next.bridge.sinks i).stats.droppedOldest =
      (run.bridge.sinks i).stats.droppedOldest + UInt32.ofNat (sinkDisplaced i run call)

section Steps

variable {run next : BridgeRun config Handle} {call : BridgeCall Handle}

/-- A call about a sink changes neither the ingest queue nor the bridge's statistics. -/
theorem StepCounts.of_sinks (noPublish : ∀ data, call ≠ .publish data)
    (noDispatch : call ≠ .dispatch)
    (ingestMsgq : next.bridge.ingestMsgq = run.bridge.ingestMsgq)
    (bridgeStats : next.bridge.bridgeStats = run.bridge.bridgeStats)
    (reset : ∀ i, openedSlot run call = some i → (next.bridge.sinks i).stats.droppedOldest = 0)
    (kept : ∀ i, openedSlot run call ≠ some i →
      ((run.bridge.sinks i).active = false → (next.bridge.sinks i).active = false) ∧
      (next.bridge.sinks i).stats.droppedOldest = (run.bridge.sinks i).stats.droppedOldest) :
    StepCounts run next call := by
  have quiet : ingested config call = 0 ∧ ingestDisplaced run call = 0 ∧
      (∀ i, sinkDisplaced i run call = 0) ∧ undelivered run call = 0 := by
    cases call with
    | publish data => exact absurd rfl (noPublish data)
    | dispatch => exact absurd rfl noDispatch
    | sinkOpen | sinkClose | sinkTake => exact ⟨rfl, rfl, fun _ => rfl, rfl⟩
  obtain ⟨idle, noIngest, noSink, delivered⟩ := quiet
  constructor
  case queue => simp [ingestMsgq, idle, noIngest, noDispatch]
  case framesIn => simp [bridgeStats, idle]
  case ingestDropped => simp [bridgeStats, noIngest]
  case sinkDropped => simp [bridgeStats, noSink]
  case noSinks => simp [bridgeStats, delivered]
  case reset => exact reset
  case kept => simpa [noSink] using kept

/-- A call about a sink that finds nothing to do. -/
theorem StepCounts.of_bridge (noPublish : ∀ data, call ≠ .publish data)
    (noDispatch : call ≠ .dispatch) (bridge : next.bridge = run.bridge)
    (opens : openedSlot run call = none) : StepCounts run next call := by
  apply StepCounts.of_sinks noPublish noDispatch
  · rw [bridge]
  · rw [bridge]
  · simp [opens]
  · intro i _
    rw [bridge]
    exact ⟨id, rfl⟩

theorem stepCounts (taken : run.step call = some next) : StepCounts run next call := by
  cases call with
  | publish data =>
      obtain rfl := Option.some.inj taken
      rcases run.bridge.publishFrame_cases data with
        ⟨frame, rfl, did⟩ | ⟨publishInvalid, publishOversize, errno, rejected, did⟩
      · have accepted : accepts config (some frame.data) = true := accepts_iff.mpr ⟨frame, rfl⟩
        have positive : 0 < config.ingestQueueDepth := by
          have := config.ingest_range.1
          omega
        obtain ⟨_, lengths, counted⟩ := putDropOldest_counts run.bridge.ingestMsgq positive frame
          run.bridge.bridgeStats.ingestDroppedOldest
        constructor
        case queue => simpa [did, ingestDisplaced, ingested, accepted] using lengths
        case framesIn => simp [did, ingested, accepted]
        case ingestDropped => simpa [did, ingestDisplaced, accepted] using counted
        case sinkDropped => simp [did, sinkDisplaced]
        case noSinks => simp [did, undelivered]
        case reset => simp [openedSlot]
        case kept => simp [sinkDisplaced]
      · have refused : accepts config data = false := by
          rw [← Bool.not_eq_true, accepts_iff]
          rintro ⟨frame, equal⟩
          exact rejected frame equal
        constructor
        case queue => simp [did, ingestDisplaced, ingested, refused]
        case framesIn => simp [did, ingested, refused]
        case ingestDropped => simp [did, ingestDisplaced, refused]
        case sinkDropped => simp [did, sinkDisplaced]
        case noSinks => simp [did, undelivered]
        case reset => simp [openedSlot]
        case kept => simp [sinkDisplaced]
  | dispatch =>
      obtain ⟨frame, ingestMsgq, head, rfl⟩ := step_dispatch taken
      have none : NmeaBridge.NoSinks { run.bridge with ingestMsgq } ↔ run.bridge.NoSinks := Iff.rfl
      constructor
      case queue => simp [ingestDisplaced, ingested, head]
      case framesIn => simp [NmeaBridge.dispatch_bridgeStats, ingested]
      case ingestDropped => simp [NmeaBridge.dispatch_bridgeStats, ingestDisplaced]
      case sinkDropped => simp [NmeaBridge.dispatch_bridgeStats, sinkDisplaced]
      case noSinks => simp [NmeaBridge.dispatch_bridgeStats, undelivered, none]
      case reset => simp [openedSlot]
      case kept => simp [sinkDisplaced, SinkSlot.receive_droppedOldest]
  | sinkOpen handle name =>
      cases handle with
      | none =>
          obtain rfl := Option.some.inj taken
          exact .of_bridge (by simp) (by simp) rfl rfl
      | some handle =>
          rcases step_sinkOpen taken with ⟨i, free, rfl⟩ | ⟨full, rfl⟩
          · apply StepCounts.of_sinks (by simp) (by simp)
            · rfl
            · rfl
            · intro j opened
              obtain rfl := Option.some.inj (free.symm.trans opened)
              simp
            · intro j other
              have different : j ≠ i := by
                rintro rfl
                exact other free
              simp [different]
          · exact .of_bridge (by simp) (by simp) rfl (by simp [openedSlot, full])
  | sinkClose handle =>
      cases handle with
      | none =>
          obtain rfl := Option.some.inj taken
          exact .of_bridge (by simp) (by simp) rfl rfl
      | some handle =>
          rcases step_sinkClose taken with ⟨i, _, rfl⟩ | ⟨_, rfl⟩
          · apply StepCounts.of_sinks (by simp) (by simp)
            · rfl
            · rfl
            · simp [openedSlot]
            · intro j _
              by_cases same : j = i
              · subst same
                simp
              · simp [same]
          · exact .of_bridge (by simp) (by simp) rfl rfl
  | sinkTake handle frameGiven timeout =>
      cases handle with
      | none =>
          obtain rfl := Option.some.inj taken
          exact .of_bridge (by simp) (by simp) rfl rfl
      | some handle =>
          rcases step_sinkTake taken with ⟨i, frame, msgq, _, _, _, rfl⟩ | ⟨errno, _, rfl⟩
          · apply StepCounts.of_sinks (by simp) (by simp)
            · rfl
            · rfl
            · simp [openedSlot]
            · intro j _
              by_cases same : j = i
              · subst same
                simp
              · simp [same]
          · exact .of_bridge (by simp) (by simp) rfl rfl

end Steps

/-- The counters after a run, against its trail. -/
structure Counted (calls : List (BridgeCall Handle))
    (trail : List (BridgeRun config Handle × BridgeCall Handle)) (run : BridgeRun config Handle) :
    Prop where
  framesIn : run.bridge.bridgeStats.framesIn = run.bridge.bridgeStats.ingestDroppedOldest +
    UInt32.ofNat run.bridge.ingestMsgq.items.length + UInt32.ofNat (calls.count .dispatch)
  ingestDropped : run.bridge.bridgeStats.ingestDroppedOldest =
    UInt32.ofNat (total ingestDisplaced trail)
  sinkDropped : run.bridge.bridgeStats.sinkDroppedOldest =
    UInt32.ofNat (total (fun run call => ((List.finRange _).map fun i =>
      sinkDisplaced i run call).sum) trail)
  noSinks : run.bridge.bridgeStats.publishNoSinks = UInt32.ofNat (total undelivered trail)
  unopened : ∀ i, resetDrops i trail = [] → (run.bridge.sinks i).active = false
  first : ∀ i, (allDrops i trail run).head? = some 0
  sums : ∀ i, (allDrops i trail run).sum = UInt32.ofNat (total (sinkDisplaced i) trail)

namespace Counted

variable {calls : List (BridgeCall Handle)} {call : BridgeCall Handle}
  {trail : List (BridgeRun config Handle × BridgeCall Handle)} {run next : BridgeRun config Handle}

theorem of_init (start : (machine config Handle).init run) : Counted [] [] run := by
  obtain ⟨handles, rfl⟩ := start
  constructor <;> simp [allDrops, resetDrops]

/-- The values that `dropped_oldest` of a slot had, after one more call. -/
theorem allDrops_concat (step : StepCounts run next call) (i : Fin config.nmeaSinksMax) :
    allDrops i (trail ++ [(run, call)]) next =
      if openedSlot run call = some i then allDrops i trail run ++ [0]
      else resetDrops i trail ++
        [(run.bridge.sinks i).stats.droppedOldest + UInt32.ofNat (sinkDisplaced i run call)] := by
  unfold allDrops
  rw [resetDrops_concat]
  by_cases opened : openedSlot run call = some i
  · simp [opened, step.reset i opened]
  · simp [opened, (step.kept i opened).2]

/-- Every call keeps the counters in step with the trail. -/
theorem step (counted : Counted calls trail run) (step : StepCounts run next call) :
    Counted (calls ++ [call]) (trail ++ [(run, call)]) next where
  framesIn := by
    have framesIn := counted.framesIn
    have queue := congrArg UInt32.ofNat step.queue
    rw [step.framesIn, step.ingestDropped]
    simp only [List.count_append, List.count_singleton, beq_iff_eq, UInt32.ofNat_add] at queue ⊢
    grind
  ingestDropped := by
    rw [step.ingestDropped, counted.ingestDropped, total_concat, UInt32.ofNat_add]
  sinkDropped := by
    rw [step.sinkDropped, counted.sinkDropped, total_concat, UInt32.ofNat_add]
  noSinks := by
    rw [step.noSinks, counted.noSinks, total_concat, UInt32.ofNat_add]
  unopened i none := by
    rw [resetDrops_concat, List.append_eq_nil_iff] at none
    have same : openedSlot run call ≠ some i := by
      intro opened
      simp [opened] at none
    exact (step.kept i same).1 (counted.unopened i none.1)
  first i := by
    rw [allDrops_concat step]
    split
    · rw [List.head?_append, counted.first i]
      rfl
    · rename_i same
      cases resets : resetDrops i trail with
      | nil =>
          have first := counted.first i
          have idle : sinkDisplaced i run call = 0 := by
            have inactive := counted.unopened i resets
            cases call <;> simp [sinkDisplaced, SinkSlot.displaces, inactive]
          simpa [allDrops, resets, idle] using first
      | cons drops rest =>
          have first := counted.first i
          simpa [allDrops, resets] using first
  sums i := by
    have before := counted.sums i
    rw [allDrops_concat step, total_concat, UInt32.ofNat_add, ← before]
    split
    · rename_i opened
      have idle : sinkDisplaced i run call = 0 := by
        cases call <;> simp [openedSlot, sinkDisplaced] at opened ⊢
      simp [idle]
    · simp [allDrops, UInt32.add_assoc]

end Counted

theorem counted {start run : BridgeRun config Handle} {calls : List (BridgeCall Handle)}
    (initial : (machine config Handle).init start)
    (reached : (machine config Handle).exec start calls = some run) :
    Counted calls ((machine config Handle).trail start calls) run := by
  apply Machine.exec_induction
    (motive := fun calls run => Counted calls ((machine config Handle).trail start calls) run)
    _ _ reached
  · exact .of_init initial
  · intro calls run call next reached counted taken
    rw [Machine.trail_concat call reached]
    exact counted.step (stepCounts taken)

/-- A dispatched frame is put in the queue of every open sink, of which there is at
least one, or it is counted in `publish_no_sinks`. -/
inductive DispatchAccounted (bridge next : NmeaBridge config) (frame : NmeaFrame config) :
    Prop where
  | delivered (any : ∃ i, (bridge.sinks i).active = true)
      (every : ∀ i, (bridge.sinks i).active = true →
        (next.sinks i).msgq.items.getLast? = some frame ∧
        (next.sinks i).stats.queued = (bridge.sinks i).stats.queued + 1)
      (uncounted : next.bridgeStats.publishNoSinks = bridge.bridgeStats.publishNoSinks)
  | undelivered (none : ∀ i, (bridge.sinks i).active = false) (sinks : next.sinks = bridge.sinks)
      (counted : next.bridgeStats.publishNoSinks = bridge.bridgeStats.publishNoSinks + 1)

/-- The oldest frame of the ingest queue leaves it and is accounted for. -/
def Dispatches (run : BridgeRun config Handle) : Prop :=
  ∃ next frame, run.step .dispatch = some next ∧
    run.bridge.ingestMsgq.items = frame :: next.bridge.ingestMsgq.items ∧
    DispatchAccounted run.bridge next.bridge frame

theorem dispatches {run next : BridgeRun config Handle} (taken : run.step .dispatch = some next) :
    run.Dispatches := by
  obtain ⟨frame, ingestMsgq, head, equal⟩ := step_dispatch taken
  refine ⟨next, frame, taken, ?_, ?_⟩
  · simpa [equal] using head
  · by_cases none : run.bridge.NoSinks
    · apply DispatchAccounted.undelivered none
      · funext i
        simp [equal, SinkSlot.receive_of_inactive (none i)]
      · have none' : NmeaBridge.NoSinks { run.bridge with ingestMsgq } := none
        simp [equal, NmeaBridge.dispatch_bridgeStats, none']
    · apply DispatchAccounted.delivered
      · simpa [NmeaBridge.NoSinks] using none
      · intro i active
        simpa [equal] using SinkSlot.receive_of_active active frame
      · have none' : ¬ NmeaBridge.NoSinks { run.bridge with ingestMsgq } := none
        simp [equal, NmeaBridge.dispatch_bridgeStats, none']

/-- What holds of the counters after a run of calls: every accepted frame is queued,
dispatched or counted as displaced; every dispatched frame is accounted for; and the
drops counted for all sinks are those of all their lifetimes.  The warning built from the
counters is then exact until a drop counter has wrapped. -/
structure FramesAccounted (start : BridgeRun config Handle) (calls : List (BridgeCall Handle))
    (run : BridgeRun config Handle) : Prop where
  framesIn : run.bridge.bridgeStats.framesIn = run.bridge.bridgeStats.ingestDroppedOldest +
    UInt32.ofNat run.bridge.ingestMsgq.items.length + UInt32.ofNat (calls.count .dispatch)
  dispatched : ∀ step ∈ (machine config Handle).trail start calls,
    step.2 = .dispatch → step.1.Dispatches
  publishNoSinks : run.bridge.bridgeStats.publishNoSinks =
    UInt32.ofNat (total undelivered ((machine config Handle).trail start calls))
  sinkDropped : run.bridge.bridgeStats.sinkDroppedOldest = ((List.finRange _).map fun i =>
    (lifetimeDrops i ((machine config Handle).trail start calls) run).sum).sum
  frameLoss : total drops ((machine config Handle).trail start calls) < 2 ^ 32 →
    ∀ uart server session staReady nowMs state snapshot,
      (BridgeTelemetry.buildSnapshot (some state) (some (BridgeTelemetry.collectInputs uart
        run.bridge.bridgeStats server session staReady)) nowMs (some snapshot)).2.map
          (·.warnings.frameLoss) = some false ↔
      ∀ step ∈ (machine config Handle).trail start calls, ¬ step.1.Displaces step.2

/-- The lifetimes of a slot accumulate what was displaced from its queue. -/
theorem Counted.lifetimes {calls : List (BridgeCall Handle)} {run : BridgeRun config Handle}
    {trail : List (BridgeRun config Handle × BridgeCall Handle)}
    (counted : Counted calls trail run) (i : Fin config.nmeaSinksMax) :
    (lifetimeDrops i trail run).sum = UInt32.ofNat (total (sinkDisplaced i) trail) := by
  have first := counted.first i
  rw [← counted.sums i, lifetimeDrops]
  cases drops : allDrops i trail run with
  | nil => rfl
  | cons before lifetimes =>
      rw [drops, List.head?_cons, Option.some.injEq] at first
      simp [first]

theorem frameLoss_eq_false_iff {inputs : BridgeTelemetryInputs} {nowMs : Int64}
    {state : BridgeTelemetryState} {snapshot : BridgeTelemetrySnapshot} :
    (BridgeTelemetry.buildSnapshot (some state) (some inputs) nowMs (some snapshot)).2.map
        (·.warnings.frameLoss) = some false ↔
      inputs.bridgeIngestDroppedOldest = 0 ∧ inputs.bridgeSinkDroppedOldest = 0 := by
  simp [BridgeTelemetry.buildSnapshot, BridgeTelemetry.fillSnapshot]

theorem framesAccounted {start run : BridgeRun config Handle} {calls : List (BridgeCall Handle)}
    (initial : (machine config Handle).init start)
    (reached : (machine config Handle).exec start calls = some run) :
    FramesAccounted start calls run := by
  have counted := counted initial reached
  constructor
  case framesIn => exact counted.framesIn
  case dispatched =>
    apply Machine.forall_mem_trail (fun run call => call = .dispatch → run.Dispatches) reached
    rintro _ state _ next _ taken rfl
    exact dispatches taken
  case publishNoSinks => exact counted.noSinks
  case sinkDropped =>
    simp only [counted.lifetimes]
    rw [counted.sinkDropped, total_sinks, counter_sum]
  case frameLoss =>
    intro few uart server session staReady nowMs state snapshot
    have sum := total_drops ((machine config Handle).trail start calls)
    simp only [frameLoss_eq_false_iff, BridgeTelemetry.collectInputs, counted.ingestDropped,
      counted.sinkDropped, ← drops_eq_zero_iff, ← total_eq_zero_iff]
    rw [counter_eq_zero_iff (by omega), counter_eq_zero_iff (by omega), sum, Nat.add_eq_zero_iff]

/-- The sink that lost a frame is closed, and its slot is opened again. -/
def reopened : List (BridgeCall Unit) :=
  overflow ++ [.sinkClose (some ()), .sinkOpen (some ()) none]

theorem framesAccounted_reopened :
    ∃ run, (machine narrow Unit).exec { handles := fun _ => ⟨0⟩ } reopened = some run ∧
      run.bridge.bridgeStats.sinkDroppedOldest = 1 ∧
      (run.bridge.sinks 0).stats.droppedOldest = 0 ∧
      FramesAccounted { handles := fun _ => ⟨0⟩ } reopened run :=
  ⟨_, rfl, rfl, rfl, framesAccounted ⟨_, rfl⟩ rfl⟩

end BridgeRun

end EspNmeaBridge
