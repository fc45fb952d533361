import EspNmeaBridge.BridgeTelemetry
import EspNmeaBridge.Library.Counter
import EspNmeaBridge.Library.Sampling

/-!
# The NMEA input window

The input state of a snapshot, compared with the true times at which frames were
accepted.  The telemetry state remembers when a call first counted the newest frame,
not when that frame was accepted: an idle input is reported as such only when it is,
but an input may be reported active up to one window after a late call.
-/

namespace EspNmeaBridge

open Library BridgeTelemetry

/-- One call of `bridge_telemetry_build_snapshot`: its time, and all inputs but the
number of accepted frames. -/
structure SnapshotCall where
  nowMs : Int64
  others : BridgeTelemetryInputs := {}
  deriving DecidableEq, Repr

/-- `inputs` of the call, with the counter the bridge keeps. -/
def SnapshotCall.inputs (call : SnapshotCall) (bridgeFramesIn : UInt32) : BridgeTelemetryInputs :=
  { call.others with bridgeFramesIn }

/-- Frames accepted at their times in milliseconds, and the calls between them. -/
abbrev InputEvent := SampleEvent Int SnapshotCall

def InputEvent.ms : InputEvent → Int
  | .arrival atMs => atMs
  | .sample call => call.nowMs.toInt

/-- The bridge's counter, and the state and the snapshot of the caller. -/
structure TelemetryRun where
  framesIn : UInt32 := 0
  state : BridgeTelemetryState := {}
  snapshot : BridgeTelemetrySnapshot := {}
  deriving DecidableEq, Repr

namespace TelemetryRun

def step (run : TelemetryRun) : InputEvent → TelemetryRun
  | .arrival _ => { run with framesIn := run.framesIn + 1 }
  | .sample call =>
      match buildSnapshot (some run.state) (some (call.inputs run.framesIn)) call.nowMs
          (some run.snapshot) with
      | (some state, some snapshot) => { run with state, snapshot }
      | _ => run

/-- The run after a history, from a state that is all zero. -/
def ofHistory (history : List InputEvent) : TelemetryRun := history.foldl step {}

@[simp] theorem ofHistory_concat (history : List InputEvent) (event : InputEvent) :
    ofHistory (history ++ [event]) = (ofHistory history).step event := by
  simp [ofHistory, List.foldl_append]

@[simp] theorem step_arrival (run : TelemetryRun) (atMs : Int) :
    run.step (.arrival atMs) = { run with framesIn := run.framesIn + 1 } := rfl

@[simp] theorem step_sample (run : TelemetryRun) (call : SnapshotCall) :
    run.step (.sample call) =
      let state := observeFramesIn run.state run.framesIn call.nowMs
      { run with
        state, snapshot := fillSnapshot state (call.inputs run.framesIn) call.nowMs } := rfl

end TelemetryRun

namespace BridgeTelemetry

/-- An update in terms of the number of frames accepted since the last one. -/
theorem observeFramesIn_eq (state : BridgeTelemetryState) {missed : Nat} (small : missed < 2 ^ 32)
    (fresh : state.initialized = false → state.lastBridgeFramesIn = 0) (nowMs : Int64) :
    observeFramesIn state (state.lastBridgeFramesIn + UInt32.ofNat missed) nowMs =
      { lastBridgeFramesIn := state.lastBridgeFramesIn + UInt32.ofNat missed
        lastBridgeFrameMs :=
          if missed ≠ 0 then nowMs
          else if state.initialized then state.lastBridgeFrameMs else Int64.minValue
        initialized := true } := by
  have noticed : UInt32.ofNat missed = 0 ↔ missed = 0 := counter_eq_zero_iff small
  cases state with
  | mk last lastMs initialized =>
      cases initialized with
      | false =>
          have zero : last = 0 := fresh rfl
          simp [observeFramesIn, zero, UInt32.pos_iff_ne_zero, noticed]
      | true =>
          by_cases quiet : missed = 0
          · simp [observeFramesIn, quiet]
          · simp [observeFramesIn, quiet, noticed]

@[simp] theorem observeFramesIn_initialized (state : BridgeTelemetryState) (framesIn : UInt32)
    (nowMs : Int64) : (observeFramesIn state framesIn nowMs).initialized = true := by
  cases started : state.initialized with
  | false => simp [observeFramesIn, started]
  | true =>
      by_cases same : framesIn = state.lastBridgeFramesIn <;>
        simp [observeFramesIn, started, same]

/-- The time since an earlier call does not overflow. -/
theorem elapsed_toInt {lastMs nowMs : Int64} (nonneg : 0 ≤ lastMs.toInt)
    (ordered : lastMs.toInt ≤ nowMs.toInt) :
    (nowMs - lastMs).toInt = nowMs.toInt - lastMs.toInt := by
  have bound := nowMs.toInt_lt
  rw [Int64.toInt_sub]
  apply Int.bmod_eq_of_le
  · omega
  · omega

end BridgeTelemetry

namespace TelemetryRun

/-- The time that stands for a sighting. -/
def lastFrameMs : Option (Int × SnapshotCall) → Int64
  | none => Int64.minValue
  | some (_, first) => first.nowMs

/-- What the state knows after a history in which no call has missed `2 ^ 32` frames. -/
structure Tracks (history : List InputEvent) : Prop where
  missed : (ofHistory history).framesIn =
    (ofHistory history).state.lastBridgeFramesIn + UInt32.ofNat (sampled history).unseen.length
  fresh : (ofHistory history).state.initialized = false →
    (ofHistory history).state.lastBridgeFramesIn = 0 ∧ (sampled history).sighting = none
  sighted : (ofHistory history).state.initialized = true →
    (ofHistory history).state.lastBridgeFrameMs = lastFrameMs (sampled history).sighting

/-- Fewer than `2 ^ 32` frames are accepted before the first call and between calls. -/
def CallsKeepUp (history : List InputEvent) : Prop :=
  ∀ before call after, history = before ++ .sample call :: after →
    (sampled before).unseen.length < 2 ^ 32

theorem CallsKeepUp.of_append {history later : List InputEvent}
    (keepUp : CallsKeepUp (history ++ later)) : CallsKeepUp history := by
  intro before call after split
  exact keepUp before call (after ++ later) (by rw [split]; simp)

theorem tracks {history : List InputEvent} (keepUp : CallsKeepUp history) : Tracks history := by
  induction history using List.reverseRecOn with
  | nil => exact ⟨rfl, fun _ => ⟨rfl, rfl⟩, fun started => nomatch started⟩
  | append_singleton history event ih =>
      have old := ih keepUp.of_append
      cases event with
      | arrival atMs =>
          constructor
          · simp [Sampled.step, old.missed, add_assoc]
          · simpa [Sampled.step] using old.fresh
          · simpa [Sampled.step] using old.sighted
      | sample call =>
          have small := keepUp history call [] rfl
          have update := observeFramesIn_eq (ofHistory history).state small
            (fun first => (old.fresh first).1) call.nowMs
          rw [← old.missed] at update
          constructor
          · simp [Sampled.step, update]
          · simp [update]
          · intro _
            rw [ofHistory_concat, step_sample, sampled_concat]
            simp only [update, Sampled.step]
            cases last : (sampled history).unseen.getLast? with
            | some newest =>
                have some : (sampled history).unseen ≠ [] := by
                  intro none
                  simp [none] at last
                simp [some, lastFrameMs]
            | none =>
                rw [List.getLast?_eq_none_iff.mp last]
                cases started : (ofHistory history).state.initialized with
                | true => simp [old.sighted started]
                | false => simp [(old.fresh started).2, lastFrameMs]

end TelemetryRun

namespace InputEvent

/-- The events happen in this order, and calls after the system has started. -/
structure Timed (history : List InputEvent) : Prop where
  ordered : history.Pairwise fun earlier later => earlier.ms ≤ later.ms
  uptime : ∀ call ∈ samples history, 0 ≤ call.nowMs.toInt

instance (history : List InputEvent) : Decidable (Timed history) :=
  decidable_of_iff ((history.Pairwise fun earlier later => earlier.ms ≤ later.ms) ∧
    ∀ call ∈ samples history, 0 ≤ call.nowMs.toInt)
    ⟨fun both => ⟨both.1, both.2⟩, fun timed => ⟨timed.ordered, timed.uptime⟩⟩

variable {before after : List InputEvent} {call : SnapshotCall}

theorem Timed.of_append (timed : Timed (before ++ after)) : Timed before := by
  constructor
  · exact (List.pairwise_append.mp timed.ordered).1
  · intro call member
    exact timed.uptime call (mem_samples.mpr (List.mem_append_left _ (mem_samples.mp member)))

theorem Timed.le_call (timed : Timed (before ++ [.sample call])) {event : InputEvent}
    (member : event ∈ before ++ [.sample call]) : event.ms ≤ call.nowMs.toInt := by
  cases List.mem_append.mp member with
  | inl earlier =>
      have ordered := (List.pairwise_append.mp timed.ordered).2.2
      exact ordered event earlier (.sample call) (List.mem_singleton_self _)
  | inr same =>
      rw [List.mem_singleton.mp same]
      exact Int.le_refl _

end InputEvent

namespace TelemetryRun

open InputEvent

variable {history before : List InputEvent} {call : SnapshotCall}

/-- What a call after this history reports. -/
def reported (before : List InputEvent) (call : SnapshotCall) : BridgeTelemetryNmeaInputState :=
  (ofHistory (before ++ [.sample call])).snapshot.inputState

/-- What the state holds when a call fills its snapshot. -/
inductive CallSees (before : List InputEvent) (call : SnapshotCall) : Prop where
  | nothing
      (empty : arrivals before = [])
      (sighted : (sampled (before ++ [.sample call])).sighting = none)
      (last : (ofHistory (before ++ [.sample call])).state.lastBridgeFrameMs = Int64.minValue)
  | frame (newest : Int) (first : SnapshotCall)
      (member : newest ∈ arrivals before)
      (sighted : (sampled (before ++ [.sample call])).sighting = some (newest, first))
      (last : (ofHistory (before ++ [.sample call])).state.lastBridgeFrameMs = first.nowMs)
      (uptime : 0 ≤ first.nowMs.toInt)
      (past : first.nowMs.toInt ≤ call.nowMs.toInt)

theorem callSees (timed : Timed (before ++ [.sample call]))
    (keepUp : CallsKeepUp (before ++ [.sample call])) : CallSees before call := by
  have last := (tracks keepUp).sighted (by simp)
  cases sighted : (sampled (before ++ [.sample call])).sighting with
  | none =>
      rw [sighted] at last
      have empty := arrivals_of_not_sighted sighted
      simp only [arrivals_append, arrivals_sample, arrivals_nil, List.append_nil, sampled_concat,
        Sampled.step] at empty
      exact CallSees.nothing empty sighted last
  | some pair =>
      rw [sighted] at last
      have called := first_mem_samples sighted
      have member : pair.1 ∈ arrivals before := by simpa using newest_mem_arrivals sighted
      exact CallSees.frame pair.1 pair.2 member sighted last (timed.uptime _ called)
        (timed.le_call (mem_samples.mp called))

theorem ne_minValue_of_nonneg {ms : Int64} (nonneg : 0 ≤ ms.toInt) : ms ≠ Int64.minValue := by
  intro sentinel
  rw [sentinel] at nonneg
  contradiction

/-- A call reports an active input exactly while the window since the call that has
sighted the newest frame is open. -/
theorem reported_active_iff (timed : Timed (before ++ [.sample call]))
    (keepUp : CallsKeepUp (before ++ [.sample call])) :
    reported before call = .active ↔
      ∃ newest first, (sampled (before ++ [.sample call])).sighting = some (newest, first) ∧
        call.nowMs.toInt - first.nowMs.toInt ≤ nmeaInputWindowMs.toInt := by
  have shown : reported before call =
      inputState (ofHistory (before ++ [.sample call])).state call.nowMs := by
    simp [reported, fillSnapshot]
  rw [shown, inputState]
  cases callSees timed keepUp with
  | nothing empty sighted last =>
      rw [sighted, last]
      simp
  | frame newest first member sighted last uptime past =>
      have elapsed : call.nowMs - first.nowMs ≤ nmeaInputWindowMs ↔
          call.nowMs.toInt - first.nowMs.toInt ≤ nmeaInputWindowMs.toInt := by
        rw [Int64.le_iff_toInt_le, elapsed_toInt uptime past]
      rw [sighted, last]
      simp [ne_minValue_of_nonneg uptime, elapsed]

theorem upToCall (timed : Timed history) (keepUp : CallsKeepUp history)
    {after : List InputEvent} (split : history = before ++ .sample call :: after) :
    Timed (before ++ [.sample call]) ∧ CallsKeepUp (before ++ [.sample call]) := by
  rw [List.append_cons] at split
  subst split
  exact ⟨timed.of_append, keepUp.of_append⟩

theorem CallsKeepUp.of_few (few : (arrivals history).length < 2 ^ 32) : CallsKeepUp history := by
  intro before call after split
  obtain ⟨seen, arrived⟩ := exists_arrivals_eq_append_unseen before
  rw [split, arrivals_append, arrived] at few
  simp only [List.length_append] at few
  omega

/-- A call reports an active input only if a frame was accepted in its window. -/
def ActiveSound (history : List InputEvent) : Prop :=
  ∀ before call after, history = before ++ .sample call :: after →
    reported before call = .active →
    ∃ atMs ∈ arrivals before,
      call.nowMs.toInt - nmeaInputWindowMs.toInt ≤ atMs ∧ atMs ≤ call.nowMs.toInt

/-- Among the calls that follow a frame, with no other frame between, none comes in
the window after the first of them but after the frame's own window. -/
def CallsPrompt (history : List InputEvent) : Prop :=
  ∀ before newest first later after,
    history = before ++ .arrival newest :: .sample first :: later ++ after →
    arrivals later = [] → ∀ call, .sample call ∈ .sample first :: later →
      call.nowMs.toInt - first.nowMs.toInt ≤ nmeaInputWindowMs.toInt →
      call.nowMs.toInt - newest ≤ nmeaInputWindowMs.toInt

/-- The same condition, for each call and what it has sighted. -/
theorem callsPrompt_iff : CallsPrompt history ↔
    ∀ before call after, history = before ++ .sample call :: after →
      ∀ newest first,
        (sampled (before ++ [.sample call])).sighting = some (newest, first) →
        call.nowMs.toInt - first.nowMs.toInt ≤ nmeaInputWindowMs.toInt →
        call.nowMs.toInt - newest ≤ nmeaInputWindowMs.toInt := by
  constructor
  · intro prompt before call after split newest first sighted
    obtain ⟨front, later, quiet, shape⟩ := exists_eq_of_sighting sighted
    simp only [sampled_concat, Sampled.step, List.map_nil, List.append_nil] at shape
    apply prompt front newest first later after
    · rw [← shape, split]
      simp
    · exact quiet
    · have last := congrArg List.getLast? shape
      rw [List.getLast?_concat, List.getLast?_append_cons, List.getLast?_cons_cons] at last
      exact List.mem_of_getLast? last.symm
  · intro prompt before newest first later after split quiet call member
    obtain ⟨others, rest, calls⟩ := List.append_of_mem member
    apply prompt (before ++ .arrival newest :: others) call (rest ++ after)
    · rw [split, calls]
      simp
    · cases others with
      | nil =>
          cases calls
          rw [List.append_assoc, List.cons_append, List.nil_append,
            sampled_of_eq before newest first rfl]
      | cons other others =>
          rw [List.cons_append, List.cons.injEq] at calls
          obtain ⟨rfl, rfl⟩ := calls
          have silent : arrivals (others ++ [.sample call]) = [] := by
            rw [arrivals_append, List.append_eq_nil_iff] at quiet
            simp [quiet.1]
          rw [List.append_assoc, List.cons_append, List.cons_append,
            sampled_of_eq before newest first silent]

/-- For histories of fewer than `2 ^ 32` frames.  A call that comes late for a frame
opens a window of its own. -/
theorem activeSound_iff (timed : Timed history) (few : (arrivals history).length < 2 ^ 32) :
    ActiveSound history ↔ CallsPrompt history := by
  rw [callsPrompt_iff]
  have keepUp := CallsKeepUp.of_few few
  constructor
  · intro sound before call after split newest first sighted soon
    obtain ⟨timed, keepUp⟩ := upToCall timed keepUp split
    have active := (reported_active_iff timed keepUp).mpr
      ⟨newest, first, sighted, soon⟩
    obtain ⟨atMs, arrived, recent, _⟩ := sound before call after split active
    have newer : atMs ≤ newest := by
      apply time_arrival_le InputEvent.ms timed.ordered sighted
      · simp [Sampled.step]
      · simp [arrived]
    omega
  · intro prompt before call after split active
    obtain ⟨timed, keepUp⟩ := upToCall timed keepUp split
    obtain ⟨newest, first, sighted, soon⟩ := (reported_active_iff timed keepUp).mp active
    have member : newest ∈ arrivals before := by
      simpa using newest_mem_arrivals sighted
    have recent := prompt before call after split newest first sighted soon
    have past : newest ≤ call.nowMs.toInt :=
      timed.le_call (List.mem_append_left _ (mem_arrivals.mp member))
    exact ⟨newest, member, by omega, past⟩

/-- A frame at one second, and the first call a minute later. -/
def lateFirstCall : List InputEvent := [.arrival 1000, .sample { nowMs := 61000 }]

/-- The first call reports an input that has been idle for a minute as active. -/
theorem not_activeSound_lateFirstCall :
    Timed lateFirstCall ∧ (arrivals lateFirstCall).length < 2 ^ 32 ∧
      ¬ ActiveSound lateFirstCall := by
  have active : reported [.arrival 1000] { nowMs := 61000 } = .active := by decide
  refine ⟨by decide, by decide, ?_⟩
  intro sound
  have recent := sound [.arrival 1000] _ [] rfl active
  revert recent
  decide

/-- Calls that come with the frame and while its window is open. -/
def promptCalls : List InputEvent :=
  [.arrival 1000, .sample { nowMs := 1000 }, .sample { nowMs := 6000 }]

theorem activeSound_iff_promptCalls :
    reported [.arrival 1000, .sample { nowMs := 1000 }] { nowMs := 6000 } = .active ∧
      ActiveSound promptCalls := by
  constructor
  · decide
  · apply (activeSound_iff (by decide) (by decide)).mpr
    intro before newest first later after split quiet call member soon
    have frame : .arrival newest ∈ promptCalls := by
      rw [split]
      simp
    have called : .sample call ∈ promptCalls := by
      rw [split]
      simp only [List.mem_append, List.mem_cons] at member ⊢
      tauto
    simp only [promptCalls, List.mem_cons, List.not_mem_nil, or_false, reduceCtorEq, false_or,
      SampleEvent.sample.injEq, SampleEvent.arrival.injEq] at frame called
    rw [frame]
    cases called with
    | inl first =>
        rw [first]
        decide
    | inr second =>
        rw [second]
        decide

/-- What holds of every call of a history in which the calls keep up with the counter. -/
structure IdleSound (history : List InputEvent) : Prop where
  /-- A call reports an idle input only if no frame was accepted in its window. -/
  idle : ∀ before call after, history = before ++ .sample call :: after →
    reported before call = .idle →
    ∀ atMs ∈ arrivals before,
      ¬ (call.nowMs.toInt - nmeaInputWindowMs.toInt ≤ atMs ∧ atMs ≤ call.nowMs.toInt)
  /-- The sentinel stands for a history without frames. -/
  sentinel : ∀ before call after, history = before ++ .sample call :: after →
    ((ofHistory (before ++ [.sample call])).state.lastBridgeFrameMs = Int64.minValue ↔
      arrivals before = [])
  /-- Otherwise the elapsed time is exact. -/
  elapsed : ∀ before call after, history = before ++ .sample call :: after →
    let lastMs := (ofHistory (before ++ [.sample call])).state.lastBridgeFrameMs
    lastMs ≠ Int64.minValue →
      0 ≤ lastMs.toInt ∧ (call.nowMs - lastMs).toInt = call.nowMs.toInt - lastMs.toInt

theorem idleSound (timed : Timed history) (keepUp : CallsKeepUp history) : IdleSound history := by
  constructor
  case idle =>
    intro before call after split idle atMs arrived recent
    obtain ⟨timed, keepUp⟩ := upToCall timed keepUp split
    have closed := (reported_active_iff timed keepUp).not.mp (by rw [idle]; decide)
    cases callSees timed keepUp with
    | nothing empty sighted last =>
        rw [empty] at arrived
        cases arrived
    | frame newest first member sighted last uptime past =>
        have older : atMs ≤ newest := by
          apply time_arrival_le InputEvent.ms timed.ordered sighted
          · simp [Sampled.step]
          · simp [arrived]
        have sightedLater : newest ≤ first.nowMs.toInt :=
          time_newest_le InputEvent.ms timed.ordered sighted
        have soon : call.nowMs.toInt - first.nowMs.toInt ≤ nmeaInputWindowMs.toInt := by omega
        exact closed ⟨newest, first, sighted, soon⟩
  case sentinel =>
    intro before call after split
    obtain ⟨timed, keepUp⟩ := upToCall timed keepUp split
    cases callSees timed keepUp with
    | nothing empty sighted last => exact iff_of_true last empty
    | frame newest first member sighted last uptime past =>
        rw [last]
        exact iff_of_false (ne_minValue_of_nonneg uptime) (List.ne_nil_of_mem member)
  case elapsed =>
    intro before call after split lastMs frame
    obtain ⟨timed, keepUp⟩ := upToCall timed keepUp split
    cases callSees timed keepUp with
    | nothing empty sighted last => exact absurd last frame
    | frame newest first member sighted last uptime past =>
        have same : lastMs = first.nowMs := last
        rw [same]
        exact ⟨uptime, elapsed_toInt uptime past⟩

/-- The frame's window is over at the third call. -/
theorem idleSound_promptCalls :
    reported [.arrival 1000, .sample { nowMs := 1000 }] { nowMs := 6001 } = .idle ∧
      IdleSound [.arrival 1000, .sample { nowMs := 1000 }, .sample { nowMs := 6001 }] := by
  constructor
  · decide
  · apply idleSound
    · decide
    · exact CallsKeepUp.of_few (by decide)

end TelemetryRun

end EspNmeaBridge
