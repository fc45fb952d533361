import EspNmeaBridge.StatusLed.Policy
import Mathlib.Data.List.Induction

/-!
# Flash windows over unbounded uptime

What the LED shows, compared with the true times of the events that were
reported to it.  Each kind of flash is lit while its latest event is recent, as
intended, and again while the wrapped time since the end of that event's window
lies in the upper half of the clock's range.  The second case is `Reappears`.
-/

namespace EspNmeaBridge

open Library StatusLed

/-- The reports `status_led.c` passes on to the policy. -/
inductive StatusLedEvent where
  | tcpNmeaSessionStarted
  | tcpNmeaSessionEnded
  | tcpNmeaClientConnecting (connecting : Bool)
  | nmeaFrameReceived
  | nmeaFrameForwarded
  | nmeaSendFailed
  deriving DecidableEq, Repr

/-- The policy update of one report at the given elapsed time. -/
def StatusLedEvent.apply (state : StatusLedPolicyState) (elapsedMs : UInt32) :
    StatusLedEvent → StatusLedPolicyState
  | .tcpNmeaSessionStarted => StatusLed.tcpNmeaSessionStarted state
  | .tcpNmeaSessionEnded => StatusLed.tcpNmeaSessionEnded state
  | .tcpNmeaClientConnecting connecting => StatusLed.tcpNmeaClientConnecting state connecting
  | .nmeaFrameReceived => StatusLed.nmeaFrameReceived state elapsedMs
  | .nmeaFrameForwarded => StatusLed.nmeaFrameForwarded state elapsedMs
  | .nmeaSendFailed => StatusLed.nmeaSendFailed state elapsedMs

/-- Reports at nondecreasing true times since `status_led_start`, and a later
render time. -/
structure LedTimeline where
  events : List (Nat × StatusLedEvent)
  now : Nat
  ordered : events.Pairwise fun earlier later => earlier.1 ≤ later.1
  past : ∀ entry ∈ events, entry.1 ≤ now

/-- The policy state after the reports, each stamped with `(uint32_t)` of its
true time. -/
def ledStateAfter (events : List (Nat × StatusLedEvent)) : StatusLedPolicyState :=
  events.foldl (fun state entry => entry.2.apply state (truncated entry.1)) {}

namespace LedTimeline

def state (timeline : LedTimeline) : StatusLedPolicyState := ledStateAfter timeline.events

/-- What the LED shows at the render time. -/
def shown (timeline : LedTimeline) : StatusLedRgb :=
  render timeline.state (truncated timeline.now)

/-- An event of this kind happened less than one flash window ago. -/
def Recent (timeline : LedTimeline) (event : StatusLedEvent) : Prop :=
  ∃ time, (time, event) ∈ timeline.events ∧ timeline.now - time < nmeaActivityFlashMs

/-- The time of the latest event of this kind. -/
def latest (event : StatusLedEvent) (events : List (Nat × StatusLedEvent)) : Option Nat :=
  events.foldl (fun last entry => if entry.2 = event then some entry.1 else last) none

/-- The flash window of the latest event of this kind is over, and the time since
its end, modulo `2 ^ 32` ms, is at least `2 ^ 31` ms. -/
def Reappears (timeline : LedTimeline) (event : StatusLedEvent) : Prop :=
  ∃ time, latest event timeline.events = some time ∧
    time + nmeaActivityFlashMs ≤ timeline.now ∧
    2 ^ 31 ≤ (timeline.now - (time + nmeaActivityFlashMs)) % 2 ^ 32

end LedTimeline

/-- The three flashes. -/
inductive Flash where
  | error
  | forwarded
  | activity

namespace Flash

/-- The report that starts the flash. -/
def event : Flash → StatusLedEvent
  | .error => .nmeaSendFailed
  | .forwarded => .nmeaFrameForwarded
  | .activity => .nmeaFrameReceived

def active (flash : Flash) (state : StatusLedPolicyState) : Bool :=
  match flash with
  | .error => state.nmeaErrorFlashActive
  | .forwarded => state.nmeaForwardedFlashActive
  | .activity => state.nmeaActivityFlashActive

def untilMs (flash : Flash) (state : StatusLedPolicyState) : UInt32 :=
  match flash with
  | .error => state.nmeaErrorFlashUntilMs
  | .forwarded => state.nmeaForwardedFlashUntilMs
  | .activity => state.nmeaActivityFlashUntilMs

/-- The flash is on in a render at the given elapsed time. -/
def lit (flash : Flash) (state : StatusLedPolicyState) (elapsedMs : UInt32) : Bool :=
  flashActiveUntil (flash.active state) elapsedMs (flash.untilMs state)

theorem flashDeadline_truncated (time : Nat) :
    flashDeadline (truncated time) = truncated (time + nmeaActivityFlashMs) :=
  (UInt32.ofNat_add time nmeaActivityFlashMs).symm

/-- A report sets the flash it starts. -/
theorem apply_event (flash : Flash) (state : StatusLedPolicyState) (elapsedMs : UInt32) :
    flash.active (flash.event.apply state elapsedMs) = true ∧
      flash.untilMs (flash.event.apply state elapsedMs) = flashDeadline elapsedMs := by
  cases flash <;> exact ⟨rfl, rfl⟩

/-- A report leaves the flashes alone it does not start. -/
theorem apply_of_ne (flash : Flash) {report : StatusLedEvent} (other : report ≠ flash.event)
    (state : StatusLedPolicyState) (elapsedMs : UInt32) :
    flash.active (report.apply state elapsedMs) = flash.active state ∧
      flash.untilMs (report.apply state elapsedMs) = flash.untilMs state := by
  cases report with
  | tcpNmeaSessionEnded =>
      simp only [StatusLedEvent.apply, StatusLed.tcpNmeaSessionEnded]
      split <;> cases flash <;> exact ⟨rfl, rfl⟩
  | tcpNmeaSessionStarted => cases flash <;> exact ⟨rfl, rfl⟩
  | tcpNmeaClientConnecting connecting => cases flash <;> exact ⟨rfl, rfl⟩
  | nmeaFrameReceived | nmeaFrameForwarded | nmeaSendFailed =>
      cases flash <;> first | exact ⟨rfl, rfl⟩ | exact (other rfl).elim

/-- A flash's fields record exactly the latest report that starts it. -/
theorem state_latest (flash : Flash) (events : List (Nat × StatusLedEvent)) :
    match LedTimeline.latest flash.event events with
    | none => flash.active (ledStateAfter events) = false
    | some time => flash.active (ledStateAfter events) = true ∧
        flash.untilMs (ledStateAfter events) = truncated (time + nmeaActivityFlashMs) := by
  induction events using List.reverseRecOn with
  | nil => cases flash <;> rfl
  | append_singleton events entry ih =>
      obtain ⟨time, report⟩ := entry
      simp only [LedTimeline.latest, ledStateAfter, List.foldl_append, List.foldl_cons,
        List.foldl_nil] at ih ⊢
      by_cases starts : report = flash.event
      · subst starts
        simp only [if_true]
        rw [← flashDeadline_truncated]
        exact flash.apply_event _ _
      · obtain ⟨activeSame, untilSame⟩ := flash.apply_of_ne starts
          (events.foldl (fun state entry => entry.2.apply state (truncated entry.1)) {})
          (truncated time)
        rw [if_neg starts, activeSame, untilSame]
        exact ih

end Flash

namespace LedTimeline

variable (timeline : LedTimeline)

theorem latest_concat (event : StatusLedEvent) (events : List (Nat × StatusLedEvent))
    (entry : Nat × StatusLedEvent) :
    latest event (events ++ [entry]) =
      if entry.2 = event then some entry.1 else latest event events := by
  simp [latest]

/-- In a nondecreasing history the latest event of a kind is the one with the
greatest time. -/
theorem le_of_latest {event : StatusLedEvent} {events : List (Nat × StatusLedEvent)}
    (ordered : events.Pairwise fun earlier later => earlier.1 ≤ later.1) {time : Nat}
    (member : (time, event) ∈ events) :
    ∃ last, latest event events = some last ∧ (last, event) ∈ events ∧ time ≤ last := by
  induction events using List.reverseRecOn with
  | nil => simp at member
  | append_singleton events entry ih =>
      obtain ⟨sorted, _, final⟩ := List.pairwise_append.mp ordered
      rw [latest_concat]
      by_cases same : entry.2 = event
      · refine ⟨entry.1, by simp [same], by simp [← same], ?_⟩
        rcases List.mem_append.mp member with earlier | last
        · exact final _ earlier entry (by simp)
        · rw [← List.mem_singleton.mp last]
      · have earlier : (time, event) ∈ events := by
          rcases List.mem_append.mp member with earlier | last
          · exact earlier
          · exact absurd (by rw [← List.mem_singleton.mp last]) same
        obtain ⟨last, isLast, lastMem, le⟩ := ih sorted earlier
        exact ⟨last, by simp [same, isLast], by simp [lastMem], le⟩

theorem mem_of_latest {event : StatusLedEvent} {events : List (Nat × StatusLedEvent)}
    {time : Nat} (isLast : latest event events = some time) : (time, event) ∈ events := by
  induction events using List.reverseRecOn with
  | nil => simp [latest] at isLast
  | append_singleton events entry ih =>
      rw [latest_concat] at isLast
      split at isLast
      · rename_i same
        obtain rfl := Option.some.inj isLast
        simp [← same]
      · simp [ih isLast]

variable {timeline} in
theorem recent_iff_latest {event : StatusLedEvent} :
    timeline.Recent event ↔
      ∃ time, latest event timeline.events = some time ∧
        timeline.now < time + nmeaActivityFlashMs := by
  constructor
  · rintro ⟨time, member, near⟩
    obtain ⟨last, isLast, lastMem, le⟩ := le_of_latest timeline.ordered member
    have := timeline.past _ member
    exact ⟨last, isLast, by simp only at this; omega⟩
  · rintro ⟨time, isLast, near⟩
    have member := mem_of_latest isLast
    have := timeline.past _ member
    exact ⟨time, member, by simp only at this; omega⟩

variable {timeline} in
/-- A stale flash is not a recent one. -/
theorem Reappears.not_recent {event : StatusLedEvent} (stale : timeline.Reappears event) :
    ¬timeline.Recent event := by
  rw [recent_iff_latest]
  rintro ⟨time, isLast, near⟩
  obtain ⟨other, isOther, passed, _⟩ := stale
  rw [isLast] at isOther
  obtain rfl := Option.some.inj isOther
  omega

/-- A flash is on exactly when its event is recent or its window reappears. -/
theorem lit_iff (flash : Flash) :
    flash.lit timeline.state (truncated timeline.now) = true ↔
      timeline.Recent flash.event ∨ timeline.Reappears flash.event := by
  have fields := flash.state_latest timeline.events
  rw [recent_iff_latest]
  simp only [Reappears]
  cases isLast : latest flash.event timeline.events with
  | none =>
      rw [isLast] at fields
      simp only at fields
      simp [Flash.lit, flashActiveUntil, state, fields]
  | some time =>
      rw [isLast] at fields
      obtain ⟨active, deadline⟩ := fields
      simp only [Flash.lit, flashActiveUntil, state, active, deadline, Bool.true_and,
        Option.some.injEq, exists_eq_left']
      rcases Nat.lt_or_ge timeline.now (time + nmeaActivityFlashMs) with ahead | passed
      · have := timeline.past _ (mem_of_latest isLast)
        simp only [nmeaActivityFlashMs] at ahead ⊢
        simp [isBefore_truncated_of_lt ahead (by omega), ahead]
      · rw [isBefore_truncated_of_le passed]
        simp [passed, Nat.not_lt.mpr passed]

end LedTimeline

/-- The LED shows what the true times of the reports ask for: the failure, the
forwarding and the receipt flash for one window each, in this order of priority,
and the base pattern otherwise. -/
structure FlashesExact (timeline : LedTimeline) : Prop where
  error : timeline.shown = errorColour ↔ timeline.Recent .nmeaSendFailed
  forwarded : ¬timeline.Recent .nmeaSendFailed →
    (timeline.shown = forwardedColour ↔ timeline.Recent .nmeaFrameForwarded)
  activity : ¬timeline.Recent .nmeaSendFailed → ¬timeline.Recent .nmeaFrameForwarded →
    (timeline.shown = activityColour ↔ timeline.Recent .nmeaFrameReceived)
  base : ¬timeline.Recent .nmeaSendFailed → ¬timeline.Recent .nmeaFrameForwarded →
    ¬timeline.Recent .nmeaFrameReceived →
    timeline.shown = renderBase (baseState timeline.state) (truncated timeline.now)

namespace LedTimeline

variable {timeline : LedTimeline}

theorem shown_eq :
    timeline.shown =
      if Flash.error.lit timeline.state (truncated timeline.now) then errorColour
      else if Flash.forwarded.lit timeline.state (truncated timeline.now) then forwardedColour
      else if Flash.activity.lit timeline.state (truncated timeline.now) then activityColour
      else renderBase (baseState timeline.state) (truncated timeline.now) := rfl

theorem renderBase_ne_error (base : StatusLedBaseState) (elapsedMs : UInt32) :
    renderBase base elapsedMs ≠ errorColour := by
  intro equal
  have red := renderBase_red_le base elapsedMs
  rw [equal] at red
  exact absurd red (by decide)

theorem renderBase_ne_forwarded (base : StatusLedBaseState) (elapsedMs : UInt32) :
    renderBase base elapsedMs ≠ forwardedColour := by
  intro equal
  have blue := renderBase_blue base elapsedMs
  rw [equal] at blue
  exact absurd blue (by decide)

theorem renderBase_ne_activity (base : StatusLedBaseState) (elapsedMs : UInt32) :
    renderBase base elapsedMs ≠ activityColour := by
  intro equal
  have blue := renderBase_blue base elapsedMs
  rw [equal] at blue
  exact absurd blue (by decide)

end LedTimeline

open LedTimeline in
/-- The LED shows what the true times ask for if and only if no expired flash
reappears at or above the priority of what is to be shown. -/
theorem flashesExact_iff (timeline : LedTimeline) :
    FlashesExact timeline ↔
      ¬timeline.Reappears .nmeaSendFailed ∧
      (timeline.Recent .nmeaSendFailed ∨
        ¬timeline.Reappears .nmeaFrameForwarded ∧
        (timeline.Recent .nmeaFrameForwarded ∨ ¬timeline.Reappears .nmeaFrameReceived)) := by
  have errorLit := timeline.lit_iff .error
  have forwardedLit := timeline.lit_iff .forwarded
  have activityLit := timeline.lit_iff .activity
  simp only [Flash.event] at errorLit forwardedLit activityLit
  have baseNotError := renderBase_ne_error (baseState timeline.state) (truncated timeline.now)
  have baseNotForwarded :=
    renderBase_ne_forwarded (baseState timeline.state) (truncated timeline.now)
  have baseNotActivity :=
    renderBase_ne_activity (baseState timeline.state) (truncated timeline.now)
  have distinct : forwardedColour ≠ errorColour ∧ activityColour ≠ errorColour ∧
      activityColour ≠ forwardedColour := by decide
  have shown := timeline.shown_eq
  by_cases failed : timeline.Recent .nmeaSendFailed
  · -- the failure flash is due, whatever the lower flashes do
    have fresh : ¬timeline.Reappears .nmeaSendFailed := fun stale => stale.not_recent failed
    rw [if_pos (errorLit.mpr (Or.inl failed))] at shown
    refine iff_of_true ⟨by simp [shown, failed], ?_, ?_, ?_⟩ ⟨fresh, Or.inl failed⟩ <;>
      exact fun none => absurd failed none
  by_cases failedStale : timeline.Reappears .nmeaSendFailed
  · rw [if_pos (errorLit.mpr (Or.inr failedStale))] at shown
    exact iff_of_false (fun exact => failed (exact.error.mp shown))
      (fun fresh => fresh.1 failedStale)
  rw [if_neg (by rw [errorLit]; simp [failed, failedStale])] at shown
  by_cases forwarded : timeline.Recent .nmeaFrameForwarded
  · have fresh : ¬timeline.Reappears .nmeaFrameForwarded :=
      fun stale => stale.not_recent forwarded
    rw [if_pos (forwardedLit.mpr (Or.inl forwarded))] at shown
    refine iff_of_true ⟨by simp [shown, failed, distinct], fun _ => by simp [shown, forwarded],
      ?_, ?_⟩ ⟨failedStale, Or.inr ⟨fresh, Or.inl forwarded⟩⟩ <;>
      exact fun _ none => absurd forwarded none
  by_cases forwardedStale : timeline.Reappears .nmeaFrameForwarded
  · rw [if_pos (forwardedLit.mpr (Or.inr forwardedStale))] at shown
    exact iff_of_false (fun exact => forwarded ((exact.forwarded failed).mp shown))
      (fun fresh => fresh.2.elim failed fun rest => rest.1 forwardedStale)
  rw [if_neg (by rw [forwardedLit]; simp [forwarded, forwardedStale])] at shown
  by_cases received : timeline.Recent .nmeaFrameReceived
  · have fresh : ¬timeline.Reappears .nmeaFrameReceived := fun stale => stale.not_recent received
    rw [if_pos (activityLit.mpr (Or.inl received))] at shown
    exact iff_of_true ⟨by simp [shown, failed, distinct], by simp [shown, forwarded, distinct],
      fun _ _ => by simp [shown, received], fun _ _ none => absurd received none⟩
      ⟨failedStale, Or.inr ⟨forwardedStale, Or.inr fresh⟩⟩
  by_cases receivedStale : timeline.Reappears .nmeaFrameReceived
  · rw [if_pos (activityLit.mpr (Or.inr receivedStale))] at shown
    refine iff_of_false (fun exact => received ((exact.activity failed forwarded).mp shown)) ?_
    exact fun fresh => fresh.2.elim failed fun rest =>
      rest.2.elim forwarded fun unseen => unseen receivedStale
  -- no flash is on: the base pattern shows
  rw [if_neg (by rw [activityLit]; simp [received, receivedStale])] at shown
  exact iff_of_true ⟨by simp [shown, failed, baseNotError],
    by simp [shown, forwarded, baseNotForwarded], by simp [shown, received, baseNotActivity],
    fun _ _ _ => shown⟩ ⟨failedStale, Or.inr ⟨forwardedStale, Or.inr receivedStale⟩⟩

/-- A frame received once, and nothing for half a timer wrap after its flash. -/
def idleHalfWrap : LedTimeline where
  events := [(0, .nmeaFrameReceived)]
  now := nmeaActivityFlashMs + 2 ^ 31
  ordered := by simp
  past := by simp

/-- The expired receipt flash is on again. -/
theorem flashes_not_exact : ¬∀ timeline : LedTimeline, FlashesExact timeline := by
  intro exact
  have stale : idleHalfWrap.Reappears .nmeaFrameReceived :=
    ⟨0, rfl, by decide, by decide⟩
  have noneFailed : ¬idleHalfWrap.Recent .nmeaSendFailed := by
    rintro ⟨time, member, _⟩
    simp [idleHalfWrap] at member
  have noneForwarded : ¬idleHalfWrap.Recent .nmeaFrameForwarded := by
    rintro ⟨time, member, _⟩
    simp [idleHalfWrap] at member
  have shown : idleHalfWrap.shown = activityColour := by decide +kernel
  exact stale.not_recent
    (((exact idleHalfWrap).activity noneFailed noneForwarded).mp shown)

end EspNmeaBridge
